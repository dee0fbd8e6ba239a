-- What is shown of a skeleton that cannot be read: the line that the fault names, with the line in
-- front of it and the line behind it. Whatever the number is, only lines that are there are shown.
import LayerLint.Proofs.Text.Lines
import LayerLint.Template.Analysis
import Mathlib.Data.List.Basic

namespace LayerLint.Template

/-! ## Parts of a list -/

section Slice

variable {α : Type} {xs : List α}

theorem slice?_eq_none_iff {first last : Nat} :
    slice? xs first last = none ↔ last < first ∨ xs.length < last := by
  unfold slice?
  by_cases h : first ≤ last ∧ last ≤ xs.length
  · rw [if_pos h]
    constructor
    · intro hnone
      cases hnone
    · intro hout
      omega
  · rw [if_neg h]
    constructor
    · intro _
      omega
    · intro _
      rfl

/-- The places in reverse order have nothing between them. -/
theorem getD_slice? {first last : Nat} (h : last ≤ xs.length) :
    (slice? xs first last).getD [] = (xs.drop first).take (last - first) := by
  unfold slice?
  by_cases hle : first ≤ last
  · rw [if_pos ⟨hle, h⟩, Option.getD_some, List.drop_take]
  · have hnot : ¬(first ≤ last ∧ last ≤ xs.length) := fun hboth => hle hboth.1
    have hzero : last - first = 0 := by omega
    rw [if_neg hnot, hzero, List.take_zero]
    rfl

/-- What is taken behind a place is what stands at the places from there on. -/
theorem take_drop_eq_filterMap (first count : Nat) :
    (xs.drop first).take count = (List.range' first count).filterMap (xs[·]?) := by
  induction count generalizing first with
  | zero => rfl
  | succ count ih =>
    rw [List.range'_succ, List.filterMap_cons]
    by_cases h : first < xs.length
    · rw [List.getElem?_eq_getElem h, List.drop_eq_getElem_cons h, List.take_succ_cons, ih]
    · -- Behind the end nothing stands at this place, nor at any place from there on.
      have hnone : xs[first]? = none := List.getElem?_eq_none (by omega)
      have hdrop : xs.drop first = [] := List.drop_eq_nil_of_le (by omega)
      have hnext : xs.drop (first + 1) = [] := List.drop_eq_nil_of_le (by omega)
      rw [hnone, hdrop, List.take_nil]
      simp only
      rw [← ih, hnext, List.take_nil]

end Slice

/-! ## The lines around a line -/

variable {text : List Char}

/-- The places that are asked for are there, unless the line is more than two behind the last. -/
theorem slice?_around_eq_none_iff {lines : List (List Char)} {line : Nat} :
    slice? lines (line - 2) (min (line + 1) lines.length) = none ↔ lines.length + 2 < line := by
  rw [slice?_eq_none_iff]
  omega

theorem linesAround_eq (lines : List (List Char)) (line : Nat) :
    linesAround lines line =
      (List.range' (line - 2) (line + 1 - (line - 2))).filterMap (lines[·]?) := by
  unfold linesAround
  rw [getD_slice? (Nat.min_le_right _ _), ← take_drop_eq_filterMap, List.take_eq_take_iff,
    List.length_drop]
  omega

theorem linesAround_lines (line : Nat) :
    linesAround (Text.lines text) line =
      [line - 1, line, line + 1].filterMap (Text.lineAt? text) := by
  rw [linesAround_eq]
  -- Two numbers have fewer than two lines in front of them, so that the part begins at the start.
  rcases line with _ | _ | number
  · rfl
  · rfl
  · have hcount : number + 2 + 1 - (number + 2 - 2) = 3 := by omega
    rw [hcount]
    rfl

/-- What is shown is a part of the text without a gap. -/
theorem isInfix_linesAround (lines : List (List Char)) (line : Nat) :
    linesAround lines line <:+: lines := by
  unfold linesAround
  rw [getD_slice? (Nat.min_le_right _ _)]
  exact (List.take_prefix _ _).isInfix.trans (List.drop_suffix _ _).isInfix

theorem mem_linesAround_of_lineAt {line : Nat} {shown : List Char}
    (h : Text.LineAt text line shown) : shown ∈ linesAround (Text.lines text) line := by
  rw [linesAround_lines]
  exact List.mem_filterMap.2 ⟨line, by simp, Text.lineAt?_eq_some_iff.2 h⟩

/-- A template that prints what cannot be read is reported with the lines around the fault. -/
theorem context_of_analyze {vocabulary : Vocabulary} {body : List UInt8} {tree : List Node}
    {rendered : String} (htree : treeOf vocabulary (Text.decodeLossy body) = .ok tree)
    (hrendered : render vocabulary tree = .ok rendered) {fault : Yaml.Fault}
    {context : List String} (h : analyze vocabulary body = .error (.skeleton fault context)) :
    context = contextAt rendered fault.line? := by
  unfold analyze at h
  rw [htree] at h
  simp only [hrendered] at h
  split at h
  · cases h
    rfl
  · cases h

/-- Whatever the number of a line is, the places that are asked for are there unless the line is
more than two behind the last. What is shown is a part of the text: the lines under this number and
the two beside it, as far as there are such lines. No line has the number nought. So the line of a
fault is shown if there is one, and these are the lines that a failed analysis reports. -/
theorem the_context_of_a_fault_is_the_lines_around_it (rendered : String) :
    contextAt rendered none = [] ∧
      (∀ line : Nat,
        (slice? (Text.lines rendered.toList) (line - 2)
            (min (line + 1) (Text.lines rendered.toList).length) = none ↔
          (Text.lines rendered.toList).length + 2 < line) ∧
        contextAt rendered (some line) <:+: (Text.lines rendered.toList).map String.ofList ∧
        contextAt rendered (some line) =
          ([line - 1, line, line + 1].filterMap (Text.lineAt? rendered.toList)).map
            String.ofList ∧
        ∀ shown, Text.LineAt rendered.toList line shown →
          String.ofList shown ∈ contextAt rendered (some line)) ∧
      ∀ vocabulary body tree fault context,
        treeOf vocabulary (Text.decodeLossy body) = .ok tree →
        render vocabulary tree = .ok rendered →
        analyze vocabulary body = .error (.skeleton fault context) →
        context = contextAt rendered fault.line? := by
  refine ⟨rfl, ?_, ?_⟩
  · intro line
    refine ⟨slice?_around_eq_none_iff, ?_, ?_, ?_⟩
    · unfold contextAt
      exact (isInfix_linesAround _ line).map String.ofList
    · exact congrArg (List.map String.ofList) (linesAround_lines line)
    · intro shown h
      unfold contextAt
      exact List.mem_map_of_mem (mem_linesAround_of_lineAt h)
  · intro vocabulary body tree fault context htree hrendered h
    exact context_of_analyze htree hrendered h

/-- A template whose second line prints two mappings on one line. -/
def crowdedSource : String := "a: 1\nb: \x7b\x7b .b \x7d\x7d: c: d\nc: 3\n"

def crowdedItems : List Item :=
  [.text "a: 1\nb: ", .action [⟨.field ["b"], true⟩] 2, .text ": c: d\nc: 3\n"]

def crowdedSkeleton : String := "a: 1\nb: : c: d\nc: 3\n"

/-- The second of two marks between a key and its value, on the second line. -/
def crowdedFault : Yaml.Fault := .grammar .valueNotAllowed ⟨8, 1, 3⟩ none

/-- The second line is reported, with its two neighbours. -/
theorem the_crowded_line_is_shown_between_its_neighbours :
    ∃ tree context,
      treeOf .empty (Text.decodeLossy crowdedSource.toUTF8.toList) = .ok tree ∧
      render .empty tree = .ok crowdedSkeleton ∧
      analyze .empty crowdedSource.toUTF8.toList = .error (.skeleton crowdedFault context) ∧
      crowdedFault.line? = some 2 ∧ context = ["a: 1", "b: : c: d", "c: 3"] ∧
      Text.LineAt crowdedSkeleton.toList 2 "b: : c: d".toList ∧ "b: : c: d" ∈ context := by
  have hitems : Item.ofText (Text.decodeLossy crowdedSource.toUTF8.toList) = .ok crowdedItems := by
    decide +kernel
  obtain ⟨tree, hparse, hrendered⟩ : ∃ tree, parse .empty crowdedItems = .ok tree ∧
      render .empty tree = .ok crowdedSkeleton := ⟨_, rfl, by decide +kernel⟩
  have htree : treeOf .empty (Text.decodeLossy crowdedSource.toUTF8.toList) = .ok tree := by
    simp only [treeOf, hitems, hparse]
  have hfault : Value.extract (Text.encode crowdedSkeleton) = .error crowdedFault := by
    decide +kernel
  have hanalyze : analyze .empty crowdedSource.toUTF8.toList =
      .error (.skeleton crowdedFault (faultContext crowdedSkeleton crowdedFault)) := by
    simp only [analyze, htree, hrendered, hfault]
  have hat : Text.LineAt crowdedSkeleton.toList 2 "b: : c: d".toList :=
    Text.lineAt?_eq_some_iff.1 (by decide)
  obtain ⟨_, haround, hreported⟩ :=
    the_context_of_a_fault_is_the_lines_around_it crowdedSkeleton
  obtain ⟨_, _, hshown, hmem⟩ := haround 2
  have hcontext : faultContext crowdedSkeleton crowdedFault = contextAt crowdedSkeleton (some 2) :=
    hreported _ _ _ _ _ htree hrendered hanalyze
  refine ⟨tree, _, htree, hrendered, hanalyze, rfl, ?_, hat, ?_⟩
  · rw [hcontext, hshown]
    decide
  · rw [hcontext]
    exact hmem _ hat

end LayerLint.Template
