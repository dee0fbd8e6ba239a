-- The lines of a text and their numbers. What stands before the first line feed is the first line,
-- and the lines behind it are those of the rest; so a number leads to one line or to none.
import LayerLint.Text.Blank

namespace LayerLint.Text

/-- The line with a number, counted from one. -/
def lineAt? (text : List Char) : Nat → Option (List Char)
  | 0 => none
  | number + 1 => (lines text)[number]?

/-- A line stands in a text under a number. A line that a line feed ends is shown without its end,
and what follows the last line feed is a line if it is anything. -/
inductive LineAt : List Char → Nat → List Char → Prop where
  | last {text : List Char} : text ≠ [] → '\n' ∉ text → LineAt text 1 text
  | first {line rest : List Char} : '\n' ∉ line →
      LineAt (line ++ '\n' :: rest) 1 (dropReturn line)
  | later {front rest line : List Char} {number : Nat} : '\n' ∉ front →
      LineAt rest number line → LineAt (front ++ '\n' :: rest) (number + 1) line

theorem lines_nil : lines [] = [] := rfl

theorem lines_of_not_mem {text : List Char} (hne : text ≠ []) (h : '\n' ∉ text) :
    lines text = [text] := by
  unfold lines
  rw [cut_of_not_mem h]
  cases text with
  | nil => exact absurd rfl hne
  | cons c rest => rfl

/-- The first line ends at the first line feed. -/
theorem lines_append {line : List Char} (h : '\n' ∉ line) (rest : List Char) :
    lines (line ++ '\n' :: rest) = dropReturn line :: lines rest := by
  unfold lines
  rw [cut_append rest h]
  cases hcut : cut '\n' rest with
  | nil => exact absurd hcut (cut_ne_nil '\n' rest)
  | cons part parts =>
    simp only [List.dropLast_cons_cons, List.map_cons, List.getLast?_cons_cons]
    split
    · rfl
    · rfl
    · rfl

example : lines "a\r\n\nb\r".toList = [['a'], [], ['b', '\r']] := by decide

/-- A text without a line feed has no line but itself. -/
theorem lineAt_of_not_mem {text line : List Char} (hfeed : '\n' ∉ text) {index : Nat}
    (h : (lines text)[index]? = some line) : LineAt text (index + 1) line := by
  by_cases hne : text = []
  · rw [hne, lines_nil] at h
    cases h
  · rw [lines_of_not_mem hne hfeed] at h
    cases index with
    | zero =>
      cases h
      exact .last hne hfeed
    | succ index => cases h

theorem lineAt_of_getElem? {text line : List Char} {index : Nat}
    (h : (lines text)[index]? = some line) : LineAt text (index + 1) line := by
  -- A line that is not the first stands one place earlier in what follows the first line feed.
  induction index generalizing text with
  | zero =>
    by_cases hfeed : '\n' ∈ text
    · obtain ⟨front, rest, rfl, hfront⟩ := List.eq_append_cons_of_mem hfeed
      rw [lines_append hfront] at h
      cases h
      exact .first hfront
    · exact lineAt_of_not_mem hfeed h
  | succ index ih =>
    by_cases hfeed : '\n' ∈ text
    · obtain ⟨front, rest, rfl, hfront⟩ := List.eq_append_cons_of_mem hfeed
      rw [lines_append hfront] at h
      exact .later hfront (ih h)
    · exact lineAt_of_not_mem hfeed h

theorem LineAt.lineAt?_eq {text line : List Char} {number : Nat} (h : LineAt text number line) :
    lineAt? text number = some line := by
  induction h with
  | last hne hfeed =>
    unfold lineAt?
    rw [lines_of_not_mem hne hfeed]
    rfl
  | first hfront =>
    unfold lineAt?
    rw [lines_append hfront]
    rfl
  | @later front rest line number hfront _ ih =>
    cases number with
    | zero => cases ih
    | succ number =>
      unfold lineAt? at ih ⊢
      rw [lines_append hfront]
      exact ih

/-- A number leads to the line that stands under it, if one does. -/
theorem lineAt?_eq_some_iff {text line : List Char} {number : Nat} :
    lineAt? text number = some line ↔ LineAt text number line := by
  constructor
  · intro h
    cases number with
    | zero => cases h
    | succ index => exact lineAt_of_getElem? h
  · intro h
    exact h.lineAt?_eq

end LayerLint.Text
