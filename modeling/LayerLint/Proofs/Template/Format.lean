-- What a format prints. A format is made of texts, of percent signs that stand for themselves and of
-- directives; it is printed one piece after the other, and the directives take the values in turn.
import LayerLint.Template.Vocabulary

namespace LayerLint.Template.Format

/-! ## Pieces -/

/-- A piece of a format: a text without percent signs; a percent sign as the verb of a directive,
which stands for itself; or a directive with another verb. Flags may stand before a verb. -/
inductive Piece where
  | literal (text : List Char) (plain : '%' ∉ text)
  | escape (flags : List Char) (areFlags : flags.all isFlag = true)
  | directive (flags : List Char) (verb : Char) (areFlags : flags.all isFlag = true)
      (isVerb : isFlag verb = false ∧ verb ≠ '%')

namespace Piece

def spelling : Piece → List Char
  | literal text _ => text
  | escape flags _ => '%' :: (flags ++ ['%'])
  | directive flags verb _ _ => '%' :: (flags ++ [verb])

def isDirective : Piece → Bool
  | literal _ _ => false
  | escape _ _ => false
  | directive _ _ _ _ => true

/-- What is printed for a piece, if this value is there for it. -/
def shown (value : Option Datum) : Piece → List Char
  | literal text _ => text
  | escape _ _ => ['%']
  | directive _ verb _ _ =>
    match value with
    | some d => if verb = 'q' then (Text.quoted d.write).toList else d.write.toList
    | none => "%!".toList ++ verb :: "(MISSING)".toList

end Piece

/-- The format of some pieces. -/
def spell (pieces : List Piece) : List Char := pieces.flatMap Piece.spelling

/-- How many pieces take a value. -/
def directives (pieces : List Piece) : Nat := pieces.countP Piece.isDirective

/-- What is printed for some pieces: for each piece its own text, where the value of a directive is
the one at its place among the directives. -/
def printed (pieces : List Piece) (args : List Datum) : List Char :=
  (pieces.mapIdx fun i piece => piece.shown args[directives (pieces.take i)]?).flatten

/-! ## The first piece and the others -/

theorem directives_cons (piece : Piece) (pieces : List Piece) :
    directives (piece :: pieces) = directives [piece] + directives pieces := by
  rw [← List.singleton_append]
  exact List.countP_append

theorem printed_cons (piece : Piece) (pieces : List Piece) (args : List Datum) :
    printed (piece :: pieces) args =
      piece.shown args[0]? ++ printed pieces (args.drop (directives [piece])) := by
  have hshift : ∀ i, directives ((piece :: pieces).take (i + 1)) =
      directives [piece] + directives (pieces.take i) := by
    intro i
    rw [List.take_succ_cons, directives_cons]
  simp only [printed, List.mapIdx_cons, List.flatten_cons, hshift, List.getElem?_drop]
  rfl

/-- Only as many values are printed as there are directives. -/
theorem printed_take (pieces : List Piece) (args : List Datum) :
    printed pieces (args.take (directives pieces)) = printed pieces args := by
  induction pieces generalizing args with
  | nil => rfl
  | cons piece pieces ih =>
    rw [printed_cons, printed_cons, directives_cons, List.drop_take, Nat.add_sub_cancel_left, ih]
    congr 1
    cases piece with
    | literal text plain => rfl
    | escape flags areFlags => rfl
    | directive flags verb areFlags isVerb =>
      have hone : directives [.directive flags verb areFlags isVerb] = 1 := rfl
      rw [hone, Nat.add_comm, List.getElem?_take_of_lt (Nat.succ_pos _)]

/-! ## Printing -/

variable {rest : List Char} {args : List Datum}

theorem literal_append {text : List Char} (h : '%' ∉ text) :
    literal (text ++ rest) args = text ++ literal rest args := by
  induction text with
  | nil => rfl
  | cons c text ih =>
    obtain ⟨hc, htext⟩ := List.ne_and_not_mem_of_not_mem_cons h
    rw [List.cons_append, literal, if_neg hc.symm, ih htext, List.cons_append]

theorem directive_cons (c : Char) (rest : List Char) (args : List Datum) :
    directive (c :: rest) args =
      if isFlag c then directive rest args
      else if c = '%' then '%' :: literal rest args
      else
        match args with
        | [] => (missing c).toList ++ literal rest []
        | d :: more => (underVerb c d).toList ++ literal rest more := by
  cases args <;> rfl

theorem directive_append {flags : List Char} (h : flags.all isFlag = true) :
    directive (flags ++ rest) args = directive rest args := by
  induction flags with
  | nil => rfl
  | cons c flags ih =>
    rw [List.all_cons, Bool.and_eq_true] at h
    rw [List.cons_append, directive_cons, if_pos h.1, ih h.2]

theorem directive_verb {verb : Char} (h : isFlag verb = false ∧ verb ≠ '%') :
    directive (verb :: rest) args =
      (Piece.directive [] verb rfl h).shown args[0]? ++ literal rest (args.drop 1) := by
  rw [directive_cons, if_neg (by simp [h.1]), if_neg h.2]
  cases args with
  | nil => simp [missing, Piece.shown]
  | cons d args =>
    simp only [underVerb, Piece.shown, List.getElem?_cons_zero, List.drop_succ_cons, List.drop_zero]
    split <;> rfl

/-- Pieces are printed one after the other. -/
theorem literal_spell (pieces : List Piece) (args : List Datum) :
    literal (spell pieces) args = printed pieces args := by
  induction pieces generalizing args with
  | nil => rfl
  | cons piece pieces ih =>
    rw [printed_cons, ← ih, spell, List.flatMap_cons]
    cases piece with
    | literal text plain => exact literal_append plain
    | escape flags areFlags =>
      rw [Piece.spelling, List.cons_append, List.append_assoc, literal, if_pos rfl,
        directive_append areFlags]
      rfl
    | directive flags verb areFlags isVerb =>
      rw [Piece.spelling, List.cons_append, List.append_assoc, literal, if_pos rfl,
        directive_append areFlags, List.singleton_append, directive_verb isVerb]
      rfl

/-- A function that prints with a format prints the pieces of the format one after the other: a text
and a percent sign as they stand, and the directive at some place among the directives as the value
at this place, in quotes under one verb, or as the note that the value is missing. Values behind
those that the directives take make no difference. -/
theorem a_format_is_printed_piece_by_piece {v : Vocabulary} {name : String}
    (hname : v.get? name = some .printf) {format : Datum} {pieces : List Piece}
    (hformat : format.write = String.ofList (spell pieces)) (args : List Datum) :
    v.call name (format :: args) = .ok (.text (String.ofList (printed pieces args))) ∧
      v.call name (format :: args) = v.call name (format :: args.take (directives pieces)) := by
  have hcall : ∀ args, v.call name (format :: args) =
      .ok (.text (String.ofList (printed pieces args))) := by
    intro args
    rw [Vocabulary.call, hname]
    simp only [Vocabulary.apply, Vocabulary.withFirst, write, hformat, String.toList_ofList,
      literal_spell]
  refine ⟨hcall args, ?_⟩
  rw [hcall, hcall, printed_take]

/-- A format in which a directive has flags and another stands right behind a percent sign with
flags. -/
def crowdedPieces : List Piece :=
  [.literal "- ".toList (by decide), .directive "-05.2".toList 'q' (by decide) (by decide),
   .escape "+ ".toList (by decide), .directive [] 'd' (by decide) (by decide),
   .directive "#".toList 's' (by decide) (by decide)]

theorem the_crowded_format_is_printed_with_the_last_value_missing :
    Vocabulary.standard.get? "printf" = some .printf ∧
      Vocabulary.standard.call "printf" [.text "- %-05.2q%+ %%d%#s", .text "a\"b", .integer (-7)] =
        .ok (.text "- \"a\\\"b\"%-7%!s(MISSING)") := by
  have hname : Vocabulary.standard.get? "printf" = some .printf := by
    simp [Vocabulary.standard, realFunctions, includeName, Vocabulary.define, Vocabulary.get?]
  have hformat : (Datum.text "- %-05.2q%+ %%d%#s").write =
      String.ofList (spell crowdedPieces) := by decide
  have hprinted : String.ofList (printed crowdedPieces [.text "a\"b", .integer (-7)]) =
      "- \"a\\\"b\"%-7%!s(MISSING)" := by decide +kernel
  obtain ⟨hcall, _⟩ := a_format_is_printed_piece_by_piece hname hformat
    [.text "a\"b", .integer (-7)]
  exact ⟨hname, by rw [hcall, hprinted]⟩

end LayerLint.Template.Format
