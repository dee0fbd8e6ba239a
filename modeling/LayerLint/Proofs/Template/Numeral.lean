-- Whole numbers are read back from their numerals. A numeral is a sign, the mark of a base and
-- digits of the base with underscores between them. Behind a mark the digits are read on their own
-- and negated afterwards, and so one number of those that fit is not read: the least.
import LayerLint.Template.Datum
import Mathlib.Tactic.NormNum

namespace LayerLint.Template

/-! ## Numerals -/

/-- A digit of a base with its worth; a letter is of either case. -/
def IsDigit (radix : Nat) (c : Char) (worth : Nat) : Prop :=
  worth < radix ∧ (c = worth.digitChar ∨ c = worth.digitChar.toUpper)

instance (radix : Nat) (c : Char) (worth : Nat) : Decidable (IsDigit radix c worth) :=
  inferInstanceAs (Decidable (_ ∧ _))

/-- Digits of a base spell a number. Underscores may stand between two digits. -/
inductive Spells (radix : Nat) : List Char → Nat → Prop
  | digit {c : Char} {worth : Nat} : IsDigit radix c worth → Spells radix [c] worth
  | next {cs : List Char} {n : Nat} {c : Char} {worth : Nat} (gap : Nat) : Spells radix cs n →
      IsDigit radix c worth →
      Spells radix (cs ++ (List.replicate gap '_' ++ [c])) (n * radix + worth)

/-- What a sign makes of a number. -/
inductive Signs : List Char → Nat → Int → Prop
  | bare (n : Nat) : Signs [] n n
  | plus (n : Nat) : Signs ['+'] n n
  | minus (n : Nat) : Signs ['-'] n (-n)

/-- The bases that a numeral can be in, each behind the mark that announces it. -/
def baseMarks : List (List Char × Nat) :=
  [([], 10), (['0', 'x'], 16), (['0', 'X'], 16), (['0', 'o'], 8), (['0', 'O'], 8),
   (['0', 'b'], 2), (['0', 'B'], 2)]

/-- A numeral for a whole number in a base. -/
structure Numeral (radix : Nat) (value : Int) where
  sign : List Char
  mark : List Char
  digits : List Char
  magnitude : Nat
  signs : Signs sign magnitude value
  marks : (mark, radix) ∈ baseMarks
  spells : Spells radix digits magnitude

def Numeral.spelling {radix : Nat} {value : Int} (x : Numeral radix value) : List Char :=
  x.sign ++ (x.mark ++ x.digits)

variable {radix n : Nat} {value : Int} {cs ds mark : List Char} {c : Char}

/-- Every number has digits in every base. -/
theorem spells_toDigits (hradix : 1 < radix) (n : Nat) :
    Spells radix (Nat.toDigits radix n) n := by
  induction n using Nat.strongRecOn with
  | ind n ih =>
    by_cases hlt : n < radix
    · rw [Nat.toDigits_of_lt_base hlt]
      exact .digit ⟨hlt, .inl rfl⟩
    · have hpos : 0 < n / radix := Nat.div_pos (Nat.le_of_not_lt hlt) (by omega)
      have hmod : n % radix < radix := Nat.mod_lt _ (by omega)
      have hfront := ih (n / radix) (Nat.div_lt_self (by omega) hradix)
      have hnext := hfront.next 0 (show IsDigit radix _ _ from ⟨hmod, .inl rfl⟩)
      rw [List.replicate_zero, List.nil_append, ← Nat.toDigits_of_lt_base hmod,
        Nat.toDigits_append_toDigits hradix hpos hmod, Nat.div_add_mod, Nat.div_add_mod'] at hnext
      exact hnext

/-- Every whole number has a numeral in every base, behind every mark. -/
theorem exists_numeral (value : Int) (hmark : (mark, radix) ∈ baseMarks) :
    ∃ x : Numeral radix value, x.mark = mark ∧ x.digits = Nat.toDigits radix value.natAbs ∧
      x.sign = if value < 0 then ['-'] else [] := by
  have hradix : ∀ b ∈ baseMarks, 1 < b.2 := by decide
  have hspells := spells_toDigits (hradix _ hmark) value.natAbs
  by_cases hneg : value < 0
  · have hsigns : Signs ['-'] value.natAbs value := by
      have hminus := Signs.minus value.natAbs
      rwa [show -(value.natAbs : Int) = value by omega] at hminus
    exact ⟨⟨_, _, _, _, hsigns, hmark, hspells⟩, rfl, rfl, (if_pos hneg).symm⟩
  · have hsigns : Signs [] value.natAbs value := by
      have hbare := Signs.bare value.natAbs
      rwa [show (value.natAbs : Int) = value by omega] at hbare
    exact ⟨⟨_, _, _, _, hsigns, hmark, hspells⟩, rfl, rfl, (if_neg hneg).symm⟩

/-! ## Digits -/

theorem radix_le_of_mem_baseMarks (h : (mark, radix) ∈ baseMarks) : radix ≤ 16 := by
  have hall : ∀ b ∈ baseMarks, b.2 ≤ 16 := by decide
  exact hall _ h

theorem IsDigit.hexWorth?_eq {worth : Nat} (h : IsDigit radix c worth) (hradix : radix ≤ 16) :
    Yaml.hexWorth? c = some worth := by
  have hall : ∀ w < 16, Yaml.hexWorth? w.digitChar = some w ∧
      Yaml.hexWorth? w.digitChar.toUpper = some w := by decide
  obtain ⟨hlt, hc⟩ := h
  obtain ⟨hlower, hupper⟩ := hall worth (Nat.lt_of_lt_of_le hlt hradix)
  rcases hc with rfl | rfl
  · exact hlower
  · exact hupper

/-- A character that is worth nothing is no digit. -/
theorem IsDigit.ne {worth : Nat} (h : IsDigit radix c worth) (hradix : radix ≤ 16) {d : Char}
    (hd : Yaml.hexWorth? d = none) : c ≠ d := by
  rintro rfl
  rw [h.hexWorth?_eq hradix] at hd
  cases hd

/-- A digit of the base ten is not the letter of a mark. -/
theorem IsDigit.not_mem_marks {worth : Nat} (h : IsDigit 10 c worth) :
    c ∉ ['x', 'X', 'o', 'O', 'b', 'B'] := by
  have hall : ∀ w < 10, w.digitChar ∉ ['x', 'X', 'o', 'O', 'b', 'B'] ∧
      w.digitChar.toUpper ∉ ['x', 'X', 'o', 'O', 'b', 'B'] := by decide
  obtain ⟨hlt, rfl | rfl⟩ := h
  · exact (hall worth hlt).1
  · exact (hall worth hlt).2

/-! ## Digits are read -/

theorem filter_concat_digit {worth : Nat} (h : IsDigit radix c worth) (hradix : radix ≤ 16)
    (cs : List Char) (gap : Nat) :
    (cs ++ (List.replicate gap '_' ++ [c])).filter (· != '_') =
      cs.filter (· != '_') ++ [c] := by
  have hc : c ≠ '_' := h.ne hradix (by decide)
  simp [hc]

theorem Spells.filter_ne_nil (h : Spells radix cs n) (hradix : radix ≤ 16) :
    cs.filter (· != '_') ≠ [] := by
  cases h with
  | digit hc => simp [hc.ne hradix (show Yaml.hexWorth? '_' = none by decide)]
  | next gap _ hc => simp [filter_concat_digit hc hradix]

/-- Without the underscores there are digits only. -/
theorem Spells.isDigit_of_mem (h : Spells radix cs n) (hradix : radix ≤ 16)
    (hc : c ∈ cs.filter (· != '_')) : ∃ worth, IsDigit radix c worth := by
  induction h with
  | digit hdigit =>
    cases List.mem_singleton.1 (List.mem_filter.1 hc).1
    exact ⟨_, hdigit⟩
  | next gap _ hdigit ih =>
    rw [filter_concat_digit hdigit hradix, List.mem_append, List.mem_singleton] at hc
    rcases hc with hc | rfl
    · exact ih hc
    · exact ⟨_, hdigit⟩

theorem ofRadix?_concat (hcs : cs ≠ []) (c : Char) :
    Yaml.Scalar.ofRadix? radix (cs ++ [c]) = (Yaml.Scalar.ofRadix? radix cs).bind fun n =>
      (Yaml.hexWorth? c).bind fun w => if w < radix then some (n * radix + w) else none := by
  unfold Yaml.Scalar.ofRadix?
  rw [if_neg (by simp), if_neg (by simpa using hcs), List.foldlM_append]
  simp [Option.bind_eq_bind]

/-- Digits are read as the number that they spell. -/
theorem Spells.ofRadix?_eq (h : Spells radix cs n) (hradix : radix ≤ 16) :
    Yaml.Scalar.ofRadix? radix (cs.filter (· != '_')) = some n := by
  induction h with
  | @digit c worth hc =>
    have hne : c ≠ '_' := hc.ne hradix (by decide)
    simp [Yaml.Scalar.ofRadix?, hne, hc.hexWorth?_eq hradix, hc.1]
  | next gap hcs hc ih =>
    rw [filter_concat_digit hc hradix, ofRadix?_concat (hcs.filter_ne_nil hradix), ih,
      hc.hexWorth?_eq hradix]
    simp [hc.1]

/-! ## Signs and marks -/

theorem takeSign_eq_self (h : ∀ c ∈ cs, c ≠ '-' ∧ c ≠ '+') :
    Decimal.takeSign cs = (false, cs) := by
  unfold Decimal.takeSign
  split
  · exact absurd rfl (h _ List.mem_cons_self).1
  · exact absurd rfl (h _ List.mem_cons_self).2
  · rfl

/-- A sign in front of what has none is taken off. -/
theorem Signs.exists_takeSign {sign : List Char} (h : Signs sign n value)
    (hcs : Decimal.takeSign cs = (false, cs)) :
    ∃ negative, Decimal.takeSign (sign ++ cs) = (negative, cs) ∧
      value = if negative then -(n : Int) else n := by
  cases h with
  | bare => exact ⟨false, hcs, rfl⟩
  | plus => exact ⟨false, rfl, rfl⟩
  | minus => exact ⟨true, rfl, rfl⟩

theorem Spells.takeSign_eq_self (h : Spells radix cs n) (hradix : radix ≤ 16) :
    Decimal.takeSign (cs.filter (· != '_')) = (false, cs.filter (· != '_')) := by
  refine Template.takeSign_eq_self fun c hc => ?_
  obtain ⟨worth, hdigit⟩ := h.isDigit_of_mem hradix hc
  exact ⟨hdigit.ne hradix (by decide), hdigit.ne hradix (by decide)⟩

theorem takeRadix_mark (h : (mark, radix) ∈ baseMarks) (hradix : radix ≠ 10) (cs : List Char) :
    Datum.takeRadix (mark ++ cs) = some (radix, cs) := by
  simp only [baseMarks, List.mem_cons, Prod.mk.injEq, List.not_mem_nil, or_false] at h
  rcases h with ⟨_, rfl⟩ | ⟨rfl, rfl⟩ | ⟨rfl, rfl⟩ | ⟨rfl, rfl⟩ | ⟨rfl, rfl⟩ | ⟨rfl, rfl⟩ |
    ⟨rfl, rfl⟩
  · exact absurd rfl hradix
  all_goals rfl

/-- Digits of the base ten announce no base. -/
theorem Spells.takeRadix_eq_none (h : Spells 10 cs n) :
    Datum.takeRadix (cs.filter (· != '_')) = none := by
  unfold Datum.takeRadix
  split
  · rename_i mark digits hcs
    obtain ⟨worth, hdigit⟩ := h.isDigit_of_mem (c := mark) (by decide) (by simp [hcs])
    have hmark := hdigit.not_mem_marks
    simp only [List.mem_cons, List.not_mem_nil, or_false, not_or] at hmark
    simp [hmark]
  · rfl

theorem takeSign_mark (h : (mark, radix) ∈ baseMarks) (hcs : Decimal.takeSign cs = (false, cs)) :
    Decimal.takeSign (mark ++ cs) = (false, mark ++ cs) := by
  simp only [baseMarks, List.mem_cons, Prod.mk.injEq, List.not_mem_nil, or_false] at h
  rcases h with ⟨rfl, _⟩ | ⟨rfl, _⟩ | ⟨rfl, _⟩ | ⟨rfl, _⟩ | ⟨rfl, _⟩ | ⟨rfl, _⟩ | ⟨rfl, _⟩
  · exact hcs
  all_goals rfl

/-- The underscores of a numeral stand among its digits. -/
theorem Numeral.filter_spelling (x : Numeral radix value) :
    x.spelling.filter (· != '_') = x.sign ++ (x.mark ++ x.digits.filter (· != '_')) := by
  have hsign : ∀ {sign : List Char} {n : Nat}, Signs sign n value →
      sign.filter (· != '_') = sign := by
    rintro _ _ (_ | _ | _) <;> rfl
  have hall : ∀ b ∈ baseMarks, b.1.filter (· != '_') = b.1 := by decide
  rw [spelling, List.filter_append, List.filter_append, hsign x.signs, hall _ x.marks]

/-! ## Numbers that fit -/

theorem fits_iff (value : Int) : Datum.fits value = true ↔ -2 ^ 63 ≤ value ∧ value < 2 ^ 63 := by
  unfold Datum.fits
  rw [Bool.and_eq_true, decide_eq_true_iff, decide_eq_true_iff]
  norm_num

theorem readInteger?_eq {negative : Bool} (hsign : Decimal.takeSign cs = (negative, ds))
    (hdigits : Yaml.Scalar.ofRadix? radix ds = some n)
    (hvalue : value = if negative then -(n : Int) else n) :
    Datum.readInteger? radix cs = if Datum.fits value then some value else none := by
  simp only [Datum.readInteger?, hsign, hdigits, Option.bind_some, hvalue]

/-- A number is read from its numeral in the base ten if it fits. -/
theorem Numeral.ofNumeral?_ten (x : Numeral 10 value) (hfits : Datum.fits value = true) :
    Datum.ofNumeral? x.spelling = some (.integer value) := by
  have hself := x.spells.takeSign_eq_self (by decide)
  have hmark : x.mark = [] := by
    have hall : ∀ b ∈ baseMarks, b.2 = 10 → b.1 = [] := by decide
    exact hall _ x.marks rfl
  obtain ⟨negative, hsign, hvalue⟩ := x.signs.exists_takeSign hself
  have hread := readInteger?_eq hsign (x.spells.ofRadix?_eq (by decide)) hvalue
  rw [if_pos hfits] at hread
  simp only [Datum.ofNumeral?, x.filter_spelling, hmark, List.nil_append, hsign,
    x.spells.takeRadix_eq_none, hread]

/-- Nothing wraps when a number whose digits fit is negated. -/
theorem neg_bmod_eq (h : (n : Int) < 2 ^ 63) : (-(n : Int)).bmod (Nat.pow 2 64) = -n := by
  have hlimit : ((Nat.pow 2 64 : Nat) : Int) = 2 ^ 64 := by norm_num
  apply Int.bmod_eq_of_le
  · rw [hlimit]
    omega
  · rw [hlimit]
    omega

/-- A number is read from its numeral in another base if its digits fit. -/
theorem Numeral.ofNumeral?_announced (x : Numeral radix value) (hradix : radix ≠ 10) :
    Datum.ofNumeral? x.spelling =
      if (x.magnitude : Int) < 2 ^ 63 then some (.integer value) else none := by
  have hle := radix_le_of_mem_baseMarks x.marks
  have hself := x.spells.takeSign_eq_self hle
  obtain ⟨negative, hsign, hvalue⟩ := x.signs.exists_takeSign (takeSign_mark x.marks hself)
  have hread : Datum.readInteger? radix (x.digits.filter (· != '_')) =
      if Datum.fits x.magnitude then some (x.magnitude : Int) else none :=
    readInteger?_eq hself (x.spells.ofRadix?_eq hle) rfl
  simp only [Datum.ofNumeral?, x.filter_spelling, hsign, takeRadix_mark x.marks hradix, hread]
  by_cases hlt : (x.magnitude : Int) < 2 ^ 63
  · have hfits : Datum.fits x.magnitude = true := (fits_iff _).2 ⟨by omega, hlt⟩
    rw [if_pos hfits, if_pos hlt, Option.map_some, neg_bmod_eq hlt]
    exact congrArg (fun v => some (Datum.integer v)) hvalue.symm
  · have hfits : ¬Datum.fits x.magnitude = true := fun h => hlt ((fits_iff _).1 h).2
    rw [if_neg hfits, if_neg hlt, Option.map_none]

/-- Of the numbers that fit, the least alone has a magnitude that does not. -/
theorem Signs.magnitude_lt_iff {sign : List Char} (h : Signs sign n value) (hlow : -2 ^ 63 ≤ value)
    (hhigh : value < 2 ^ 63) : (n : Int) < 2 ^ 63 ↔ value ≠ -2 ^ 63 := by
  cases h with
  | bare => omega
  | plus => omega
  | minus => omega

/-! ## Numbers that are read back -/

/-- Every number that fits has a numeral in every base, and is read back from each of its numerals,
with letters of either case and with underscores between the digits. One is not: the least, where
its base is announced by a mark. -/
theorem a_number_is_read_back_but_for_the_least_behind_a_mark (hmark : (mark, radix) ∈ baseMarks)
    (hlow : -2 ^ 63 ≤ value) (hhigh : value < 2 ^ 63) :
    (∃ x : Numeral radix value, x.mark = mark ∧ x.digits = Nat.toDigits radix value.natAbs ∧
      x.sign = if value < 0 then ['-'] else []) ∧
    ∀ x : Numeral radix value, Datum.ofNumeral? x.spelling =
      if radix ≠ 10 ∧ value = -2 ^ 63 then none else some (.integer value) := by
  refine ⟨exists_numeral value hmark, fun x => ?_⟩
  by_cases hradix : radix = 10
  · subst hradix
    rw [x.ofNumeral?_ten ((fits_iff value).2 ⟨hlow, hhigh⟩), if_neg fun h => h.1 rfl]
  · rw [x.ofNumeral?_announced hradix]
    by_cases hleast : value = -2 ^ 63
    · have hnot := mt (x.signs.magnitude_lt_iff hlow hhigh).1 (not_not_intro hleast)
      rw [if_neg hnot, if_pos ⟨hradix, hleast⟩]
    · rw [if_pos ((x.signs.magnitude_lt_iff hlow hhigh).2 hleast), if_neg fun h => hleast h.2]

/-- The digits of a number with letters of both cases and an underscore. -/
theorem spells_mixed : Spells 16 ['7', 'f', '_', 'F', 'F'] 32767 := by
  have hseven : Spells 16 ['7'] 7 := .digit (by decide)
  have hlower := hseven.next 0 (show IsDigit 16 'f' 15 by decide)
  have hupper := hlower.next 1 (show IsDigit 16 'F' 15 by decide)
  exact hupper.next 0 (show IsDigit 16 'F' 15 by decide)

/-- A number is read back through its sign, its mark and an underscore, and the least number in the
base ten, which has no mark. -/
theorem a_marked_number_and_the_least_without_a_mark_are_read_back :
    (['0', 'X'], 16) ∈ baseMarks ∧ ([], 10) ∈ baseMarks ∧
      (-2 ^ 63 ≤ (-32767 : Int) ∧ (-32767 : Int) < 2 ^ 63) ∧
      (-2 ^ 63 ≤ (-2 ^ 63 : Int) ∧ (-2 ^ 63 : Int) < 2 ^ 63) ∧
      Datum.ofNumeral? "-0X7f_FF".toList = some (.integer (-32767)) ∧
      ∃ x : Numeral 10 (-2 ^ 63), x.spelling = "-9223372036854775808".toList ∧
        Datum.ofNumeral? x.spelling = some (.integer (-2 ^ 63)) := by
  obtain ⟨_, hmixed⟩ := a_number_is_read_back_but_for_the_least_behind_a_mark
    (show (['0', 'X'], 16) ∈ baseMarks by decide) (show -2 ^ 63 ≤ (-32767 : Int) by decide)
    (by decide)
  obtain ⟨⟨x, hmark, hdigits, hsign⟩, hleast⟩ :=
    a_number_is_read_back_but_for_the_least_behind_a_mark
      (show ([], 10) ∈ baseMarks by decide) (show -2 ^ 63 ≤ (-2 ^ 63 : Int) by decide) (by decide)
  refine ⟨by decide, by decide, by decide, by decide, ?_, x, ?_, hleast x⟩
  · exact hmixed ⟨['-'], ['0', 'X'], _, _, .minus 32767, by decide, spells_mixed⟩
  · rw [Numeral.spelling, hmark, hdigits, hsign]
    decide +kernel

/-- The least number is spelled behind a mark and is not read, while the same digits are read in the
base ten. -/
theorem the_least_number_is_not_read_behind_a_mark :
    ∃ x : Numeral 16 (-2 ^ 63), x.spelling = "-0x8000000000000000".toList ∧
      Datum.ofNumeral? x.spelling = none ∧
      Datum.ofNumeral? "-9223372036854775808".toList = some (.integer (-2 ^ 63)) := by
  obtain ⟨x, hmark, hdigits, hsign⟩ :=
    exists_numeral (-2 ^ 63) (show (['0', 'x'], 16) ∈ baseMarks by decide)
  have hspelling : x.spelling = "-0x8000000000000000".toList := by
    rw [Numeral.spelling, hmark, hdigits, hsign]
    decide +kernel
  refine ⟨x, hspelling, ?_, by decide +kernel⟩
  rw [hspelling]
  decide +kernel

end LayerLint.Template
