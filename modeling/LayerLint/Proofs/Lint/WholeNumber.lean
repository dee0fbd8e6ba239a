-- Whole numbers as values of layers. Those that fit sixty-four bits with a sign are kept as they
-- are, and the larger ones as the nearest numbers of the format binary64; so two of the larger ones
-- can become one value, and then one that stands over the other is reported as a duplicate of it.
import LayerLint.Proofs.Lint.Overshadow
import LayerLint.Proofs.Number.Nearest

namespace LayerLint

open Binary64

namespace Value

/-! ## Values of whole numbers -/

/-- Whether two whole numbers that do not fit sixty-four bits with a sign have one nearest multiple
of 2048. -/
def RoundAlike (a b : Int) : Prop :=
  2 ^ 63 ≤ a ∧ 2 ^ 63 ≤ b ∧ ∃ count, IsNearest 2048 a.toNat count ∧ IsNearest 2048 b.toNat count

variable {a b : Int}

theorem ofInteger_of_lt (hlow : -2 ^ 63 ≤ a) (h : a < 2 ^ 63) : ofInteger a = .integer a := by
  unfold ofInteger
  rw [show ((Nat.pow 2 63 : Nat) : Int) = 2 ^ 63 from rfl, if_pos ⟨hlow, h⟩]

theorem ofInteger_of_le (h : 2 ^ 63 ≤ a) : ofInteger a = .float (ofInt a.toNat) := by
  unfold ofInteger
  rw [show ((Nat.pow 2 63 : Nat) : Int) = 2 ^ 63 from rfl, if_neg (by omega),
    Int.toNat_of_nonneg (by omega)]

/-- Whole numbers with one value are equal, or both are large and round alike. -/
theorem ofInteger_eq_iff (ha : -2 ^ 63 ≤ a ∧ a < 2 ^ 64) (hb : -2 ^ 63 ≤ b ∧ b < 2 ^ 64) :
    ofInteger a = ofInteger b ↔ a = b ∨ RoundAlike a b := by
  unfold RoundAlike
  rcases Int.lt_or_le a (2 ^ 63) with hsmall | hlarge
  · rw [ofInteger_of_lt ha.1 hsmall]
    rcases Int.lt_or_le b (2 ^ 63) with hsmall' | hlarge'
    · rw [ofInteger_of_lt hb.1 hsmall', integer.injEq]
      omega
    · rw [ofInteger_of_le hlarge']
      constructor
      · intro h
        cases h
      · omega
  · rw [ofInteger_of_le hlarge]
    rcases Int.lt_or_le b (2 ^ 63) with hsmall' | hlarge'
    · rw [ofInteger_of_lt hb.1 hsmall']
      constructor
      · intro h
        cases h
      · omega
    · rw [ofInteger_of_le hlarge', float.injEq,
        ofInt_eq_ofInt_iff (by omega) (by omega) (by omega) (by omega)]
      constructor
      · intro h
        exact .inr ⟨hlarge, hlarge', h⟩
      · rintro (rfl | ⟨_, _, h⟩)
        · exact (ofInt_eq_ofInt_iff (m := a.toNat) (n := a.toNat) (by omega) (by omega) (by omega)
            (by omega)).1 rfl
        · exact h

theorem RoundAlike.natAbs_sub_le (h : RoundAlike a b) : (a - b).natAbs ≤ 2048 := by
  obtain ⟨ha, hb, count, hcount, hcount'⟩ := h
  have hnear := hcount.natAbs_sub_le hcount'
  omega

end Value

namespace Rule

open Repository Survey LayerCheck Value

/-! ## Whole numbers that are given twice -/

variable {s : Survey}

/-- A duplicate is reported at a path of an override exactly if the override gives it the value of
the base. -/
theorem exists_duplicate_iff (h : Placed s.repository) {name : String} {i : Installation}
    (hi : (name, i) ∈ s.repository.installations.entries) {path : String} {value : Value}
    (hbase : s.repository.base.values.get? path = some value) :
    (∃ d ∈ duplicateConfigValue.check s, d.file = i.override.path ∧ d.path = path) ↔
      i.override.values.get? path = some value := by
  have hfilter := filter_duplicates h hi hbase
  constructor
  · rintro ⟨d, hd, hfile, hpath⟩
    obtain ⟨f, hf, rfl⟩ := List.mem_map.1 hd
    have hmem : f ∈ duplicate s.repository.base i.override path value := by
      rw [← hfilter]
      exact List.mem_filter.2 ⟨hf, by simpa using ⟨hfile, hpath⟩⟩
    exact (of_mem_duplicate hmem).2.2
  · intro hsame
    rw [duplicate, if_pos hsame] at hfilter
    have hmem := List.mem_filter.1 (hfilter ▸ List.mem_singleton_self _)
    exact ⟨_, List.mem_map_of_mem hmem.1, rfl, rfl⟩

/-- Whole numbers that fit sixty-four bits, with a sign or without, are one value exactly if they
are equal or round alike; and those that round alike are large and at most 2048 apart. A large one
is kept as the number that is worth its nearest multiple of 2048. Where the base gives one whole
number to a path and an override gives another, a duplicate is reported exactly if they are equal or
round alike. -/
theorem whole_numbers_are_told_apart_unless_they_round_alike {a b : Int}
    (ha : -2 ^ 63 ≤ a ∧ a < 2 ^ 64) (hb : -2 ^ 63 ≤ b ∧ b < 2 ^ 64) :
    (ofNode (.integer a) = ofNode (.integer b) ↔ a = b ∨ RoundAlike a b) ∧
      (RoundAlike a b → (a - b).natAbs ≤ 2048) ∧
      (2 ^ 63 ≤ a → ∃ x count, ofNode (.integer a) = .float x ∧ IsNearest 2048 a.toNat count ∧
        x.IsWorth (count * 2048)) ∧
      ∀ {σ : Type} [FileStore σ] {store : σ} {vocabulary : Template.Vocabulary} {s : Survey},
        Survey.load store vocabulary = .ok s →
        ∀ i ∈ s.repository.installations.entries, ∀ path,
          s.repository.base.values.get? path = some (ofNode (.integer a)) →
          i.2.override.values.get? path = some (ofNode (.integer b)) →
            ((∃ d ∈ duplicateConfigValue.check s, d.file = i.2.override.path ∧ d.path = path) ↔
              a = b ∨ RoundAlike a b) := by
  have hiff := ofInteger_eq_iff ha hb
  refine ⟨hiff, RoundAlike.natAbs_sub_le, ?_, ?_⟩
  · intro hlarge
    have hnearest : IsNearest 2048 a.toNat (roundHalfEven a.toNat 2048) :=
      (roundHalfEven_eq_iff (by decide)).1 rfl
    exact ⟨_, _, ofInteger_of_le hlarge, hnearest, isWorth_ofInt (by omega) (by omega) hnearest⟩
  · intro σ _ store vocabulary s hload i hi path hbase hover
    obtain ⟨hplaced, -⟩ := placed_of_load hload
    rw [exists_duplicate_iff hplaced hi hbase, hover, Option.some.injEq, ← hiff]
    exact eq_comm

/-- An override whose whole numbers are one less or one more than those of the base: at the top of
what a document can hold, and where the format binary64 takes over. -/
def neighbourStore : MemoryStore :=
  MemoryStore.ofFiles
    [("default/config.yaml",
       "top: 18446744073709551615\nlimit: 9223372036854775807\n".toUTF8.toList),
     ("default/apps/foo/configmap-values.yaml.template", "".toUTF8.toList),
     ("installations/gauss/config.yaml.patch",
       "top: 18446744073709551614\nlimit: 9223372036854775808\n".toUTF8.toList),
     ("installations/gauss/secret.yaml", "".toUTF8.toList)]

theorem values_in_neighbourStore : ∃ s ∈ (Survey.load neighbourStore .standard).toOption,
    ∃ i ∈ s.repository.installations.entries,
      s.repository.base.values.get? "top" = some (ofNode (.integer (2 ^ 64 - 1))) ∧
        i.2.override.values.get? "top" = some (ofNode (.integer (2 ^ 64 - 2))) ∧
        s.repository.base.values.get? "limit" = some (ofNode (.integer (2 ^ 63 - 1))) ∧
        i.2.override.values.get? "limit" = some (ofNode (.integer (2 ^ 63))) := by
  decide +kernel

/-- The two largest whole numbers round alike, and so one over the other is reported as a duplicate.
The two at the limit of a sign do not, and are not reported. -/
theorem the_top_is_reported_as_given_twice_and_the_limit_is_not :
    ∃ s, Survey.load neighbourStore .standard = .ok s ∧ ∃ i ∈ s.repository.installations.entries,
      (∃ d ∈ duplicateConfigValue.check s, d.file = i.2.override.path ∧ d.path = "top") ∧
        ¬∃ d ∈ duplicateConfigValue.check s, d.file = i.2.override.path ∧ d.path = "limit" := by
  obtain ⟨s, hs, i, hi, htop, htop', hlimit, hlimit'⟩ := values_in_neighbourStore
  have hload := eq_ok_of_mem_toOption hs
  have halike : RoundAlike (2 ^ 64 - 1) (2 ^ 64 - 2) :=
    ⟨by decide, by decide, 2 ^ 53, by decide, by decide⟩
  refine ⟨s, hload, i, hi, ?_, ?_⟩
  · obtain ⟨-, -, -, hreported⟩ :=
      whole_numbers_are_told_apart_unless_they_round_alike (a := 2 ^ 64 - 1) (b := 2 ^ 64 - 2)
        (by decide) (by decide)
    exact (hreported hload i hi "top" htop htop').2 (.inr halike)
  · obtain ⟨-, -, -, hreported⟩ :=
      whole_numbers_are_told_apart_unless_they_round_alike (a := 2 ^ 63 - 1) (b := 2 ^ 63)
        (by decide) (by decide)
    rw [hreported hload i hi "limit" hlimit hlimit']
    rintro (heq | ⟨hlarge, -⟩)
    · exact absurd heq (by decide)
    · exact absurd hlarge (by decide)

/-- Not all whole numbers that a document can hold are told apart: the two largest are one value. -/
theorem the_two_largest_whole_numbers_are_one_value :
    ¬∀ a b : Int, -2 ^ 63 ≤ a ∧ a < 2 ^ 64 → -2 ^ 63 ≤ b ∧ b < 2 ^ 64 →
      (ofNode (.integer a) = ofNode (.integer b) ↔ a = b) := by
  intro h
  have heq := (h (2 ^ 64 - 1) (2 ^ 64 - 2) (by decide) (by decide)).1 (by decide +kernel)
  exact absurd heq (by decide)

end Rule

end LayerLint
