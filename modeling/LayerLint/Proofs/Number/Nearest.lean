-- The numbers of the format binary64 that are nearest to large whole numbers. From 2 ^ 63 on, up to
-- 2 ^ 64, they stand 2048 apart, and so many whole numbers have one nearest number in common.
import LayerLint.Number.Binary64
import Mathlib.Tactic.NormNum

namespace LayerLint.Binary64

variable {step number count : Nat}

/-! ## Rounding -/

/-- Whether a multiple of a step, given by its count, is the nearest one to a number. Of two that
are equally near it is the one with the even count. -/
def IsNearest (step number count : Nat) : Prop :=
  2 * ((number : Int) - count * step).natAbs ≤ step ∧
    (2 * ((number : Int) - count * step).natAbs = step → count % 2 = 0)

instance (step number count : Nat) : Decidable (IsNearest step number count) :=
  inferInstanceAs (Decidable (_ ∧ _))

theorem gap_div (number step : Nat) :
    ((number : Int) - (number / step : Nat) * step).natAbs = number % step := by
  have hdivision := Nat.div_add_mod number step
  rw [← Int.natCast_mul, Nat.mul_comm]
  omega

theorem gap_div_succ (hstep : 0 < step) :
    ((number : Int) - (number / step + 1 : Nat) * step).natAbs = step - number % step := by
  have hdivision := Nat.div_add_mod number step
  have hrest := Nat.mod_lt number hstep
  rw [← Int.natCast_mul, Nat.add_mul, Nat.one_mul, Nat.mul_comm]
  omega

/-- Only the multiples right below and right above a number can be nearest to it. -/
theorem IsNearest.cases (hstep : 0 < step) (h : IsNearest step number count) :
    count = number / step ∨ count = number / step + 1 := by
  have hdivision := Nat.div_add_mod' number step
  have hrest := Nat.mod_lt number hstep
  obtain ⟨hgap, -⟩ := h
  rw [← Int.natCast_mul] at hgap
  rcases Nat.lt_or_ge count (number / step) with hlt | hge
  · have hmul := Nat.mul_le_mul_right step hlt
    rw [Nat.succ_mul] at hmul
    omega
  · rcases Nat.lt_or_ge (number / step + 1) count with hlt | hle
    · have hmul := Nat.mul_le_mul_right step hlt
      rw [Nat.succ_mul, Nat.succ_mul] at hmul
      omega
    · omega

theorem roundHalfEven_cases (number step : Nat) :
    (roundHalfEven number step = number / step ∧ (2 * (number % step) < step ∨
        2 * (number % step) = step ∧ number / step % 2 = 0)) ∨
      (roundHalfEven number step = number / step + 1 ∧ (step < 2 * (number % step) ∨
        2 * (number % step) = step ∧ number / step % 2 ≠ 0)) := by
  unfold roundHalfEven
  dsimp only
  split
  · exact .inl ⟨rfl, by omega⟩
  · split
    · exact .inr ⟨rfl, by omega⟩
    · split
      · exact .inl ⟨rfl, by omega⟩
      · exact .inr ⟨rfl, by omega⟩

/-- Rounding finds the nearest multiple, and there is no other. -/
theorem roundHalfEven_eq_iff (hstep : 0 < step) :
    roundHalfEven number step = count ↔ IsNearest step number count := by
  have hrest := Nat.mod_lt number hstep
  constructor
  · rintro rfl
    unfold IsNearest
    rcases roundHalfEven_cases number step with ⟨hbelow, hside⟩ | ⟨habove, hside⟩
    · rw [hbelow, gap_div]
      omega
    · rw [habove, gap_div_succ hstep]
      omega
  · intro h
    rcases h.cases hstep with rfl | rfl
    · unfold IsNearest at h
      rw [gap_div] at h
      rcases roundHalfEven_cases number step with ⟨hbelow, _⟩ | ⟨_, hside⟩
      · exact hbelow
      · omega
    · unfold IsNearest at h
      rw [gap_div_succ hstep] at h
      rcases roundHalfEven_cases number step with ⟨_, hside⟩ | ⟨habove, _⟩
      · omega
      · exact habove

/-- Whole numbers with one nearest multiple are at most a step apart. -/
theorem IsNearest.natAbs_sub_le {other : Nat} (h : IsNearest step number count)
    (hother : IsNearest step other count) : ((number : Int) - other).natAbs ≤ step := by
  obtain ⟨hgap, -⟩ := h
  obtain ⟨hgap', -⟩ := hother
  omega

/-! ## Large whole numbers -/

variable {m n : Nat}

/-- The fields of the number that is nearest to a large whole number count steps of 2048. -/
theorem ofInt_eq_ofFields (hlow : 2 ^ 63 ≤ n) (hhigh : n < 2 ^ 64) :
    ofInt n = ofFields false (1085 * 2 ^ 52 + roundHalfEven n 2048) := by
  have hlog : n.log2 = 63 := (Nat.log2_eq_iff (by omega)).2 ⟨hlow, hhigh⟩
  have hguess : max (((63 : Nat) : Int) - ((Nat.log2 1 : Nat) : Int) - 53) leastExponent = 10 := by
    decide
  -- With the exponent 10 the mantissa would have a bit too many.
  have hmantissa : ¬n / (1 * Nat.pow 2 (Int.toNat 10)) < 2 * fractionLimit := by
    rw [show 1 * Nat.pow 2 (Int.toNat 10) = 2 ^ 10 from rfl, show fractionLimit = 2 ^ 52 from rfl]
    omega
  have hstep : 1 * Nat.pow 2 ((10 : Int) + 1).toNat = 2048 := by decide
  have hfield : ((10 : Int) + 1 - leastExponent).toNat = 1085 := by decide
  have hsign : decide ((n : Int) < 0) = false := by simp
  unfold ofInt ofQuotient
  dsimp only
  rw [Int.natAbs_natCast, if_neg (by omega), hlog, hguess, hsign]
  simp only [show (0 : Int) ≤ 10 by decide, show (0 : Int) ≤ 10 + 1 by decide, if_true, hmantissa,
    if_false, hfield, hstep]
  rw [if_neg (by decide)]
  rfl

theorem toNat_bits_ofFields {magnitude : Nat} (h : magnitude < 2 ^ 64) :
    (ofFields false magnitude).bits.toNat = magnitude := by
  unfold ofFields
  rw [if_neg (by decide), Nat.zero_add]
  exact UInt64.toNat_ofNat_of_lt' h

theorem roundHalfEven_mem (hlow : 2 ^ 63 ≤ n) (hhigh : n < 2 ^ 64) :
    2 ^ 52 ≤ roundHalfEven n 2048 ∧ roundHalfEven n 2048 ≤ 2 ^ 53 := by
  rcases roundHalfEven_cases n 2048 with ⟨hround, _⟩ | ⟨hround, _⟩
  · rw [hround]
    omega
  · rw [hround]
    omega

/-- Large whole numbers have one nearest number exactly if they have one nearest multiple of
2048. -/
theorem ofInt_eq_ofInt_iff (hlow : 2 ^ 63 ≤ m) (hhigh : m < 2 ^ 64) (hlow' : 2 ^ 63 ≤ n)
    (hhigh' : n < 2 ^ 64) :
    ofInt m = ofInt n ↔ ∃ count, IsNearest 2048 m count ∧ IsNearest 2048 n count := by
  have hm := roundHalfEven_mem hlow hhigh
  have hn := roundHalfEven_mem hlow' hhigh'
  rw [ofInt_eq_ofFields hlow hhigh, ofInt_eq_ofFields hlow' hhigh']
  constructor
  · intro heq
    have hbits := congrArg (fun x => x.bits.toNat) heq
    rw [toNat_bits_ofFields (by omega), toNat_bits_ofFields (by omega)] at hbits
    have hround : roundHalfEven m 2048 = roundHalfEven n 2048 := by omega
    exact ⟨roundHalfEven n 2048, (roundHalfEven_eq_iff (by decide)).1 hround,
      (roundHalfEven_eq_iff (by decide)).1 rfl⟩
  · rintro ⟨count, hcount, hcount'⟩
    rw [(roundHalfEven_eq_iff (by decide)).2 hcount, (roundHalfEven_eq_iff (by decide)).2 hcount']

/-- Whether a number is worth a whole number that is not negative. -/
def IsWorth (x : Binary64) (n : Nat) : Prop :=
  ∃ mantissa exponent : Nat, x.worth = .finite false mantissa exponent ∧ mantissa * 2 ^ exponent = n

/-- The nearest number to a large whole number is worth its nearest multiple of 2048. -/
theorem isWorth_ofInt (hlow : 2 ^ 63 ≤ n) (hhigh : n < 2 ^ 64) {count : Nat}
    (h : IsNearest 2048 n count) : (ofInt n).IsWorth (count * 2048) := by
  have hcount := (roundHalfEven_eq_iff (by decide)).2 h
  have hmem := roundHalfEven_mem hlow hhigh
  rw [hcount] at hmem
  have hbits : (ofFields false (1085 * 2 ^ 52 + count)).bits.toNat = 1085 * 2 ^ 52 + count :=
    toNat_bits_ofFields (by omega)
  rw [ofInt_eq_ofFields hlow hhigh, hcount]
  have hnegative : (ofFields false (1085 * 2 ^ 52 + count)).negative = false := by
    unfold negative
    rw [hbits, show Nat.pow 2 63 = 2 ^ 63 from rfl, decide_eq_false_iff_not]
    omega
  have hexponent : (ofFields false (1085 * 2 ^ 52 + count)).exponentField =
      if count = 2 ^ 53 then 1087 else 1086 := by
    unfold exponentField
    rw [hbits, show fractionLimit = 2 ^ 52 from rfl, show Nat.pow 2 11 = 2 ^ 11 from rfl]
    split <;> omega
  have hfraction : (ofFields false (1085 * 2 ^ 52 + count)).fractionField =
      if count = 2 ^ 53 then 0 else count - 2 ^ 52 := by
    unfold fractionField
    rw [hbits, show fractionLimit = 2 ^ 52 from rfl]
    split <;> omega
  unfold IsWorth worth
  rw [hnegative, hexponent, hfraction]
  by_cases htop : count = 2 ^ 53
  · refine ⟨2 ^ 52, 12, ?_, ?_⟩
    · rw [if_pos htop, if_pos htop]
      rfl
    · omega
  · refine ⟨count, 11, ?_, ?_⟩
    · rw [if_neg htop, if_neg htop, if_neg (by decide), if_neg (by decide),
        show fractionLimit = 2 ^ 52 from rfl, show 2 ^ 52 + (count - 2 ^ 52) = count by omega]
      rfl
    · omega

end LayerLint.Binary64
