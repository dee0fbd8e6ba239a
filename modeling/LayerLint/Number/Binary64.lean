-- Numbers of the format binary64, held by their sixty-four bits, so that equality of numbers
-- is equality of bits. What a number is worth, and the number nearest to a quotient, are
-- computed in whole numbers.

namespace LayerLint

/-- A number of the format binary64: a sign bit, eleven exponent bits, fifty-two fraction bits. -/
structure Binary64 where
  bits : UInt64
  deriving DecidableEq, Repr, Inhabited

namespace Binary64

/-- What a bit pattern stands for. A finite number is worth `mantissa * 2 ^ exponent`. -/
inductive Worth where
  | notANumber
  | infinite (negative : Bool)
  | finite (negative : Bool) (mantissa : Nat) (exponent : Int)
  deriving DecidableEq, Repr

/-- Two to the number of fraction bits. -/
def fractionLimit : Nat := Nat.pow 2 52

/-- The exponent field that is kept for infinities and for what is not a number. -/
def topExponent : Nat := 2047

/-- The exponent of the smallest positive number. -/
def leastExponent : Int := -1074

def negative (x : Binary64) : Bool := Nat.pow 2 63 ≤ x.bits.toNat

def exponentField (x : Binary64) : Nat := x.bits.toNat / fractionLimit % Nat.pow 2 11

def fractionField (x : Binary64) : Nat := x.bits.toNat % fractionLimit

def worth (x : Binary64) : Worth :=
  if x.exponentField = topExponent then
    if x.fractionField = 0 then .infinite x.negative else .notANumber
  else if x.exponentField = 0 then .finite x.negative x.fractionField leastExponent
  else
    .finite x.negative (fractionLimit + x.fractionField)
      (leastExponent + (x.exponentField - 1 : Nat))

/-! ## Building numbers -/

/-- The number with a given sign and the other sixty-three bits. -/
def ofFields (negative : Bool) (magnitude : Nat) : Binary64 :=
  ⟨UInt64.ofNat ((if negative then Nat.pow 2 63 else 0) + magnitude)⟩

def infinity (negative : Bool) : Binary64 := ofFields negative (topExponent * fractionLimit)

/-- The one value written for what is not a number; the sign can be told apart by its bits. -/
def notANumber (negative : Bool) : Binary64 :=
  ofFields negative (topExponent * fractionLimit + Nat.pow 2 51)

/-- The whole number nearest to a quotient; a tie goes to the even one. -/
def roundHalfEven (num den : Nat) : Nat :=
  let q := num / den
  let twice := 2 * (num % den)
  if twice < den then q
  else if den < twice then q + 1
  else if q % 2 = 0 then q else q + 1

/-- The number nearest to the quotient of two positive whole numbers, a tie going to the even
mantissa, and infinity where the format ends. -/
def ofQuotient (negative : Bool) (num den : Nat) : Binary64 :=
  if num = 0 then ofFields negative 0
  else
    let guess : Int := (num.log2 : Int) - (den.log2 : Int) - 53
    let scaled (e : Int) : Nat × Nat :=
      if 0 ≤ e then (num, den * Nat.pow 2 e.toNat) else (num * Nat.pow 2 (-e).toNat, den)
    let e₀ := max guess leastExponent
    let e := if (scaled e₀).1 / (scaled e₀).2 < 2 * fractionLimit then e₀ else e₀ + 1
    let mantissa := roundHalfEven (scaled e).1 (scaled e).2
    let field : Nat := (e - leastExponent).toNat
    if topExponent ≤ field + 1 then infinity negative
    else ofFields negative (field * fractionLimit + mantissa)

/-- The number nearest to a whole number. -/
def ofInt (n : Int) : Binary64 := ofQuotient (n < 0) n.natAbs 1

/-! ## Order -/

/-- The bits below the sign, counted downwards for a negative number. The order of these is the
order of the numbers, and the two noughts are one. -/
def rank? (x : Binary64) : Option Int :=
  match x.worth with
  | .notANumber => none
  | _ =>
    let magnitude : Int := (x.bits.toNat % Nat.pow 2 63 : Nat)
    some (if x.negative then -magnitude else magnitude)

/-- Whether a number is at most another. What is not a number compares with nothing. -/
def atMost (x y : Binary64) : Bool :=
  match x.rank?, y.rank? with
  | some a, some b => a ≤ b
  | _, _ => false

end Binary64

end LayerLint
