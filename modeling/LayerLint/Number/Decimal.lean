-- Decimal numerals and numbers of the format binary64: reading a numeral rounds to the nearest
-- number, writing a number takes the fewest digits that read back, and of those the nearest.
import LayerLint.Number.Binary64

namespace LayerLint

/-- A decimal number: `digits * 10 ^ exponent`. -/
structure Decimal where
  digits : Nat
  exponent : Int
  deriving DecidableEq, Repr

namespace Decimal

/-! ## Reading -/

/-- The numbers of the format end well before a decimal of this many places. -/
def placesLimit : Int := 400

/-- The number nearest to a decimal. -/
def toBinary64 (negative : Bool) (d : Decimal) : Binary64 :=
  if d.digits = 0 then Binary64.ofFields negative 0
  else
    let places : Int := ((Nat.toDigits 10 d.digits).length : Int) + d.exponent
    if placesLimit < places then Binary64.infinity negative
    else if places < -placesLimit then Binary64.ofFields negative 0
    else if 0 ≤ d.exponent then
      Binary64.ofQuotient negative (d.digits * Nat.pow 10 d.exponent.toNat) 1
    else Binary64.ofQuotient negative d.digits (Nat.pow 10 (-d.exponent).toNat)

/-- The whole number that decimal digits spell. -/
def ofDigits (cs : List Char) : Nat := cs.foldl (fun n c => n * 10 + (c.toNat - '0'.toNat)) 0

/-- A sign in front of a numeral: whether it is negative, and the rest. -/
def takeSign : List Char → Bool × List Char
  | '-' :: rest => (true, rest)
  | '+' :: rest => (false, rest)
  | cs => (false, cs)

/-- Reads an exponent: a sign, if any, and digits to the end. -/
def readExponent (cs : List Char) : Option Int :=
  let (negative, digits) := takeSign cs
  if digits.isEmpty || !digits.all Char.isDigit then none
  else some (if negative then -(ofDigits digits : Int) else ofDigits digits)

/-- Reads a decimal without sign: digits, a point and digits, an exponent. One of the two runs
of digits may be empty. -/
def readUnsigned (cs : List Char) : Option Decimal :=
  let whole := cs.takeWhile Char.isDigit
  let rest := cs.dropWhile Char.isDigit
  let (fraction, tail) :=
    match rest with
    | '.' :: r => (r.takeWhile Char.isDigit, r.dropWhile Char.isDigit)
    | _ => ([], rest)
  if whole.isEmpty && fraction.isEmpty then none
  else
    let value (e : Int) : Decimal := ⟨ofDigits (whole ++ fraction), e - fraction.length⟩
    match tail with
    | [] => some (value 0)
    | 'e' :: r | 'E' :: r => (readExponent r).map value
    | _ => none

/-- Reads a numeral to the end: a decimal, or one of the words for infinity and for what is not
a number in any case, each with a sign in front if there is one. -/
def read? (cs : List Char) : Option Binary64 :=
  let (negative, body) := takeSign cs
  match String.ofList (body.map Char.toLower) with
  | "inf" | "infinity" => some (Binary64.infinity negative)
  | "nan" => some (Binary64.notANumber negative)
  | _ => (readUnsigned body).map (toBinary64 negative)

/-! ## The fewest digits -/

/-- Where a tie between two decimals of one length goes. -/
inductive Tie where
  | up
  | even
  deriving DecidableEq, Repr

/-- The decimals that read back as a number: those between `low` and `high`, the ends included
if `closed`, around `value`. All three count units of `2 ^ scale`. -/
structure Span where
  low : Nat
  value : Nat
  high : Nat
  closed : Bool
  scale : Int
  deriving Repr

/-- The decimals that read back as `mantissa * 2 ^ exponent`. Below a power of two the numbers
stand twice as close as above it. -/
def Span.of (mantissa : Nat) (exponent : Int) : Span where
  low :=
    if mantissa = Binary64.fractionLimit && Binary64.leastExponent < exponent then 4 * mantissa - 1
    else 4 * mantissa - 2
  value := 4 * mantissa
  high := 4 * mantissa + 2
  closed := mantissa % 2 = 0
  scale := exponent - 2

/-- The unit of a span as a quotient of whole numbers. -/
def Span.unit (s : Span) : Nat × Nat := (Nat.pow 2 s.scale.toNat, Nat.pow 2 (-s.scale).toNat)

/-- The nearest multiple of `10 ^ p` that lies in the span, if one does. -/
def Span.onGrid (tie : Tie) (s : Span) (p : Int) : Option Nat :=
  let unit := s.unit.1 * Nat.pow 10 (-p).toNat
  let step := s.unit.2 * Nat.pow 10 p.toNat
  let low := s.low * unit
  let value := s.value * unit
  let high := s.high * unit
  let within (n : Nat) : Bool := if s.closed then low ≤ n && n ≤ high else low < n && n < high
  let below := value / step
  let above := below + 1
  match within (below * step), within (above * step) with
  | false, false => none
  | true, false => some below
  | false, true => some above
  | true, true =>
    let down := value - below * step
    let up := above * step - value
    if down < up then some below
    else if up < down then some above
    else
      match tie with
      | .up => some above
      | .even => some (if below % 2 = 0 then below else above)

/-- The first grid, from coarse to fine, that has a point in the span. -/
def Span.search (tie : Tie) (s : Span) : Nat → Int → Decimal
  | 0, p => ⟨s.value * s.unit.1 * Nat.pow 10 (-p).toNat / (s.unit.2 * Nat.pow 10 p.toNat), p⟩
  | fuel + 1, p =>
    match s.onGrid tie p with
    | some n => ⟨n, p⟩
    | none => s.search tie fuel (p - 1)

/-- A power of ten that is not below the value of the span. -/
def Span.top (s : Span) : Int :=
  let value := s.value * s.unit.1
  let whole := value / s.unit.2
  if whole = 0 then 1 - ((Nat.toDigits 10 (s.unit.2 / value)).length - 1 : Nat)
  else (Nat.toDigits 10 whole).length

/-- The fewest digits that read back as `mantissa * 2 ^ exponent`, and of those the nearest. -/
def shortest (tie : Tie) (mantissa : Nat) (exponent : Int) : Decimal :=
  let s := Span.of mantissa exponent
  s.search tie 24 s.top

/-! ## Writing -/

/-- How a number is written. -/
structure Style where
  /-- Where a tie goes. -/
  tie : Tie
  /-- Whole numbers end in a point and a nought. -/
  wholePoint : Bool
  /-- Numbers whose point stands after this many digits, from the first to the second, are
  written without an exponent; all numbers are, if there are no such bounds. -/
  bounds : Option (Int × Int)
  /-- The words for what is not a number and for infinity. -/
  notANumber : String
  infinity : String
  deriving Repr

/-- Digits with the point in its place. -/
def positional (wholePoint : Bool) (digits : List Char) (point : Int) : List Char :=
  if point ≤ 0 then ['0', '.'] ++ List.replicate (-point).toNat '0' ++ digits
  else if (digits.length : Int) ≤ point then
    digits ++ List.replicate (point.toNat - digits.length) '0' ++
      (if wholePoint then ['.', '0'] else [])
  else digits.take point.toNat ++ ['.'] ++ digits.drop point.toNat

/-- Digits with the point after the first and the power of ten after them. -/
def scientific (digits : List Char) (point : Int) : List Char :=
  let mantissa :=
    match digits with
    | [] => []
    | [d] => [d]
    | d :: rest => d :: '.' :: rest
  mantissa ++ ['e'] ++ (toString (point - 1)).toList

/-- The text of a number. -/
def Style.write (style : Style) (x : Binary64) : String :=
  let sign (negative : Bool) : String := if negative then "-" else ""
  match x.worth with
  | .notANumber => style.notANumber
  | .infinite negative => sign negative ++ style.infinity
  | .finite negative mantissa exponent =>
    let zero := if style.wholePoint then "0.0" else "0"
    if mantissa = 0 then sign negative ++ zero
    else
      let d := shortest style.tie mantissa exponent
      let digits := Nat.toDigits 10 d.digits
      let point : Int := digits.length + d.exponent
      let plain :=
        match style.bounds with
        | none => true
        | some (first, last) => first ≤ point && point ≤ last
      sign negative ++
        String.ofList (if plain then positional style.wholePoint digits point
          else scientific digits point)

/-- Numbers in the text of values: never an exponent, and no point in a whole number. -/
def plain : Style := ⟨.up, false, none, "NaN", "inf"⟩

/-- Numbers in messages about types: as plain, with a point in every number. -/
def pointed : Style := { plain with wholePoint := true }

/-- Numbers that are keys of a document: a point in every number written without an exponent,
and an exponent outside of the range from five noughts after the point to sixteen digits. -/
def keyed : Style := ⟨.even, true, some (-4, 16), ".nan", ".inf"⟩

end Decimal

end LayerLint
