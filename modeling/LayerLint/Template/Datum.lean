-- The values that a template computes with, and the numbers that its numerals stand for.
import LayerLint.Number.Decimal
import LayerLint.Yaml.Scalar

namespace LayerLint.Template

/-- A value of a template. Whole numbers fit sixty-four bits with a sign. -/
inductive Datum where
  | nil
  | boolean (value : Bool)
  | integer (value : Int)
  | float (value : Binary64)
  | text (value : String)
  deriving DecidableEq, Repr, Inhabited

namespace Datum

/-- Whether a value counts as true: nothing, noughts and the empty text do not. -/
def isTrue : Datum → Bool
  | .nil => false
  | .boolean b => b
  | .integer n => n != 0
  | .float x =>
    match x.worth with
    | .finite _ mantissa _ => mantissa != 0
    | _ => true
  | .text s => !s.isEmpty

/-- The text that a value prints; nothing prints nothing. -/
def write : Datum → String
  | .nil => ""
  | .boolean b => toString b
  | .integer n => toString n
  | .float x => Decimal.plain.write x
  | .text s => s

/-- The name of a value's type. -/
def typeName : Datum → String
  | .nil => "nil"
  | .boolean _ => "bool"
  | .integer _ => "int"
  | .float _ => "float64"
  | .text _ => "string"

/-! ## Numerals -/

/-- Whether a whole number fits sixty-four bits with a sign. -/
def fits (n : Int) : Bool := -(Nat.pow 2 63 : Int) ≤ n && n < Nat.pow 2 63

/-- Reads digits of a base with an optional sign in front, if the number fits. -/
def readInteger? (radix : Nat) (cs : List Char) : Option Int :=
  let (negative, digits) := Decimal.takeSign cs
  (Yaml.Scalar.ofRadix? radix digits).bind fun n =>
    let value : Int := if negative then -(n : Int) else n
    if fits value then some value else none

/-- The base that the first two characters announce, and the digits after them. -/
def takeRadix : List Char → Option (Nat × List Char)
  | '0' :: mark :: digits =>
    if mark = 'x' ∨ mark = 'X' then some (16, digits)
    else if mark = 'o' ∨ mark = 'O' then some (8, digits)
    else if mark = 'b' ∨ mark = 'B' then some (2, digits)
    else none
  | _ => none

/-- The number of a numeral. Underscores count for nothing. Digits of an announced base are a
whole number that is negated after it is read; other numerals are whole numbers if they can be. -/
def ofNumeral? (spelling : List Char) : Option Datum :=
  let cs := spelling.filter (· != '_')
  let (negative, body) := Decimal.takeSign cs
  match takeRadix body with
  | some (radix, digits) =>
    (readInteger? radix digits).map fun n =>
      .integer (if negative then (-n).bmod (Nat.pow 2 64) else n)
  | none =>
    match readInteger? 10 cs with
    | some n => some (.integer n)
    | none => (Decimal.read? cs).map .float

end Datum

end LayerLint.Template
