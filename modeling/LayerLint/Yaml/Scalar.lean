-- What a plain scalar stands for: nothing, a truth value, a number, or its own text.
import LayerLint.Yaml.Fault

namespace LayerLint.Yaml

/-- The worth of a plain scalar. -/
inductive Scalar where
  | null
  | boolean (value : Bool)
  | integer (value : Int)
  | longInteger (value : Int)
  | float (value : Binary64)
  | text (value : String)
  deriving DecidableEq, Repr

namespace Scalar

/-- The words for nothing. -/
def isNull (s : String) : Bool := s == "null" || s == "Null" || s == "NULL" || s == "~"

/-- The words for truth values. -/
def boolean? (s : String) : Option Bool :=
  if s == "true" || s == "True" || s == "TRUE" then some true
  else if s == "false" || s == "False" || s == "FALSE" then some false
  else none

/-! ## Whole numbers -/

/-- The whole number that digits of a base spell; none if there are no digits. -/
def ofRadix? (radix : Nat) (cs : List Char) : Option Nat :=
  if cs.isEmpty then none
  else cs.foldlM (fun n c => (hexWorth? c).bind fun w =>
    if w < radix then some (n * radix + w) else none) 0

/-- The base that two characters announce, and the digits after them. -/
def takeRadix : List Char → Option (Nat × List Char)
  | '0' :: 'x' :: rest => some (16, rest)
  | '0' :: 'o' :: rest => some (8, rest)
  | '0' :: 'b' :: rest => some (2, rest)
  | _ => none

/-- Digits that begin with a nought are text, but for the nought alone. -/
def isPadded (cs : List Char) : Bool :=
  match (Decimal.takeSign cs).2 with
  | '0' :: c :: rest => (c :: rest).all Char.isDigit
  | _ => false

/-- A numeral: an optional sign, a base other than ten if one is announced, and digits. Which
numbers have a numeral is not bounded here. -/
def numeral? (cs : List Char) : Option Int :=
  let (negative, body) := Decimal.takeSign cs
  let signed (n : Nat) : Int := if negative then -(n : Int) else n
  match (takeRadix body).bind fun (radix, digits) => ofRadix? radix digits with
  | some n => some (signed n)
  | none => if isPadded cs then none else (ofRadix? 10 body).map signed

/-- The whole number of a scalar: short if it fits sixty-four bits, with or without sign, and
long if it fits twice as many. -/
def integer? (cs : List Char) : Option Scalar :=
  match numeral? cs with
  | none => none
  | some n =>
    if -(Nat.pow 2 63 : Int) ≤ n ∧ n < Nat.pow 2 64 then some (.integer n)
    else if -(Nat.pow 2 127 : Int) ≤ n ∧ n < Nat.pow 2 128 then some (.longInteger n)
    else none

/-! ## Other numbers -/

/-- The number of a scalar. Infinities have words of their own, and a numeral too large for the
format is text. -/
def float? (s : String) : Option Binary64 :=
  let cs := s.toList
  let (body, plus) :=
    match cs with
    | '+' :: rest => (rest, true)
    | _ => (cs, false)
  if plus && (body.head? = some '+' || body.head? = some '-') then none
  else
    let bare := String.ofList body
    if bare == ".inf" || bare == ".Inf" || bare == ".INF" then some (Binary64.infinity false)
    else if s == "-.inf" || s == "-.Inf" || s == "-.INF" then some (Binary64.infinity true)
    else if s == ".nan" || s == ".NaN" || s == ".NAN" then some (Binary64.notANumber false)
    else
      (Decimal.read? body).filter fun x =>
        match x.worth with
        | .finite _ _ _ => true
        | _ => false

/-- What a plain scalar stands for. -/
def ofPlain (s : String) : Scalar :=
  if s.isEmpty || isNull s then .null
  else
    match boolean? s with
    | some b => .boolean b
    | none =>
      match integer? s.toList with
      | some n => n
      | none =>
        if isPadded s.toList then .text s
        else
          match float? s with
          | some x => .float x
          | none => .text s

end Scalar

end LayerLint.Yaml
