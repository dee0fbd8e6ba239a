-- Characters from octets. A character is a leading octet, whose high bits give the length,
-- and trailing octets; the shortest form is the only one, and a surrogate is no character.

namespace LayerLint.Text

/-- What is wrong with a sequence of octets. -/
inductive Utf8Fault where
  | leadingOctet
  | trailingOctet
  | overlong
  | notACharacter
  | incomplete
  deriving DecidableEq, Repr

/-- A fault and how many octets after the start of the sequence it shows. -/
structure Utf8Error where
  fault : Utf8Fault
  offset : Nat
  deriving DecidableEq, Repr

/-- The length that a leading octet announces, and its share of the code point. -/
def leadingOctet (b : UInt8) : Option (Nat × Nat) :=
  let n := b.toNat
  if n < 0x80 then some (1, n)
  else if n < 0xC0 then none
  else if n < 0xE0 then some (2, n % 0x20)
  else if n < 0xF0 then some (3, n % 0x10)
  else if n < 0xF8 then some (4, n % 0x08)
  else none

/-- The least code point that needs a given length. -/
def leastOfLength : Nat → Nat
  | 1 => 0
  | 2 => 0x80
  | 3 => 0x800
  | _ => 0x10000

/-- Adds trailing octets to a code point. A bad one is reported by its place. -/
def addTrailing : List UInt8 → Nat → Nat → Except Nat Nat
  | [], _, code => .ok code
  | b :: rest, place, code =>
    if 0x80 ≤ b.toNat && b.toNat < 0xC0 then
      addTrailing rest (place + 1) (code * 0x40 + b.toNat % 0x40)
    else .error place

/-- The first character of the octets and its length. -/
def firstChar (bytes : List UInt8) : Except Utf8Error (Char × Nat) :=
  match bytes with
  | [] => .error ⟨.incomplete, 0⟩
  | b :: rest =>
    match leadingOctet b with
    | none => .error ⟨.leadingOctet, 0⟩
    | some (width, start) =>
      let trailing := rest.take (width - 1)
      if trailing.length + 1 < width then .error ⟨.incomplete, 0⟩
      else
        match addTrailing trailing 1 start with
        | .error place => .error ⟨.trailingOctet, place⟩
        | .ok code =>
          if code < leastOfLength width then .error ⟨.overlong, 0⟩
          else if code.isValidChar then .ok (Char.ofNat code, width)
          else .error ⟨.notACharacter, 0⟩

/-- All characters of the octets, unless some are broken. -/
def decodeAll : Nat → List UInt8 → Option (List Char)
  | _, [] => some []
  | 0, _ :: _ => none
  | fuel + 1, bytes =>
    match firstChar bytes with
    | .error _ => none
    | .ok (c, width) => (decodeAll fuel (bytes.drop width)).map (c :: ·)

/-- The text that the octets encode, if they encode one. -/
def decode? (bytes : List UInt8) : Option (List Char) := decodeAll bytes.length bytes

/-- The replacement character stands for octets that encode nothing. -/
def replacement : Char := '\uFFFD'

/-- The octets that may follow a leading octet. Behind four of them the range is narrower: else
the character would be written too long, or be none. -/
def secondRange (lead : Nat) : Nat × Nat :=
  if lead = 0xE0 then (0xA0, 0xBF)
  else if lead = 0xED then (0x80, 0x9F)
  else if lead = 0xF0 then (0x90, 0xBF)
  else if lead = 0xF4 then (0x80, 0x8F)
  else (0x80, 0xBF)

/-- How many octets one replacement stands for: those that begin a character, but are not
followed by the rest of it. -/
def brokenLength : List UInt8 → Nat
  | [] => 0
  | b :: rest =>
    let lead := b.toNat
    let width := if lead < 0xC2 || 0xF4 < lead then 1 else if lead < 0xE0 then 2 else
      if lead < 0xF0 then 3 else 4
    match rest with
    | [] => 1
    | second :: more =>
      let (low, high) := secondRange lead
      if width < 3 || second.toNat < low || high < second.toNat then 1
      else 2 + ((more.take (width - 3)).takeWhile fun t =>
        0x80 ≤ t.toNat && t.toNat ≤ 0xBF).length

/-- The characters of the octets, those that encode nothing being replaced. -/
def decodeAllLossy : Nat → List UInt8 → List Char
  | _, [] => []
  | 0, _ :: _ => []
  | fuel + 1, bytes =>
    match firstChar bytes with
    | .error _ => replacement :: decodeAllLossy fuel (bytes.drop (brokenLength bytes))
    | .ok (c, width) => c :: decodeAllLossy fuel (bytes.drop width)

/-- A text for any octets: what encodes nothing is replaced. -/
def decodeLossy (bytes : List UInt8) : List Char := decodeAllLossy bytes.length bytes

/-- The octets of a text. -/
def encode (s : String) : List UInt8 := s.toUTF8.toList

end LayerLint.Text
