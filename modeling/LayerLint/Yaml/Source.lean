-- The characters of a document, from its octets. All octets are read before the first token,
-- so a broken one anywhere is the fault of the whole document; only a sequence that the end of
-- the text cuts off is noticed when somebody looks that far.
import LayerLint.Yaml.Fault

namespace LayerLint.Yaml

/-- Characters that a document may hold. -/
def isAllowed (c : Char) : Bool :=
  let n := c.toNat
  n == 0x09 || n == 0x0A || n == 0x0D || (0x20 ≤ n && n ≤ 0x7E) || n == 0x85 ||
    (0xA0 ≤ n && n ≤ 0xD7FF) || (0xE000 ≤ n && n ≤ 0xFFFD) || (0x10000 ≤ n && n ≤ 0x10FFFF)

/-- The characters of a document, and the offset of a sequence that its end cuts off. -/
structure Source where
  characters : List Char
  cutOff : Option Nat
  deriving Repr

namespace Source

def ofOctetsAt : Nat → Nat → List UInt8 → Except Fault Source
  | _, _, [] => .ok ⟨[], none⟩
  | 0, offset, _ :: _ => .ok ⟨[], some offset⟩
  | fuel + 1, offset, bytes =>
    match Text.firstChar bytes with
    | .error ⟨.incomplete, _⟩ => .ok ⟨[], some offset⟩
    | .error ⟨fault, further⟩ => .error (.octets (.encoding fault) (offset + further))
    | .ok (c, width) =>
      if isAllowed c then
        (ofOctetsAt fuel (offset + width) (bytes.drop width)).map fun s =>
          { s with characters := c :: s.characters }
      else .error (.octets .controlCharacter offset)

/-- Reads the characters of a document. -/
def ofOctets (bytes : List UInt8) : Except Fault Source := ofOctetsAt bytes.length 0 bytes

end Source

end LayerLint.Yaml
