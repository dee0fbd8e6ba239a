-- Documents of the format JSON, and the way they are written: every part on a line of its own,
-- two blanks deeper than what it stands in.

namespace LayerLint

/-- A document, as far as reports need it. -/
inductive JsonTree where
  | number (value : Nat)
  | text (value : String)
  | array (items : List JsonTree)
  | object (fields : List (String × JsonTree))
  deriving Repr, Inhabited

namespace JsonTree

/-! ## Text -/

/-- Two digits of base sixteen for a number below 256. -/
def twoDigits (n : Nat) : List Char := [Nat.digitChar (n / 16), Nat.digitChar (n % 16)]

/-- A character between quotes. Quotes, backslashes and controls are escaped. -/
def escape (c : Char) : List Char :=
  match c with
  | '"' => ['\\', '"']
  | '\\' => ['\\', '\\']
  | '\x08' => ['\\', 'b']
  | '\x0c' => ['\\', 'f']
  | '\n' => ['\\', 'n']
  | '\r' => ['\\', 'r']
  | '\t' => ['\\', 't']
  | c => if c.toNat < 0x20 then ['\\', 'u', '0', '0'] ++ twoDigits c.toNat else [c]

def writeText (s : String) : String :=
  String.ofList ('"' :: s.toList.flatMap escape ++ ['"'])

/-! ## Lines -/

/-- A new line at a depth. -/
def newLine (depth : Nat) : String := "\n" ++ String.ofList (List.replicate (2 * depth) ' ')

/-- Parts between brackets, each on its own line; brackets around nothing stand together. -/
def enclose (opening closing : String) (depth : Nat) (parts : List String) : String :=
  match parts with
  | [] => opening ++ closing
  | parts =>
    opening ++ newLine (depth + 1) ++ ("," ++ newLine (depth + 1)).intercalate parts
      ++ newLine depth ++ closing

mutual

/-- Writes a document at a depth. -/
def write (depth : Nat) : JsonTree → String
  | .number n => toString n
  | .text s => writeText s
  | .array items => enclose "[" "]" depth (writeItems (depth + 1) items)
  | .object fields => enclose "\x7b" "\x7d" depth (writeFields (depth + 1) fields)

def writeItems (depth : Nat) : List JsonTree → List String
  | [] => []
  | item :: rest => item.write depth :: writeItems depth rest

def writeFields (depth : Nat) : List (String × JsonTree) → List String
  | [] => []
  | (name, value) :: rest =>
    (writeText name ++ ": " ++ value.write depth) :: writeFields depth rest

end

end JsonTree

end LayerLint
