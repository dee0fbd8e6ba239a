-- Values: what a layer gives to a path. Two values are equal if they are written the same way,
-- down to the bits of their numbers.
import LayerLint.Yaml.Node

namespace LayerLint

/-- A value of a layer. The entries of a mapping stand in the order of the document. -/
inductive Value where
  | null
  | boolean (value : Bool)
  | integer (value : Int)
  | float (value : Binary64)
  | text (value : String)
  | sequence (items : List Value)
  | mapping (entries : List (String × Value))
  deriving Repr, Inhabited

namespace Value

/-! ## Equality -/

mutual

/-- Whether two values are equal. -/
def same : Value → Value → Bool
  | .null, .null => true
  | .boolean a, .boolean b => a == b
  | .integer a, .integer b => a == b
  | .float a, .float b => a == b
  | .text a, .text b => a == b
  | .sequence a, .sequence b => sameItems a b
  | .mapping a, .mapping b => sameEntries a b
  | _, _ => false

def sameItems : List Value → List Value → Bool
  | [], [] => true
  | a :: as, b :: bs => a.same b && sameItems as bs
  | _, _ => false

def sameEntries : List (String × Value) → List (String × Value) → Bool
  | [], [] => true
  | (k, a) :: as, (l, b) :: bs => k == l && a.same b && sameEntries as bs
  | _, _ => false

end

mutual

theorem same_iff_eq (a b : Value) : a.same b = true ↔ a = b := by
  cases a <;> cases b <;> simp [same, sameItems_iff_eq, sameEntries_iff_eq]

theorem sameItems_iff_eq (as bs : List Value) : sameItems as bs = true ↔ as = bs := by
  cases as <;> cases bs <;> simp [sameItems, same_iff_eq, sameItems_iff_eq]

theorem sameEntries_iff_eq (as bs : List (String × Value)) :
    sameEntries as bs = true ↔ as = bs := by
  rcases as with _ | ⟨⟨k, a⟩, as⟩ <;> rcases bs with _ | ⟨⟨l, b⟩, bs⟩ <;>
    simp [sameEntries, same_iff_eq, sameEntries_iff_eq, and_assoc]

end

instance : DecidableEq Value := fun a b =>
  decidable_of_iff (a.same b = true) (same_iff_eq a b)

/-! ## Text -/

/-- Parts with a comma between them. -/
def commas (parts : List String) : String := ", ".intercalate parts

mutual

/-- The text of a value; only text itself is quoted. -/
def write : Value → String
  | .null => "null"
  | .boolean b => toString b
  | .integer n => toString n
  | .float x => Decimal.plain.write x
  | .text s => Text.quoted s
  | .sequence items => "[" ++ commas (writeItems items) ++ "]"
  | .mapping entries => "\x7b" ++ commas (writeEntries entries) ++ "\x7d"

def writeItems : List Value → List String
  | [] => []
  | item :: rest => item.write :: writeItems rest

def writeEntries : List (String × Value) → List String
  | [] => []
  | (key, value) :: rest => (key ++ ": " ++ value.write) :: writeEntries rest

end

/-! ## Values of nodes -/

/-- The value of a whole number; one that does not fit sixty-four bits with a sign is kept as the
nearest number of the format binary64. -/
def ofInteger (n : Int) : Value :=
  if -(Nat.pow 2 63 : Int) ≤ n ∧ n < Nat.pow 2 63 then .integer n else .float (Binary64.ofInt n)

mutual

/-- The value of a node; tags are left out. -/
def ofNode : Yaml.Node → Value
  | .null => .null
  | .boolean b => .boolean b
  | .integer n => ofInteger n
  | .float x => .float x
  | .text s => .text s
  | .sequence items => .sequence (ofItems items)
  | .mapping entries => .mapping (ofEntries entries)
  | .tagged _ content => ofNode content

def ofItems : List Yaml.Node → List Value
  | [] => []
  | item :: rest => ofNode item :: ofItems rest

def ofEntries : List (Yaml.Node × Yaml.Node) → List (String × Value)
  | [] => []
  | (key, value) :: rest => (segment key, ofNode value) :: ofEntries rest

/-- The segment of a path that a key becomes: a scalar its bare text, all else its value's. -/
def segment : Yaml.Node → String
  | .null => "null"
  | .boolean b => toString b
  | .integer n => toString n
  | .float x => Decimal.keyed.write x
  | .text s => s
  | .sequence items => "[" ++ commas (writeItems (ofItems items)) ++ "]"
  | .mapping entries => "\x7b" ++ commas (writeEntries (ofEntries entries)) ++ "\x7d"
  | .tagged _ content => write (ofNode content)

end

end Value

end LayerLint
