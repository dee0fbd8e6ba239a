-- Blank characters, the ends of a text that are blank, and the lines of a text.
import LayerLint.Text.Cut

namespace LayerLint.Text

/-! ## The white-space property -/

/-- A character with the property White_Space. -/
def isBlank (c : Char) : Bool :=
  let n := c.toNat
  (0x09 ≤ n && n ≤ 0x0D) || n == 0x20 || n == 0x85 || n == 0xA0 || n == 0x1680 ||
    (0x2000 ≤ n && n ≤ 0x200A) || n == 0x2028 || n == 0x2029 || n == 0x202F || n == 0x205F ||
    n == 0x3000

/-! ## Blank ends -/

/-- The text without the blanks at its start. -/
def trimStart (cs : List Char) : List Char := cs.dropWhile isBlank

/-- The text without the blanks at its end. -/
def trimEnd : List Char → List Char
  | [] => []
  | c :: rest =>
    match trimEnd rest with
    | [] => if isBlank c then [] else [c]
    | kept => c :: kept

/-- The text without the blanks at its two ends. -/
def trim (cs : List Char) : List Char := trimEnd (trimStart cs)

/-! ## Lines -/

/-- A carriage return before the line feed belongs to the end of the line. -/
def dropReturn (line : List Char) : List Char :=
  if line.getLast? = some '\r' then line.dropLast else line

/-- The lines of a text. A line feed ends a line, with the carriage return before it if there
is one; the last line may lack its end, and no empty line follows the last line feed. -/
def lines (cs : List Char) : List (List Char) :=
  let parts := cut '\n' cs
  let body := parts.dropLast.map dropReturn
  match parts.getLast? with
  | none | some [] => body
  | some last => body ++ [last]

end LayerLint.Text
