-- Beginnings and ends of strings.

namespace LayerLint.Text

/-- Whether a string begins with another. -/
def beginsWith (s start : String) : Bool := start.toList.isPrefixOf s.toList

/-- Whether a string ends with another. -/
def endsWith (s stop : String) : Bool := stop.toList.isSuffixOf s.toList

theorem endsWith_iff {s stop : String} :
    endsWith s stop = true ↔ stop.toList <:+ s.toList := by
  rw [endsWith, List.isSuffixOf_iff_suffix]

/-- Whether a text stands somewhere in another. -/
def occursIn (part : List Char) : List Char → Bool
  | [] => part.isEmpty
  | c :: cs => part.isPrefixOf (c :: cs) || occursIn part cs

/-- Whether a string contains another. -/
def contains (s part : String) : Bool := occursIn part.toList s.toList

/-- What follows a beginning, if the text begins so. -/
def after? : List Char → List Char → Option (List Char)
  | [], cs => some cs
  | _ :: _, [] => none
  | s :: start, c :: cs => if s = c then after? start cs else none

theorem after?_eq_some_iff {start cs rest : List Char} :
    after? start cs = some rest ↔ cs = start ++ rest := by
  induction start generalizing cs with
  | nil => simp [after?]
  | cons s start ih =>
    cases cs with
    | nil => simp [after?]
    | cons c cs =>
      by_cases h : s = c
      · simp [after?, h, ih]
      · simp [after?, h, Ne.symm h]

/-- The text without the occurrences of a character at its start. -/
def dropLeading (c : Char) (cs : List Char) : List Char := cs.dropWhile (· == c)

/-- The text without the occurrences of a character at its end. -/
def dropTrailing (c : Char) (cs : List Char) : List Char := (cs.reverse.dropWhile (· == c)).reverse

end LayerLint.Text
