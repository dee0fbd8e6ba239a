-- Printing values, with and without a format.
import LayerLint.Template.Datum

namespace LayerLint.Template

namespace Format

/-- Characters of a directive before its verb; they change nothing. -/
def isFlag (c : Char) : Bool :=
  c.isDigit || c == '.' || c == '-' || c == '+' || c == '#' || c == ' '

/-- A value under a verb: one verb quotes it. -/
def underVerb (verb : Char) (d : Datum) : String :=
  if verb = 'q' then Text.quoted d.write else d.write

/-- What stands for a value that is missing. -/
def missing (verb : Char) : String := "%!" ++ String.singleton verb ++ "(MISSING)"

/-- What stands for a directive without verb. -/
def noVerb : String := "%!(NOVERB)"

mutual

/-- Text outside of directives. -/
def literal : List Char → List Datum → List Char
  | [], _ => []
  | c :: rest, args => if c = '%' then directive rest args else c :: literal rest args

/-- The rest of a directive. A percent sign as verb stands for itself; values that no directive
takes are left out. -/
def directive : List Char → List Datum → List Char
  | [], _ => noVerb.toList
  | c :: rest, args =>
    if isFlag c then directive rest args
    else if c = '%' then '%' :: literal rest args
    else
      match args with
      | [] => (missing c).toList ++ literal rest []
      | d :: more => (underVerb c d).toList ++ literal rest more

end

/-- A format with the values put in. -/
def write (format : String) (args : List Datum) : String :=
  String.ofList (literal format.toList args)

/-- Whether a value is text. -/
def isText : Datum → Bool
  | .text _ => true
  | _ => false

/-- Values one after the other; a space stands between two that are no texts. -/
def concat : List Datum → String
  | [] => ""
  | [d] => d.write
  | d :: e :: rest =>
    d.write ++ (if isText d || isText e then "" else " ") ++ concat (e :: rest)

/-- Values with a space between them, and a line feed at the end. -/
def line (args : List Datum) : String := " ".intercalate (args.map Datum.write) ++ "\n"

end Format

end LayerLint.Template
