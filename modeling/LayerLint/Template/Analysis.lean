-- What a template reads, defines and brings in.
import LayerLint.Template.Parser
import LayerLint.Template.Reference
import LayerLint.Template.Render
import LayerLint.Value.Flatten

namespace LayerLint.Template

/-- What a template reads, with the number of times; the leaves of its skeleton; the fragments
that it brings in, each once; and the skeleton. -/
structure Analysis where
  reads : SortedMap Nat
  leaves : SortedMap Value
  includes : List String
  rendered : String

/-- Why a template cannot be analysed. -/
inductive AnalysisError where
  | characters (e : LexError)
  | items (e : ParseError)
  | printing (e : RenderError)
  | skeleton (fault : Yaml.Fault) (context : List String)
  deriving DecidableEq, Repr

namespace AnalysisError

/-- Whether the template itself is malformed, and not what it prints. -/
def isMalformed : AnalysisError → Bool
  | .characters _ => true
  | .items _ => true
  | .printing _ => false
  | .skeleton _ _ => false

def message : AnalysisError → String
  | .characters e => e.problem.message
  | .items e => e.problem.message
  | .printing e => e.problem.message
  | .skeleton fault _ => fault.message

def line? : AnalysisError → Option Nat
  | .characters e => some e.line
  | .items e => some e.line
  | .printing e => some e.line
  | .skeleton fault _ => fault.line?

def context : AnalysisError → List String
  | .skeleton _ context => context
  | _ => []

end AnalysisError

/-- The part of a list from one place up to another, if the list has these places in this order. -/
def slice? {α : Type} (xs : List α) (first last : Nat) : Option (List α) :=
  if first ≤ last ∧ last ≤ xs.length then some ((xs.take last).drop first) else none

/-- The lines around a line, counted from one, as far as there are such lines. -/
def linesAround (lines : List (List Char)) (line : Nat) : List (List Char) :=
  let first := line - 2
  let last := min (line + 1) lines.length
  (slice? lines first last).getD []

/-- The lines of a skeleton around a line, if one is known. -/
def contextAt (rendered : String) : Option Nat → List String
  | some line => (linesAround (Text.lines rendered.toList) line).map String.ofList
  | none => []

/-- The lines of a skeleton around a fault. -/
def faultContext (rendered : String) (fault : Yaml.Fault) : List String :=
  contextAt rendered fault.line?

/-- Reads the tree of a template. -/
def treeOf (vocabulary : Vocabulary) (source : List Char) : Except AnalysisError (List Node) :=
  match Item.ofText source with
  | .error e => .error (.characters e)
  | .ok items =>
    match parse vocabulary items with
    | .error e => .error (.items e)
    | .ok tree => .ok tree

/-- Analyses a template. Octets that encode nothing are read as replacements. -/
def analyze (vocabulary : Vocabulary) (body : List UInt8) : Except AnalysisError Analysis :=
  match treeOf vocabulary (Text.decodeLossy body) with
  | .error e => .error e
  | .ok tree =>
    match render vocabulary tree with
    | .error e => .error (.printing e)
    | .ok rendered =>
      match Value.extract (Text.encode rendered) with
      | .error fault => .error (.skeleton fault (faultContext rendered fault))
      | .ok leaves =>
        .ok
          { reads := countPaths (readsOfNodes .root tree)
            leaves := leaves
            includes := (includesOfNodes tree).eraseDups
            rendered := rendered }

end LayerLint.Template
