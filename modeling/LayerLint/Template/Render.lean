-- The skeleton of a template: what it prints when nothing has a value. Fields are nothing, so a
-- branch takes its second part and a repetition repeats nothing.
import LayerLint.Template.Tree
import LayerLint.Template.Vocabulary

namespace LayerLint.Template

/-- Why a template does not print. -/
inductive RenderProblem where
  | call (name : String) (problem : CallProblem)
  | argumentsToValue
  | badNumber (spelling : String)
  | emptyCommand
  deriving DecidableEq, Repr

def RenderProblem.message : RenderProblem → String
  | .call name problem => "error calling " ++ name ++ ": " ++ problem.message
  | .argumentsToValue => "can't give argument to non-function"
  | .badNumber spelling => "bad number syntax: " ++ Text.quoted spelling
  | .emptyCommand => "empty command"

/-- A problem in printing and the line of its action. -/
structure RenderError where
  problem : RenderProblem
  line : Nat
  deriving DecidableEq, Repr

/-- Variables and their values, the latest first. -/
abbrev Variables := List (String × Datum)

/-- Printing changes variables and may fail. -/
abbrev Render := StateT Variables (Except RenderProblem)

namespace Render

/-- The value of the latest variable of a name. -/
def lookup (name : String) : Render Datum := do pure (((← get).lookup name).getD .nil)

/-- Gives the latest variable of a name another value. -/
def assign (name : String) (d : Datum) : Variables → Variables
  | [] => []
  | (n, old) :: rest => if n = name then (n, d) :: rest else (n, old) :: assign name d rest

/-- Calls a function. -/
def call (vocabulary : Vocabulary) (name : String) (args : List Datum) : Render Datum :=
  match vocabulary.call name args with
  | .ok d => pure d
  | .error problem => throw (.call name problem)

/-! ## Pipelines -/

mutual

/-- The value of an operand, where `dot` is the present value. -/
def operand (vocabulary : Vocabulary) (dot : Datum) : Operand → Render Datum
  | .field [] => pure dot
  | .field (_ :: _) => pure .nil
  | .variable name [] => lookup name
  | .variable _ (_ :: _) => pure .nil
  | .function name => call vocabulary name []
  | .group commands chain => do
    let value ← stages vocabulary dot none commands
    pure (if chain.isEmpty then value.getD .nil else .nil)
  | .text value => pure (.text value)
  | .number spelling =>
    match Datum.ofNumeral? spelling.toList with
    | some d => pure d
    | none => throw (.badNumber spelling)
  | .character value => pure (.integer value.toNat)
  | .boolean value => pure (.boolean value)
  | .nil => pure .nil

/-- The values of operands. -/
def operands (vocabulary : Vocabulary) (dot : Datum) : List Operand → Render (List Datum)
  | [] => pure []
  | first :: rest => do
    let d ← operand vocabulary dot first
    let ds ← operands vocabulary dot rest
    pure (d :: ds)

/-- The value of a command. The value of the stage before it is its last argument. -/
def command (vocabulary : Vocabulary) (dot : Datum) (piped : Option Datum) :
    List Operand → Render Datum
  | [] => throw .emptyCommand
  | .function name :: rest => do
    let args ← operands vocabulary dot rest
    call vocabulary name (args ++ piped.toList)
  | first :: rest =>
    if !rest.isEmpty || piped.isSome then throw .argumentsToValue
    else operand vocabulary dot first

/-- The value of stages. -/
def stages (vocabulary : Vocabulary) (dot : Datum) (piped : Option Datum) :
    List (List Operand) → Render (Option Datum)
  | [] => pure piped
  | first :: rest => do
    let d ← command vocabulary dot piped first
    stages vocabulary dot (some d) rest

end

/-- The value of a pipeline, which its names take on. -/
def pipeline (vocabulary : Vocabulary) (dot : Datum) (p : Pipeline) : Render Datum := do
  let d := (← stages vocabulary dot none p.stages).getD .nil
  if p.assigns then
    modify fun bindings => p.names.foldl (fun vs name => assign name d vs) bindings
  else
    modify fun bindings => p.names.foldl (fun vs name => (name, d) :: vs) bindings
  pure d

/-! ## Nodes -/

/-- Gives a problem its line. -/
def atLine {α : Type} (line : Nat) (act : Render α) : StateT Variables (Except RenderError) α :=
  fun bindings =>
    match act bindings with
    | .ok result => .ok result
    | .error problem => .error ⟨problem, line⟩

/-- The variables that an act declares are gone after it. -/
def withinScope {α : Type} (act : StateT Variables (Except RenderError) α) :
    StateT Variables (Except RenderError) α := do
  let depth := (← get).length
  let result ← act
  modify fun bindings => bindings.drop (bindings.length - depth)
  pure result

mutual

/-- What a node prints. -/
def node (vocabulary : Vocabulary) (dot : Datum) :
    Node → StateT Variables (Except RenderError) String
  | .text value => pure value
  | .action p => do
    let d ← atLine p.line (pipeline vocabulary dot p)
    pure (if p.names.isEmpty then d.write else "")
  | .block .branch p body otherwise => withinScope do
    let d ← atLine p.line (pipeline vocabulary dot p)
    if d.isTrue then nodes vocabulary dot body else nodes vocabulary dot otherwise
  | .block .scope p body otherwise => withinScope do
    let d ← atLine p.line (pipeline vocabulary dot p)
    if d.isTrue then nodes vocabulary d body else nodes vocabulary dot otherwise
  | .block .repetition p _ otherwise => withinScope do
    let _ ← atLine p.line (pipeline vocabulary dot p)
    nodes vocabulary dot otherwise
  | .leave _ => pure ""
  | .next _ => pure ""

/-- What nodes print, one after the other. -/
def nodes (vocabulary : Vocabulary) (dot : Datum) :
    List Node → StateT Variables (Except RenderError) String
  | [] => pure ""
  | first :: rest => do
    let text ← node vocabulary dot first
    let more ← nodes vocabulary dot rest
    pure (text ++ more)

end

end Render

/-- What a template prints when nothing has a value. -/
def render (vocabulary : Vocabulary) (tree : List Node) : Except RenderError String :=
  match (Render.nodes vocabulary .nil tree).run [(rootName, .nil)] with
  | .ok (text, _) => .ok text
  | .error e => .error e

end LayerLint.Template
