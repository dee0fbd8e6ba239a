-- From items to the tree of a template. The blocks that are open wait in a list, the innermost
-- first; each item adds a node to the innermost one, opens a block or closes one.
import LayerLint.Template.Item
import LayerLint.Template.Stage

namespace LayerLint.Template

/-- A problem in the items of a template and the line of its action. -/
structure ParseError where
  problem : ParseProblem
  line : Nat
  deriving DecidableEq, Repr

/-- A block that is open. -/
structure OpenBlock where
  control : Control
  pipeline : Pipeline
  /-- The variables outside of the block. -/
  outside : List String
  /-- The variables of both its parts: those outside and those that its pipeline declares. -/
  inside : List String
  /-- The nodes before it in the list that it is part of. -/
  before : List Node
  /-- Its body, once the part after its `else` has begun. -/
  body : Option (List Node)
  /-- Whether it began in the `else` of the block around it, and ends with it. -/
  chained : Bool

/-- The tree while it is built: the open blocks, the nodes of the innermost list, and the
variables that may be named there. -/
structure Builder where
  blocks : List OpenBlock
  nodes : List Node
  bound : List String

namespace Builder

def start : Builder := ⟨[], [], [rootName]⟩

/-- Adds a node to the innermost list. -/
def add (b : Builder) (node : Node) : Builder := { b with nodes := b.nodes ++ [node] }

/-- Whether a node stands in the body of a repetition. -/
def inRepetition (b : Builder) : Bool :=
  b.blocks.any fun block => block.control = .repetition && block.body.isNone

/-- Opens a block with the pipeline in its header. -/
def openBlock (vocabulary : Vocabulary) (control : Control) (chained : Bool) (tokens : List Token)
    (line : Nat) (b : Builder) : Except ParseProblem Builder :=
  let most := if control = .repetition then 2 else 1
  match parsePipeline ⟨vocabulary, b.bound⟩ most tokens line with
  | .error problem => .error problem
  | .ok pipeline =>
    let inside := if pipeline.assigns then b.bound else b.bound ++ pipeline.names
    .ok
      { blocks := ⟨control, pipeline, b.bound, inside, b.nodes, none, chained⟩ :: b.blocks
        nodes := []
        bound := inside }

/-- The node of a block whose last list is complete. -/
def closeBlock (block : OpenBlock) (last : List Node) : Node :=
  match block.body with
  | none => .block block.control block.pipeline last []
  | some body => .block block.control block.pipeline body last

/-- Closes the innermost block, and the blocks that end with it. -/
def close : List OpenBlock → List Node → Except ParseProblem Builder
  | [], _ => .error .unexpectedEnd
  | block :: blocks, last =>
    let nodes := block.before ++ [closeBlock block last]
    if block.chained then close blocks nodes
    else .ok ⟨blocks, nodes, block.outside⟩

/-- Goes on to the part after the `else` of the innermost block. The same word again begins a
block that ends with this one; a repetition has no such part. -/
def turn (vocabulary : Vocabulary) (tokens : List Token) (line : Nat) (b : Builder) :
    Except ParseProblem Builder :=
  match b.blocks with
  | [] => .error .unexpectedElse
  | block :: blocks =>
    if block.body.isSome then .error .secondElse
    else
      let turned : Builder :=
        { blocks := { block with body := some b.nodes } :: blocks
          nodes := []
          bound := block.inside }
      match tokens with
      | [] => .ok turned
      | first :: rest =>
        if block.control ≠ .repetition ∧ first.kind = .identifier block.control.word then
          turned.openBlock vocabulary block.control true rest line
        else .error (.argumentsAfterElse block.control)

/-- Nothing may follow a word that stands alone. -/
def alone (word : String) (tokens : List Token) (result : Except ParseProblem Builder) :
    Except ParseProblem Builder :=
  if tokens.isEmpty then result else .error (.argumentsAfter word)

/-- Adds a node that only a repetition may hold. -/
def addJump (word : String) (node : Node) (b : Builder) : Except ParseProblem Builder :=
  if b.inRepetition then .ok (b.add node) else .error (.outsideRepetition word)

/-- Adds the node of an action that is a pipeline. -/
def addAction (vocabulary : Vocabulary) (tokens : List Token) (line : Nat) (b : Builder) :
    Except ParseProblem Builder :=
  match parsePipeline ⟨vocabulary, b.bound⟩ 1 tokens line with
  | .error problem => .error problem
  | .ok pipeline =>
    let b := b.add (.action pipeline)
    .ok (if pipeline.assigns then b else { b with bound := b.bound ++ pipeline.names })

/-- The first word of an action. -/
def wordOf : List Token → Option String
  | ⟨.identifier name, _⟩ :: _ => some name
  | _ => none

/-- Takes an action in. -/
def takeAction (vocabulary : Vocabulary) (tokens : List Token) (line : Nat) (b : Builder) :
    Except ParseProblem Builder :=
  let rest := tokens.drop 1
  match wordOf tokens with
  | some "if" => b.openBlock vocabulary .branch false rest line
  | some "range" => b.openBlock vocabulary .repetition false rest line
  | some "with" => b.openBlock vocabulary .scope false rest line
  | some "end" => alone "end" rest (close b.blocks b.nodes)
  | some "else" => b.turn vocabulary rest line
  | some "break" => alone "break" rest (b.addJump "break" (.leave line))
  | some "continue" => alone "continue" rest (b.addJump "continue" (.next line))
  | some "define" => .error (.unsupported "define")
  | some "template" => .error (.unsupported "template")
  | some "block" => .error (.unsupported "block")
  | _ => b.addAction vocabulary tokens line

/-- Takes an item in. -/
def take (vocabulary : Vocabulary) (b : Builder) : Item → Except ParseError Builder
  | .text value => .ok (b.add (.text value))
  | .action tokens line =>
    match b.takeAction vocabulary tokens line with
    | .error problem => .error ⟨problem, line⟩
    | .ok b => .ok b

/-- The tree, if no block is open. -/
def finish (b : Builder) : Except ParseError (List Node) :=
  match b.blocks with
  | [] => .ok b.nodes
  | block :: _ => .error ⟨.unfinished block.control, block.pipeline.line⟩

end Builder

/-- The tree of a template. -/
def parse (vocabulary : Vocabulary) (items : List Item) : Except ParseError (List Node) :=
  match items.foldlM (Builder.take vocabulary) Builder.start with
  | .error e => .error e
  | .ok b => b.finish

end LayerLint.Template
