-- The grammar of templates. It says which tokens are an operand, a stage, a pipeline, and which
-- items are a list of nodes, without saying how any of them is found.
import LayerLint.Template.Parser

namespace LayerLint.Template

/-! ## Operands -/

/-- An operand that is written as it is: it has no name that could be unknown. -/
inductive Literal : Operand → Prop
  | text (value : String) : Literal (.text value)
  | number (spelling : String) : Literal (.number spelling)
  | character (value : Char) : Literal (.character value)
  | boolean (value : Bool) : Literal (.boolean value)
  | nil : Literal .nil

/-- A token that is an operand by itself. Its variable must be bound, its function known. -/
inductive Atom (names : Names) : TokenKind → Operand → Prop
  | field (chain : List String) : Atom names (.field chain) (.field chain)
  | boundVariable {name : String} (chain : List String) : name ∈ names.bound →
      Atom names (.variable name chain) (.variable name chain)
  | knownFunction {name : String} : names.vocabulary.contains name = true →
      Atom names (.identifier name) (.function name)
  | text (value : String) : Atom names (.text value) (.text value)
  | number (spelling : String) : Atom names (.number spelling) (.number spelling)
  | character (value : Char) : Atom names (.character value) (.character value)
  | boolean (value : Bool) : Atom names (.boolean value) (.boolean value)
  | nil : Atom names .nil .nil

/-- A chain that stands at the token before it, with no blank between. -/
def attached (chain : List String) : Token := ⟨.field chain, false⟩

/-- Operands that may stand as a stage, the first one or a later one. -/
structure IsCommand (later : Bool) (command : Command) : Prop where
  notEmpty : command ≠ []
  notNil : command ≠ [.nil]
  takesValue : later = true → ∀ first ∈ command.head?, ¬Literal first

mutual

/-- Tokens that are operands. A group takes all chains in that are attached to it. -/
inductive Operands (names : Names) : List Token → List Operand → Prop
  | none : Operands names [] []
  | atom {token : Token} {operand : Operand} {rest : List Token} {operands : List Operand} :
      Atom names token.kind operand → Operands names rest operands →
      Operands names (token :: rest) (operand :: operands)
  | group {opening closing : Token} {inside rest : List Token} {stages : List Command}
      {chains : List (List String)} {operands : List Operand} :
      opening.kind = .leftParen → Stages names false inside stages → closing.kind = .rightParen →
      (∀ chain after, rest ≠ attached chain :: after) → Operands names rest operands →
      Operands names (opening :: (inside ++ closing :: (chains.map attached ++ rest)))
        (.group stages chains.flatten :: operands)

/-- Tokens that are stages with a pipe between each two, all of them or those after others. -/
inductive Stages (names : Names) : Bool → List Token → List Command → Prop
  | last {later : Bool} {tokens : List Token} {command : Command} :
      Operands names tokens command → IsCommand later command → Stages names later tokens [command]
  | piped {later : Bool} {tokens rest : List Token} {bar : Token} {command : Command}
      {commands : List Command} :
      Operands names tokens command → IsCommand later command → bar.kind = .pipe →
      Stages names true rest commands →
      Stages names later (tokens ++ bar :: rest) (command :: commands)

end

/-! ## Pipelines -/

/-- The sign between names and the pipeline whose value they get. -/
def signOf (assigns : Bool) : TokenKind := if assigns then .assign else .declare

/-- Tokens that are names which get a value: one or two, with a sign. -/
inductive Given : List Token → List String → Bool → Prop
  | one {first sign : Token} {name : String} {assigns : Bool} : first.kind = .variable name [] →
      sign.kind = signOf assigns → Given [first, sign] [name] assigns
  | two {first comma second sign : Token} {name other : String} {assigns : Bool} :
      first.kind = .variable name [] → comma.kind = .comma → second.kind = .variable other [] →
      sign.kind = signOf assigns → Given [first, comma, second, sign] [name, other] assigns

/-- Tokens that are a pipeline, which may give its value to so many names. Names that are said to
have a value must be bound. -/
inductive IsPipeline (names : Names) (most line : Nat) : List Token → Pipeline → Prop
  | plain {tokens : List Token} {stages : List Command} : Stages names false tokens stages →
      IsPipeline names most line tokens ⟨[], false, stages, line⟩
  | given {front tokens : List Token} {given : List String} {assigns : Bool}
      {stages : List Command} : Given front given assigns → given.length ≤ most →
      (assigns = true → ∀ name ∈ given, name ∈ names.bound) → Stages names false tokens stages →
      IsPipeline names most line (front ++ tokens) ⟨given, assigns, stages, line⟩

/-! ## Nodes -/

/-- The words that say what an action is. -/
def keywords : List String :=
  ["if", "range", "with", "end", "else", "break", "continue", "define", "template", "block"]

/-- An action with a first word. -/
def StartsWith (word : String) (tokens : List Token) : Prop :=
  ∃ token rest, tokens = token :: rest ∧ token.kind = .identifier word

/-- How many names the header of a block may declare. -/
def Control.mostNames (control : Control) : Nat := if control = .repetition then 2 else 1

/-- The variables after a pipeline: it declares its names, or assigns to names that are bound. -/
def Pipeline.boundAfter (pipeline : Pipeline) (bound : List String) : List String :=
  if pipeline.assigns then bound else bound ++ pipeline.names

mutual

/-- Items that are nodes, in the body of a repetition or not. The last list holds the variables
that are bound after them. -/
inductive IsNodes (vocabulary : Vocabulary) :
    Bool → List String → List Item → List Node → List String → Prop
  | none {repeats : Bool} {bound : List String} : IsNodes vocabulary repeats bound [] [] bound
  | text {repeats : Bool} {bound after : List String} {value : String} {items : List Item}
      {nodes : List Node} : IsNodes vocabulary repeats bound items nodes after →
      IsNodes vocabulary repeats bound (.text value :: items) (.text value :: nodes) after
  | action {repeats : Bool} {bound after : List String} {tokens : List Token} {line : Nat}
      {pipeline : Pipeline} {items : List Item} {nodes : List Node} :
      (∀ word ∈ keywords, ¬StartsWith word tokens) →
      IsPipeline ⟨vocabulary, bound⟩ 1 line tokens pipeline →
      IsNodes vocabulary repeats (pipeline.boundAfter bound) items nodes after →
      IsNodes vocabulary repeats bound (.action tokens line :: items) (.action pipeline :: nodes)
        after
  | leave {bound after : List String} {word : Token} {line : Nat} {items : List Item}
      {nodes : List Node} : word.kind = .identifier "break" →
      IsNodes vocabulary true bound items nodes after →
      IsNodes vocabulary true bound (.action [word] line :: items) (.leave line :: nodes) after
  | next {bound after : List String} {word : Token} {line : Nat} {items : List Item}
      {nodes : List Node} : word.kind = .identifier "continue" →
      IsNodes vocabulary true bound items nodes after →
      IsNodes vocabulary true bound (.action [word] line :: items) (.next line :: nodes) after
  | block {repeats : Bool} {bound after : List String} {control : Control} {word : Token}
      {header : List Token} {line : Nat} {inner items : List Item} {node : Node}
      {nodes : List Node} : word.kind = .identifier control.word →
      IsBlock vocabulary repeats bound control header line inner node →
      IsNodes vocabulary repeats bound items nodes after →
      IsNodes vocabulary repeats bound (.action (word :: header) line :: (inner ++ items))
        (node :: nodes) after

/-- Items that are a block after its header: a body and what ends it. Only the body of a
repetition is repeated, and what it declares is bound in it alone. -/
inductive IsBlock (vocabulary : Vocabulary) :
    Bool → List String → Control → List Token → Nat → List Item → Node → Prop
  | mk {repeats : Bool} {bound after : List String} {control : Control} {header : List Token}
      {line : Nat} {pipeline : Pipeline} {items ending : List Item} {body otherwise : List Node} :
      IsPipeline ⟨vocabulary, bound⟩ control.mostNames line header pipeline →
      IsNodes vocabulary (repeats || control = .repetition) (pipeline.boundAfter bound) items body
        after →
      IsEnding vocabulary repeats (pipeline.boundAfter bound) control ending otherwise →
      IsBlock vocabulary repeats bound control header line (items ++ ending)
        (.block control pipeline body otherwise)

/-- Items that end a block after its body: the word that closes it, the other part with this word
after it, or, but for a repetition, the same kind of block again, whose end is that of both. -/
inductive IsEnding (vocabulary : Vocabulary) :
    Bool → List String → Control → List Item → List Node → Prop
  | closed {repeats : Bool} {bound : List String} {control : Control} {line : Nat}
      {word : Token} : word.kind = .identifier "end" →
      IsEnding vocabulary repeats bound control [.action [word] line] []
  | otherwise {repeats : Bool} {bound after : List String} {control : Control} {turn line : Nat}
      {items : List Item} {nodes : List Node} {word closing : Token} :
      word.kind = .identifier "else" → IsNodes vocabulary repeats bound items nodes after →
      closing.kind = .identifier "end" →
      IsEnding vocabulary repeats bound control
        (.action [word] turn :: (items ++ [.action [closing] line])) nodes
  | again {repeats : Bool} {bound : List String} {control : Control} {header : List Token}
      {line : Nat} {items : List Item} {node : Node} {word same : Token} :
      word.kind = .identifier "else" → control ≠ .repetition →
      same.kind = .identifier control.word →
      IsBlock vocabulary repeats bound control header line items node →
      IsEnding vocabulary repeats bound control (.action (word :: same :: header) line :: items)
        [node]

end

/-- The items of a whole template: nodes outside of every block, with no variable but the one that
every template has. -/
def IsTemplate (vocabulary : Vocabulary) (items : List Item) (nodes : List Node) : Prop :=
  ∃ after, IsNodes vocabulary false [rootName] items nodes after

end LayerLint.Template
