-- From the tokens of an action to a pipeline. Stages are cut at the pipes outside of parentheses,
-- and a pipeline in parentheses is an operand of its own.
import LayerLint.Template.Token
import LayerLint.Template.Tree
import LayerLint.Template.Vocabulary

namespace LayerLint.Template

/-- What can be wrong with the items of a template. -/
inductive ParseProblem where
  | unexpectedEnd
  | unexpectedElse
  | secondElse
  | argumentsAfter (word : String)
  | argumentsAfterElse (control : Control)
  | unfinished (control : Control)
  | outsideRepetition (word : String)
  | unsupported (word : String)
  | missingValue
  | notExecutable (stage : Nat)
  | tooManyNames
  | undefinedVariable (name : String)
  | undefinedFunction (name : String)
  | unexpectedParen
  | unclosedParen
  | assignmentInOperand
  | commaInOperand
  | nilCommand
  deriving DecidableEq, Repr

/-- A word between delimiters. -/
def delimited (word : String) : String := "\x7b\x7b" ++ word ++ "\x7d\x7d"

def ParseProblem.message : ParseProblem → String
  | .unexpectedEnd => "unexpected " ++ delimited "end"
  | .unexpectedElse => "unexpected " ++ delimited "else"
  | .secondElse => "expected end; found " ++ delimited "else"
  | .argumentsAfter word => "unexpected arguments after " ++ word
  | .argumentsAfterElse control => "unexpected arguments after else in " ++ delimited control.word
  | .unfinished control => "unexpected EOF in " ++ delimited control.word
  | .outsideRepetition word => delimited word ++ " outside " ++ delimited "range"
  | .unsupported word => delimited word ++ " is not supported in configuration templates"
  | .missingValue => "missing value for command"
  | .notExecutable stage => s!"non executable command in pipeline stage {stage}"
  | .tooManyNames => "too many declarations"
  | .undefinedVariable name => "undefined variable " ++ Text.quoted name
  | .undefinedFunction name => "function " ++ Text.quoted name ++ " not defined"
  | .unexpectedParen => "unexpected right paren"
  | .unclosedParen => "unclosed left paren"
  | .assignmentInOperand => "unexpected assignment in operand"
  | .commaInOperand => "unexpected \",\" in operand"
  | .nilCommand => "nil is not a command"

/-- What a template may name at a place. -/
structure Names where
  vocabulary : Vocabulary
  bound : List String

/-! ## Parentheses -/

/-- Cuts tokens at the pipes outside of parentheses, of which so many are open. There is no cut if
a parenthesis closes that was not opened. -/
def cutStages (depth : Nat) : List Token → Option (List (List Token))
  | [] => some [[]]
  | token :: rest =>
    let keep (depth : Nat) : Option (List (List Token)) :=
      match cutStages depth rest with
      | some (stage :: stages) => some ((token :: stage) :: stages)
      | _ => none
    match token.kind, depth with
    | .leftParen, _ => keep (depth + 1)
    | .rightParen, 0 => none
    | .rightParen, outer + 1 => keep outer
    | .pipe, 0 => (cutStages 0 rest).map ([] :: ·)
    | _, _ => keep depth

/-- The tokens up to the parenthesis that closes, and those after it; so many others are open. -/
def takeGroup (depth : Nat) : List Token → Option (List Token × List Token)
  | [] => none
  | token :: rest =>
    let keep (depth : Nat) : Option (List Token × List Token) :=
      (takeGroup depth rest).map fun (inside, after) => (token :: inside, after)
    match token.kind, depth with
    | .leftParen, _ => keep (depth + 1)
    | .rightParen, 0 => some ([], rest)
    | .rightParen, outer + 1 => keep outer
    | _, _ => keep depth

/-! ## Operands -/

/-- The names after the points that follow a parenthesis without a blank. -/
def chainOf : List Token → List (List String)
  | ⟨.field chain, false⟩ :: rest => chain :: chainOf rest
  | _ => []

/-- Reads operands. A pipeline in parentheses is read by `group`; its tokens are passed over. -/
def parseOperands (names : Names) (group : List Token → Except ParseProblem (List Command)) :
    Nat → List Token → Except ParseProblem (List Operand)
  | _, [] => .ok []
  | skipped + 1, _ :: rest => parseOperands names group skipped rest
  | 0, token :: rest =>
    let read (operand : Operand) : Except ParseProblem (List Operand) :=
      match parseOperands names group 0 rest with
      | .error problem => .error problem
      | .ok operands => .ok (operand :: operands)
    match token.kind with
    | .leftParen =>
      match takeGroup 0 rest with
      | none => .error .unclosedParen
      | some (inside, after) =>
        match group inside with
        | .error problem => .error problem
        | .ok stages =>
          let chain := chainOf after
          match parseOperands names group (inside.length + 1 + chain.length) rest with
          | .error problem => .error problem
          | .ok operands => .ok (.group stages chain.flatten :: operands)
    | .rightParen => .error .unexpectedParen
    | .field chain => read (.field chain)
    | .variable name chain =>
      if names.bound.contains name then read (.variable name chain)
      else .error (.undefinedVariable name)
    | .identifier name =>
      if names.vocabulary.contains name then read (.function name)
      else .error (.undefinedFunction name)
    | .text value => read (.text value)
    | .number spelling => read (.number spelling)
    | .character value => read (.character value)
    | .boolean value => read (.boolean value)
    | .nil => read .nil
    | .pipe => .error .missingValue
    | .declare | .assign => .error .assignmentInOperand
    | .comma => .error .commaInOperand

/-! ## Commands -/

/-- Whether an operand can take the value of the stage before it. -/
def isExecutable : Operand → Bool
  | .function _ => true
  | .field _ => true
  | .variable _ _ => true
  | .group _ _ => true
  | _ => false

/-- Whether a command is nothing but the value that is nothing. -/
def isNilAlone : Command → Bool
  | [.nil] => true
  | _ => false

/-- Reads the command of a stage. -/
def parseCommand (names : Names) (group : List Token → Except ParseProblem (List Command))
    (tokens : List Token) : Except ParseProblem Command :=
  if tokens.isEmpty then .error .missingValue
  else
    match parseOperands names group 0 tokens with
    | .error problem => .error problem
    | .ok operands => if isNilAlone operands then .error .nilCommand else .ok operands

/-- Reads the commands of the stages from a given one on. Those after the first take a value. -/
def parseCommands (names : Names) (group : List Token → Except ParseProblem (List Command)) :
    Nat → List (List Token) → Except ParseProblem (List Command)
  | _, [] => .ok []
  | stage, tokens :: rest =>
    match parseCommand names group tokens with
    | .error problem => .error problem
    | .ok command =>
      if 0 < stage ∧ !(command.head?.all isExecutable) then .error (.notExecutable (stage + 1))
      else
        match parseCommands names group (stage + 1) rest with
        | .error problem => .error problem
        | .ok commands => .ok (command :: commands)

/-! ## Pipelines -/

/-- The name of a variable without a chain. -/
def bareName (token : Option Token) : Option String :=
  match token with
  | some ⟨.variable name [], _⟩ => some name
  | _ => none

/-- Whether a token gives a value to the names before it, and if so whether they have one. -/
def assignment (token : Option Token) : Option Bool :=
  match token with
  | some ⟨.declare, _⟩ => some false
  | some ⟨.assign, _⟩ => some true
  | _ => none

/-- Whether a token is a comma. -/
def isComma (token : Option Token) : Bool := token.any fun t => t.kind = .comma

/-- The names that a pipeline gives its value to: how they are written, whether they are said to
have a value already, and the tokens after them. At most so many are allowed. -/
def takeNamesGiven (most : Nat) (tokens : List Token) :
    Except ParseProblem (List String × Bool × List Token) :=
  match bareName tokens[0]? with
  | none => .ok ([], false, tokens)
  | some first =>
    match assignment tokens[1]? with
    | some assigns =>
      if 1 ≤ most then .ok ([first], assigns, tokens.drop 2) else .error .tooManyNames
    | none =>
      if isComma tokens[1]? then
        match bareName tokens[2]?, assignment tokens[3]? with
        | some second, some assigns =>
          if 2 ≤ most then .ok ([first, second], assigns, tokens.drop 4) else .error .tooManyNames
        | _, _ => .error .tooManyNames
      else .ok ([], false, tokens)

/-- Only names that have a value can be given another one. -/
def checkAssigned (names : Names) (given : List String) : Except ParseProblem Unit :=
  match given.find? fun name => !names.bound.contains name with
  | some name => .error (.undefinedVariable name)
  | none => .ok ()

/-- The names, if any, in front of a pipeline. -/
def parseGiven (names : Names) (most : Nat) (tokens : List Token) :
    Except ParseProblem (List String × Bool × List Token) :=
  match takeNamesGiven most tokens with
  | .error problem => .error problem
  | .ok (given, assigns, rest) =>
    match (if assigns then checkAssigned names given else .ok ()) with
    | .error problem => .error problem
    | .ok () => .ok (given, assigns, rest)

/-- Reads the stages of a pipeline in which parentheses are nested less deep than a bound. -/
def parseStages (names : Names) : Nat → List Token → Except ParseProblem (List Command)
  | 0, _ => .error .unclosedParen
  | depth + 1, tokens =>
    let group (inside : List Token) : Except ParseProblem (List Command) :=
      match parseGiven names 0 inside with
      | .error problem => .error problem
      | .ok (_, _, rest) => parseStages names depth rest
    if tokens.isEmpty then .error .missingValue
    else
      match cutStages 0 tokens with
      | none => .error .unexpectedParen
      | some stages => parseCommands names group 0 stages

/-- Reads a pipeline that may give its value to so many names. -/
def parsePipeline (names : Names) (most : Nat) (tokens : List Token) (line : Nat) :
    Except ParseProblem Pipeline :=
  match parseGiven names most tokens with
  | .error problem => .error problem
  | .ok (given, assigns, rest) =>
    match parseStages names (rest.length + 1) rest with
    | .error problem => .error problem
    | .ok stages => .ok ⟨given, assigns, stages, line⟩

end LayerLint.Template
