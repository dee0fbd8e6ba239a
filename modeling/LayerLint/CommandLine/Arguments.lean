-- The arguments of one command, while its words are read. An option without a value waits for the
-- next word; what waits is settled when the next argument begins, or at the end.
import LayerLint.CommandLine.Parameter
import LayerLint.Text.Cut

namespace LayerLint.CommandLine

/-! ## Words -/

/-- What a word looks like. One dash alone is a plain word. -/
inductive Word where
  | plain (text : String)
  | separator
  | long (name : String) (value : Option String)
  | short (letters : List Char)
  deriving DecidableEq, Repr

/-- A name, and the value behind its first equals sign. -/
def Word.ofAssignment (cs : List Char) : Word :=
  match Text.cut '=' cs with
  | name :: part :: parts =>
    .long (String.ofList name) (some (String.ofList (Text.paste '=' (part :: parts))))
  | _ => .long (String.ofList cs) none

def Word.ofString (word : String) : Word :=
  match word.toList with
  | ['-', '-'] => .separator
  | '-' :: '-' :: rest => .ofAssignment rest
  | '-' :: letter :: rest => .short (letter :: rest)
  | _ => .plain word

/-! ## Arguments -/

/-- What is read of the words of a command: the arguments that are settled, and the parameter that
is not, with its value if that was read. -/
structure Arguments where
  settled : List Argument
  pending : Option (Parameter × Option String)
  deriving DecidableEq, Repr

namespace Arguments

def empty : Arguments := ⟨[], none⟩

def has (a : Arguments) (p : Parameter) : Bool := a.settled.any fun x => x.parameter = p

/-- The parameter whose value is the next plain word. -/
def waiting? (a : Arguments) : Option Parameter :=
  match a.pending with
  | some (p, none) => some p
  | _ => none

/-- Adds an argument, which must not be there yet. -/
def add (a : Arguments) (p : Parameter) (value : Option String) : Except UsageFault Arguments :=
  match p.form, value with
  | .answer fault, _ => .error fault
  | .valued _, none => .error (.unsuitableValue p.name "")
  | .switch argument, _ =>
    if a.has p then .error (.repeated p.name) else .ok { a with settled := a.settled ++ [argument] }
  | .valued read, some value =>
    if a.has p then .error (.repeated p.name)
    else
      match read value with
      | .error fault => .error fault
      | .ok argument => .ok { a with settled := a.settled ++ [argument] }

/-- Adds what is pending. -/
def settle (a : Arguments) : Except UsageFault Arguments :=
  match a.pending with
  | none => .ok a
  | some (p, value) => { a with pending := none }.add p value

/-- Settles what is pending, and begins a parameter whose value may follow. -/
def await (a : Arguments) (p : Parameter) (value : Option String) :
    Except UsageFault Arguments := do
  let a ← a.settle
  pure { a with pending := some (p, value) }

/-! ## Options -/

/-- Takes a word with two dashes. -/
def takeLong (a : Arguments) (known : List Parameter) (name : String) (value : Option String) :
    Except UsageFault Arguments :=
  match known.find? fun p => p.name = name with
  | none => .error (.unknownArgument ("--" ++ name))
  | some p =>
    match p.isValued, value with
    | true, none => a.await p none
    | false, some value => .error (.unneededValue p.name value)
    | _, _ => do (← a.settle).add p value

/-- Takes the letters of a word with one dash. What follows the letter of an option is its value,
with an equals sign before it or without. -/
def takeShort (known : List Parameter) : Arguments → List Char → Except UsageFault Arguments
  | a, [] => .ok a
  | a, letter :: rest =>
    match known.find? fun p => p.letter? = some letter with
    | none => .error (.unknownArgument (String.ofList ['-', letter]))
    | some p =>
      if p.isValued then
        match rest with
        | [] => a.await p none
        | '=' :: value => do (← a.settle).add p (some (String.ofList value))
        | value => do (← a.settle).add p (some (String.ofList value))
      else do takeShort known (← (← a.settle).add p none) rest

end Arguments

/-! ## Commands -/

/-- The commands; the first one stands for the program itself. -/
inductive CommandName where
  | program
  | lint
  | rules
  | completions
  | help
  deriving DecidableEq, Repr

namespace CommandName

def name : CommandName → String
  | .program => "layerlint"
  | .lint => "lint"
  | .rules => "rules"
  | .completions => "completions"
  | .help => "help"

/-- The commands that a word may choose after a command. -/
def children : CommandName → List CommandName
  | .program => [.lint, .rules, .completions, .help]
  | .lint | .rules | .completions | .help => []

def child? (c : CommandName) (word : String) : Option CommandName :=
  c.children.find? fun child => child.name = word

/-- The switches and options that every command knows. -/
def common : List Parameter := [.root, .noColour, .debug, .help, .version]

/-- The switches and options that a command knows. -/
def options : CommandName → List Parameter
  | .lint =>
    [.filter, .onlyErrors, .maxMessages, .noHints, .noRuleNames, .format, .strict, .settings]
      ++ common
  | .program | .rules | .completions | .help => common

/-- The parameters that plain words are values of, in their order. -/
def places : CommandName → List Parameter
  | .completions => [.shell]
  | .program | .lint | .rules | .help => []

/-- What help about the command at the end of words is, or the first word that is no command. -/
def helpFor : CommandName → List String → UsageFault
  | _, [] => .helpAsked
  | c, word :: rest =>
    match c.child? word with
    | some child => helpFor child rest
    | none => .unknownCommand word

end CommandName

/-! ## Reading -/

/-- The fault of a plain word that no parameter takes. -/
def strayWord (c : CommandName) (trailing : Bool) (word : String) : UsageFault :=
  if c.children.isEmpty then .unknownArgument word
  else if trailing ∧ (c.child? word).isSome then .unknownArgument word
  else .unknownCommand word

/-- Reads the words of a command up to their end, or to a word that chooses another command; then
returns that command and the words after it. After two dashes every word is plain. -/
def readWords (c : CommandName) : Bool → List Parameter → Arguments → List String →
    Except UsageFault (Arguments × Option (CommandName × List String))
  | _, _, a, [] => .ok (a, none)
  | trailing, places, a, word :: rest =>
    let takePlain : Except UsageFault (Arguments × List Parameter) :=
      match places with
      | [] => .error (strayWord c trailing word)
      | p :: more => do pure (← a.await p (some word), more)
    if trailing then do
      let (a, places) ← takePlain
      readWords c true places a rest
    else
      match a.waiting?, c.child? word with
      | none, some .help => .error (c.helpFor rest)
      | none, some child => .ok (a, some (child, rest))
      | waiting, _ =>
        match Word.ofString word, waiting with
        | .separator, _ => readWords c true places a rest
        | .long name value, _ => do
          readWords c false places (← a.takeLong c.options name value) rest
        | .short letters, _ => do
          readWords c false places (← Arguments.takeShort c.options a letters) rest
        | .plain text, some p =>
          readWords c false places { a with pending := some (p, some text) } rest
        | .plain _, none => do
          let (a, places) ← takePlain
          readWords c false places a rest

/-- The arguments of a command whose words are read: none may be left waiting, and no place may be
left without a value. -/
def Arguments.finish (a : Arguments) (c : CommandName) : Except UsageFault (List Argument) := do
  let a ← a.settle
  match c.places.find? fun p => !a.has p with
  | some p => .error (.missing p.name)
  | none => pure a.settled

/-- The command that words choose, and its arguments. Of two arguments for one parameter, the later
one counts; arguments before the command come first. -/
def readCommand (words : List String) : Except UsageFault (CommandName × List Argument) := do
  let (a, chosen) ← readWords .program false [] .empty words
  match chosen with
  | none => pure (.program, ← a.finish .program)
  | some (c, rest) =>
    let (inner, _) ← readWords c false c.places .empty rest
    let innerArguments ← inner.finish c
    let arguments ← a.finish .program
    pure (c, arguments ++ innerArguments)

end LayerLint.CommandLine
