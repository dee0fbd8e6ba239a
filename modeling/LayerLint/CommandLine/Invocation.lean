-- What the program is asked to do, and doing it.
import LayerLint.CommandLine.Arguments
import LayerLint.Lint.Listing
import LayerLint.Lint.Run

namespace LayerLint.CommandLine

/-- What the program can do. -/
inductive Command where
  | lint (options : LintOptions)
  | rules
  | completions (shell : Shell)
  deriving DecidableEq, Repr

/-- A command and what every command is told. -/
structure Invocation where
  /-- The path of the repository. -/
  root : String
  colourless : Bool
  debug : Bool
  command : Command
  deriving DecidableEq, Repr

namespace Invocation

/-- The directory that the program is started in. -/
def defaultRoot : String := "."

/-- Takes an argument into the options of a run. -/
def addOption (o : LintOptions) : Argument → LintOptions
  | .filter pattern => { o with filter := some pattern }
  | .onlyErrors => { o with onlyErrors := true }
  | .maxMessages count => { o with maxMessages := some count }
  | .noHints => { o with hints := false }
  | .noRuleNames => { o with ruleNames := false }
  | .format format => { o with format := format }
  | .strict => { o with strict := true }
  | .settings path => { o with settingsPath := some path }
  | .root _ | .noColour | .debug | .shell _ => o

/-- Takes an argument that every command knows. -/
def addCommon (i : Invocation) : Argument → Invocation
  | .root path => { i with root := path }
  | .noColour => { i with colourless := true }
  | .debug => { i with debug := true }
  | _ => i

/-- The shell that completions are asked for. -/
def shell? (arguments : List Argument) : Option Shell :=
  arguments.findSome? fun
    | .shell shell => some shell
    | _ => none

/-- The command of a name with its arguments. The program itself lints. -/
def commandOf (arguments : List Argument) : CommandName → Except UsageFault Command
  | .program | .lint => .ok (.lint (arguments.foldl addOption .default))
  | .rules => .ok .rules
  | .completions =>
    match shell? arguments with
    | some shell => .ok (.completions shell)
    | none => .error (.missing Parameter.shell.name)
  | .help => .error .helpAsked

/-- What the words of a command line ask for. -/
def ofWords (words : List String) : Except UsageFault Invocation :=
  match readCommand words with
  | .error fault => .error fault
  | .ok (name, arguments) =>
    match commandOf arguments name with
    | .error fault => .error fault
    | .ok command => .ok (arguments.foldl addCommon ⟨defaultRoot, false, false, command⟩)

/-- The rules as they come, at the default thresholds. -/
def builtinRules : RuleSet := RuleSet.ofSettings .default

/-- Does what is asked, with the files of a store: what is said, and the code to end with.
Completions say nothing about a repository. -/
def run {σ : Type} [FileStore σ] (i : Invocation) (store : σ) (colour : Bool) :
    Except LintError (Transcript × Nat) :=
  match i.command with
  | .lint options => Lint.run store i.root options colour
  | .rules => .ok (builtinRules.describe, 0)
  | .completions _ => .ok (.empty, 0)

end Invocation

end LayerLint.CommandLine
