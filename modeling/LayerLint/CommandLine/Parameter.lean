-- What can be given on the command line: switches, options with a value, and the shell that
-- completions are for.
import LayerLint.Report.Format

namespace LayerLint

/-- Why arguments name no command that can be run. Asking for help or for the version is one of
the reasons. -/
inductive UsageFault where
  | helpAsked
  | versionAsked
  | unknownCommand (word : String)
  | unknownArgument (word : String)
  /-- A value is left out, or is none of those that are allowed. -/
  | unsuitableValue (parameter value : String)
  /-- A value is no number. -/
  | malformedValue (parameter value : String)
  | repeated (parameter : String)
  /-- A switch is given a value. -/
  | unneededValue (parameter value : String)
  | missing (parameter : String)
  deriving DecidableEq, Repr

def UsageFault.message : UsageFault → String
  | .helpAsked => "help was asked for"
  | .versionAsked => "the version was asked for"
  | .unknownCommand word => s!"there is no command '{word}'"
  | .unknownArgument word => s!"the argument '{word}' is not expected here"
  | .unsuitableValue parameter value => s!"'{value}' is no value for {parameter}"
  | .malformedValue parameter value => s!"'{value}' is no number for {parameter}"
  | .repeated parameter => s!"{parameter} is given more than once"
  | .unneededValue parameter value => s!"{parameter} takes no value, but '{value}' is given"
  | .missing parameter => s!"{parameter} is missing"

/-- The shells that completions can be asked for. -/
inductive Shell where
  | bash
  | elvish
  | fish
  | powershell
  | zsh
  deriving DecidableEq, Repr

def Shell.name : Shell → String
  | .bash => "bash"
  | .elvish => "elvish"
  | .fish => "fish"
  | .powershell => "powershell"
  | .zsh => "zsh"

def Shell.all : List Shell := [.bash, .elvish, .fish, .powershell, .zsh]

def Shell.ofName? (name : String) : Option Shell := Shell.all.find? fun shell => shell.name = name

theorem Shell.ofName?_name (shell : Shell) : Shell.ofName? shell.name = some shell := by
  cases shell <;> decide

namespace CommandLine

/-- The kinds of arguments. -/
inductive Parameter where
  | help
  | version
  | root
  | noColour
  | debug
  | filter
  | onlyErrors
  | maxMessages
  | noHints
  | noRuleNames
  | format
  | strict
  | settings
  | shell
  deriving DecidableEq, Repr

/-- An argument that was given, with its value. -/
inductive Argument where
  | root (path : String)
  | noColour
  | debug
  | filter (pattern : String)
  | onlyErrors
  | maxMessages (count : Nat)
  | noHints
  | noRuleNames
  | format (format : ReportFormat)
  | strict
  | settings (path : String)
  | shell (shell : Shell)
  deriving DecidableEq, Repr

def Argument.parameter : Argument → Parameter
  | .root _ => .root
  | .noColour => .noColour
  | .debug => .debug
  | .filter _ => .filter
  | .onlyErrors => .onlyErrors
  | .maxMessages _ => .maxMessages
  | .noHints => .noHints
  | .noRuleNames => .noRuleNames
  | .format _ => .format
  | .strict => .strict
  | .settings _ => .settings
  | .shell _ => .shell

namespace Parameter

/-- The name of a parameter; all but the shell are given by it, behind two dashes. -/
def name : Parameter → String
  | .help => "help"
  | .version => "version"
  | .root => "root"
  | .noColour => "no-color"
  | .debug => "debug"
  | .filter => "filter"
  | .onlyErrors => "only-errors"
  | .maxMessages => "max-messages"
  | .noHints => "no-descriptions"
  | .noRuleNames => "no-rule-names"
  | .format => "format"
  | .strict => "strict"
  | .settings => "settings"
  | .shell => "shell"

/-- The letter that stands for a parameter, behind one dash. -/
def letter? : Parameter → Option Char
  | .help => some 'h'
  | .version => some 'V'
  | .root => some 'r'
  | _ => none

/-! ## Values -/

/-- A decimal number below a limit of sixty-four bits; a plus may stand before it. -/
def count? (value : String) : Option Nat :=
  let digits :=
    match value.toList with
    | '+' :: rest => rest
    | cs => cs
  if digits.isEmpty || !digits.all Char.isDigit then none
  else
    let n := digits.foldl (fun n c => n * 10 + (c.toNat - '0'.toNat)) 0
    if n < Nat.pow 2 64 then some n else none

/-- A path may be anything but empty. -/
def path? (value : String) : Option String := if value.isEmpty then none else some value

/-- Whether a parameter has a value, and if so, how it is read. -/
inductive Form where
  | answer (fault : UsageFault)
  | switch (argument : Argument)
  | valued (read : String → Except UsageFault Argument)

def form (p : Parameter) : Form :=
  let chosen {α : Type} (f : α → Argument) (read : String → Option α) : Form :=
    .valued fun value =>
      match read value with
      | some a => .ok (f a)
      | none => .error (.unsuitableValue p.name value)
  match p with
  | .help => .answer .helpAsked
  | .version => .answer .versionAsked
  | .noColour => .switch .noColour
  | .debug => .switch .debug
  | .onlyErrors => .switch .onlyErrors
  | .noHints => .switch .noHints
  | .noRuleNames => .switch .noRuleNames
  | .strict => .switch .strict
  | .root => chosen .root path?
  | .settings => chosen .settings path?
  | .format => chosen .format ReportFormat.ofName?
  | .shell => chosen .shell Shell.ofName?
  | .filter => .valued fun value => .ok (.filter value)
  | .maxMessages =>
    .valued fun value =>
      match count? value with
      | some n => .ok (.maxMessages n)
      | none => .error (.malformedValue p.name value)

def isValued (p : Parameter) : Bool :=
  match p.form with
  | .valued _ => true
  | .answer _ | .switch _ => false

end Parameter

end CommandLine

end LayerLint
