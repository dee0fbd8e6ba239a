-- What the program says about itself: how it is called, and the words that a shell can offer.
import LayerLint.CommandLine.Arguments

namespace LayerLint.CommandLine

/-- The version of the program. -/
def versionText : String := CommandName.program.name ++ " 0.3.0"

def CommandName.description : CommandName → String
  | .program => "Cross-reference linter for layered configuration repositories"
  | .lint => "Lint the repository (the default)"
  | .rules => "List the lint rules"
  | .completions => "Print completions for a shell"
  | .help => "Print help"

def Parameter.description : Parameter → String
  | .help => "Print help"
  | .version => "Print the version"
  | .root => "The repository to lint"
  | .noColour => "Print without colours"
  | .debug => "Say more about what is done"
  | .filter => "Run only the rules whose ids match this pattern"
  | .onlyErrors => "Report errors only"
  | .maxMessages => "The number of messages to print, nought for all"
  | .noHints => "Print no hints"
  | .noRuleNames => "Print no ids of rules"
  | .format => "The format of the report: human or json"
  | .strict => "Fail on suggestions as on errors"
  | .settings => "The settings file"
  | .shell => "One of bash, elvish, fish, powershell and zsh"

/-- An option as it is given. -/
def Parameter.flag (p : Parameter) : String := "--" ++ p.name

/-- A line about a thing that can be given. -/
def helpLine (name description : String) : String := "  " ++ name ++ ": " ++ description ++ "\n"

/-- What may follow a command. -/
def CommandName.manual (c : CommandName) : String :=
  c.name ++ ": " ++ c.description ++ "\n"
    ++ String.join (c.children.map fun child => helpLine child.name child.description)
    ++ String.join (c.places.map fun p => helpLine p.name p.description)
    ++ String.join (c.options.map fun p => helpLine p.flag p.description)

/-- How the program is called. -/
def helpText : String :=
  "\n".intercalate ([.program, .lint, .completions].map CommandName.manual)

/-- The words that may follow the name of the program. -/
def offeredWords : List String :=
  CommandName.program.children.map CommandName.name ++ CommandName.lint.options.map Parameter.flag

/-- What makes a shell offer the words. -/
def completionScript (shell : Shell) : String :=
  let program := CommandName.program.name
  let quoted := offeredWords.map fun word => "'" ++ word ++ "'"
  let words := " ".intercalate offeredWords
  match shell with
  | .bash => "complete -W '" ++ words ++ "' " ++ program
  | .zsh => "#compdef " ++ program ++ "\ncompadd -- " ++ words
  | .fish => "complete -c " ++ program ++ " -f -a '" ++ words ++ "'"
  | .elvish =>
    "set edit:completion:arg-completer[" ++ program ++ "] = \x7b|@rest| put "
      ++ " ".intercalate quoted ++ " \x7d"
  | .powershell =>
    "Register-ArgumentCompleter -Native -CommandName " ++ program
      ++ " -ScriptBlock \x7b param($word) " ++ ", ".intercalate quoted
      ++ " | Where-Object \x7b $_ -like \"$word*\" \x7d \x7d"

end LayerLint.CommandLine
