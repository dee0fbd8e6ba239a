-- The program: takes the words of the command line and the files on the disk, and prints what a
-- run says.
import LayerLint.CommandLine.Help
import LayerLint.CommandLine.Invocation
import LayerLint.FileStore.Snapshot

namespace LayerLint.Program

/-- Looks at a path and at all below it, and adds what is there; says also whether it is a
directory. -/
partial def look (s : Snapshot) (path : String) : IO (Snapshot × Bool) := do
  try
    let place ← IO.FS.realPath path
    if ← place.isDir then
      let mut s := s
      let mut entries : List DirectoryEntry := []
      for entry in ← place.readDir do
        let (next, isDirectory) ← look s (RootedStore.join path entry.fileName)
        s := next
        entries := (DirectoryEntry.of? entry.fileName isDirectory).toList ++ entries
      return (s.addDirectory path entries, true)
    else return (s.addFile path (← IO.FS.readBinFile path).toList, false)
  catch _ => return (s, false)

/-- The parts of a repository that a run looks at. -/
def parts : List String := ["default", "include", "installations", Settings.fileName]

/-- All files that a command may ask for. -/
def files (i : CommandLine.Invocation) : IO Snapshot := do
  match i.command with
  | .lint options =>
    let mut s := Snapshot.empty
    for path in parts.map (RootedStore.join i.root) ++ options.settingsPath.toList do
      s := (← look s path).1
    return s
  | .rules | .completions _ => return Snapshot.empty

/-- Prints a line; what is wrong goes where errors go. -/
def printLine (theme : Theme) : Tone × String → IO Unit
  | (.message, text) => IO.println text
  | (.success, text) => IO.println (theme.showSuccess text)
  | (.warning, text) => IO.eprintln (theme.showWarning text)
  | (.error, text) => IO.eprintln (theme.showError text)

/-- Whether colours are wanted and can be seen. -/
def showsColour (i : CommandLine.Invocation) : IO Bool := do
  if i.colourless || (← IO.getEnv "NO_COLOR").isSome then return false
  (← IO.getStdout).isTty

/-- Runs a command and prints what it says. -/
def perform (i : CommandLine.Invocation) : IO UInt32 := do
  let colour ← showsColour i
  let theme := Theme.ofColour colour
  match i.run (← files i) colour with
  | .ok (transcript, code) =>
    transcript.lines.forM (printLine theme)
    if let .completions shell := i.command then IO.println (CommandLine.completionScript shell)
    return code.toUInt32
  | .error e =>
    printLine theme (.error, "Error: " ++ e.message)
    return 2

end LayerLint.Program

open LayerLint in
def main (words : List String) : IO UInt32 := do
  match CommandLine.Invocation.ofWords words with
  | .ok i => Program.perform i
  | .error .helpAsked =>
    IO.print CommandLine.helpText
    return 0
  | .error .versionAsked =>
    IO.println CommandLine.versionText
    return 0
  | .error fault =>
    IO.eprintln ("error: " ++ fault.message)
    return 2
