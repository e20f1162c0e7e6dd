import UtilityStyles.Cli.Run
import UtilityStyles.Report.Time
/-!
# The `tenox` program

Runs one command line on the files below the working directory: they are read into a file tree,
the line runs on it, and what the run wrote goes back to the disk. Standard output and standard
error get what the run printed, its log going to standard error first; a failed run ends with
`Error: <message>` and exit code 1.
-/

namespace UtilityStyles.Cli

/-- Reads the entries below a directory into a tree. -/
partial def readEntries (t : FileTree) (entries : Array IO.FS.DirEntry) : IO FileTree := do
  let mut t := t
  for e in entries do
    let p := e.path
    if ← p.isDir then
      t := t.put p.toString .directory
      t ← readEntries t (← p.readDir)
    else
      match ← (IO.FS.readFile p).toBaseIO with
      | .ok text => t := t.put p.toString (.file text)
      | .error _ => pure ()
  return t

/-- Writes what a run left in the tree to the disk. -/
def writeBack (before after : FileTree) : IO Unit := do
  for (p, e) in changedEntries before after do
    match e with
    | .directory => IO.FS.createDirAll p
    | .file text => IO.FS.writeFile p text

/-- The environment of the process. -/
def readEnvironment : IO (List (String × String)) := do
  match ← (IO.FS.readBinFile "/proc/self/environ").toBaseIO with
  | .ok bytes => return environmentBlock ((String.fromUTF8? bytes).getD "")
  | .error _ => return []

/-- The current time as JSON reports stamp it. -/
def readClock : IO String := do
  let stat ← (IO.FS.readFile "/proc/stat").toBaseIO
  let uptime ← (IO.FS.readFile "/proc/uptime").toBaseIO
  match stat, uptime with
  | .ok s, .ok u => return Report.utcStamp ((Report.clockOf s u).getD 0)
  | _, _ => return Report.utcStamp 0

end UtilityStyles.Cli

/-- Runs the command line the program was given. -/
def main (args : List String) : IO UInt32 := do
  let here ← IO.currentDir
  let cwd := here.toString
  let tree ← UtilityStyles.Cli.readEntries (UtilityStyles.FileTree.ofFiles cwd []) (← here.readDir)
  let inv : UtilityStyles.Cli.Invocation :=
    ⟨args, ← UtilityStyles.Cli.readEnvironment, cwd, ← UtilityStyles.Cli.readClock⟩
  let (_, after, outcome) := UtilityStyles.Cli.run UtilityStyles.Cli.CommandState.initial tree inv
  UtilityStyles.Cli.writeBack tree after
  IO.print outcome.stdout
  IO.eprint outcome.log
  IO.eprint outcome.stderr
  match outcome.error with
  | some e =>
    IO.eprintln ("Error: " ++ e)
    return 1
  | none => return 0
