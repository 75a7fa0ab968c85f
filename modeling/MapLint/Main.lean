import MapLint.Command.Run

/-!
# The command line

The working directory is read into a `FileTree`, the arguments are run on it, and the outcome is
carried out: what is printed is printed and what is written is written. All decisions are those of
`Command.run`.

## Architecture

- `readEntry` reads one entry of a directory, with everything below it;
- `readProject` reads the working directory;
- `carryOut` prints and writes what a run comes to.
-/

namespace MapLint

/-- Directories deeper than this below the working directory are not read. -/
def maxDepth : Nat := 128

/-- Reads an entry of a directory. The target of a link is how it is reached from the directory
`here`, a broken link has an empty target, and what is no file, directory or link is left out. -/
def readEntry (here : Path) : (depth : Nat) → IO.FS.DirEntry → IO (Option Entry)
  | 0, _ => return none
  | depth + 1, found => do
    let status ← found.path.symlinkMetadata
    match status.type with
    | .dir =>
      let below ← (← found.path.readDir).toList.filterMapM
        (readEntry (Path.join here found.fileName) depth)
      return some (.mk found.fileName (.dir below))
    | .file =>
      let raw ← IO.FS.readBinFile found.path
      return some (.mk found.fileName (.file (.ofBytes raw.toList)))
    | .symlink =>
      let target ←
        try
          let place ← IO.FS.realPath found.path
          pure (Path.between (Path.names here) (Path.names place.toString))
        catch _ => pure ""
      return some (.mk found.fileName (.link target))
    | .other => return none

/-- Reads the working directory. -/
def readProject : IO FileTree := do
  let place ← IO.currentDir
  let here ← IO.FS.realPath place
  let entries ← (← here.readDir).toList.filterMapM (readEntry here.toString maxDepth)
  return .dir entries

/-- What surrounds this run. -/
def readEnvironment : IO Command.Environment := do
  let terminal ← (← IO.getStdout).isTty
  let styled := Command.showsStyles (← IO.getEnv "CLICOLOR_FORCE") (← IO.getEnv "NO_COLOR")
    (← IO.getEnv "CLICOLOR") terminal
  return ⟨styled, ← IO.getEnv Command.strictnessVariable⟩

/-- Prints and writes what a run comes to. -/
def carryOut (outcome : Command.Outcome) : IO UInt32 := do
  for (path, text) in outcome.writes do
    IO.FS.writeFile path (String.ofList text)
  IO.eprint outcome.messages
  IO.print outcome.output
  return outcome.status.code.toUInt32

end MapLint

/-- Runs the command line in the working directory. -/
def main (arguments : List String) : IO UInt32 := do
  let environment ← MapLint.readEnvironment
  let top ← MapLint.readProject
  MapLint.carryOut (MapLint.Command.run environment top arguments)
