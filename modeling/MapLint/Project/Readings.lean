import MapLint.Order
import MapLint.Source
import MapLint.Project.FileTree

/-!
# Reading the files of a project

The files that a scan found are read when somebody first asks for what is in them, several at a time,
so that what comes of them arrives in no particular order. Sources are put in their place in the order
of paths as they arrive, and failures are sorted when all have arrived.

## Architecture

- `loadSource` reads a file, and a `Reading` is what came of one;
- `gather` takes readings in the order in which they arrive;
- `FileReadings` keeps what was gathered, in two places that are filled once; `askSources` and
  `askFailures` are the two questions, and each of them has the files read if none was asked before.
-/

namespace MapLint

open MapLint.Script

/-- A file that could not be read or parsed. -/
structure FileFailure where
  path : Path
  message : String
deriving DecidableEq, Inhabited

/-- Reads and parses a file, by means of a reader of scripts. -/
def loadSource (top : FileTree) (path : Path) (read : ScriptReader := parseChars) :
    Except FileFailure Source :=
  match top.readText path with
  | .error e => .error ⟨path, "Failed to read file: " ++ e.message⟩
  | .ok text =>
    match parseSourceWith read path text with
    | .error e => .error ⟨path, e.message⟩
    | .ok source => .ok source

/-- A path and what came of the file there. -/
abbrev Reading : Type := Path × Except FileFailure Source

/-- What comes of these files. -/
def readingsOf (top : FileTree) (files : List Path) (read : ScriptReader := parseChars) :
    List Reading :=
  files.map fun path => (path, loadSource top path read)

/-! ## Gathering -/

/-- Puts a source in its place in the order of paths, or in the place of the one under its path. -/
def putSource (path : Path) (source : Source) : List (Path × Source) → List (Path × Source)
  | [] => [(path, source)]
  | (p, s) :: rest =>
    if path < p then (path, source) :: (p, s) :: rest
    else if path = p then (path, source) :: rest
    else (p, s) :: putSource path source rest

/-- What was gathered of some readings. -/
structure Gathered where
  sources : List (Path × Source) := []
  failures : List FileFailure := []

/-- One more reading arrives. -/
def Gathered.add (g : Gathered) : Reading → Gathered
  | (path, .ok source) => { g with sources := putSource path source g.sources }
  | (_, .error failure) => { g with failures := g.failures ++ [failure] }

/-- Failures in the order of their paths. -/
def sortedFailures (failures : List FileFailure) : List FileFailure :=
  sortBy (fun a b => !decide (b.path < a.path)) failures

/-- Gathers readings as they arrive. -/
def gather (arrived : List Reading) : Gathered :=
  let all := arrived.foldl Gathered.add {}
  { all with failures := sortedFailures all.failures }

/-! ## Asking -/

/-- What is known of the files so far. -/
structure FileReadings where
  sources : Option (List (Path × Source)) := none
  failures : Option (List FileFailure) := none

namespace FileReadings

/-- The sources. If they are not known yet, the files are read, and both places are filled with what
arrives, unless the one for failures already is. -/
def askSources (arrived : List Reading) (r : FileReadings) : List (Path × Source) × FileReadings :=
  match r.sources with
  | some sources => (sources, r)
  | none =>
    let g := gather arrived
    (g.sources, { sources := some g.sources, failures := r.failures <|> some g.failures })

/-- The failures, which are known once the sources are. -/
def askFailures (arrived : List Reading) (r : FileReadings) : List FileFailure × FileReadings :=
  let known := (r.askSources arrived).2
  match known.failures with
  | some failures => (failures, known)
  | none => ([], { known with failures := some [] })

end FileReadings

end MapLint
