import MapLint.Lint.Repair
import MapLint.Project.Config
import MapLint.Project.Readings
import MapLint.Project.Scan

/-!
# A project as the commands see it

A `Survey` is a project after its configuration was loaded and its files were read: every file that
the scan found is either a source or a failure. The issues of a survey are those of its sources, in
the order of path, line and column.
-/

namespace MapLint

open MapLint.Lint MapLint.Script

/-- What a command was told about where to look and how. -/
structure Target where
  /-- The directory to look at; the working directory when none is named. -/
  root : Option Path := none
  /-- A strictness that counts before the configured one. -/
  strictness : Option Strictness := none
deriving DecidableEq, Inhabited

/-- The directory to look at. -/
def Target.base (target : Target) : Path := target.root.getD "."

/-- A surveyed project. -/
structure Survey where
  config : Config
  /-- No configuration was found. -/
  unconfigured : Bool
  files : List Path
  /-- The files that were parsed, in the order of their paths. -/
  sources : List (Path × Source)
  /-- The files that were not, in the order of their paths. -/
  failures : List FileFailure
  /-- The number of paths that could not be entered. -/
  skipped : Nat
  notices : List ScanNotice

/-- Loads the configuration of a project, scans it and reads its files. -/
def survey (top : FileTree) (target : Target) (read : ScriptReader := parseChars) :
    Except ConfigError Survey :=
  match loadConfig top target.base with
  | .error e => .error e
  | .ok loaded =>
    let config :=
      { loaded.config with strictness := target.strictness.getD loaded.config.strictness }
    let found := scan top target.base config.includes config.ignores config.ignoreTestFiles
    let arrived := readingsOf top found.files read
    let (sources, known) := FileReadings.askSources arrived {}
    let (failures, _) := known.askFailures arrived
    .ok
      { config
        unconfigured := loaded.path.isNone
        files := found.files
        sources
        failures
        skipped := found.skipped
        notices := found.notices }

/-- Issues are ordered by path, line and column. -/
def Lint.Issue.compareLocation (a b : Issue) : Ordering :=
  (compare a.path b.path).then ((compare a.line b.line).then (compare a.column b.column))

namespace Survey

/-- The issues of all sources, in order. -/
def issues (s : Survey) : List Issue :=
  sortBy (fun a b => (a.compareLocation b).isLE)
    (s.sources.flatMap fun source => source.2.issues source.1 s.config.strictness)

/-- The paths of the files that have issues, in order. -/
def issuePaths (s : Survey) : List Path := sortedPaths (s.issues.map Issue.path)

end Survey

end MapLint
