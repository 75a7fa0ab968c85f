import MapLint.Order
import MapLint.Project.Glob

/-!
# The files to look at

A scan starts at some roots and collects every file below them that has the extension of a script
and is not ignored. A directory that is ignored is not entered, except that a root always is. Links
are not followed, except at a root.

## Architecture

- `IgnoreRules` says what is left out;
- `roots` turns the includes of a configuration into paths;
- `filesBelow` walks a tree, `scanRoot` a root;
- `scan` joins them; what could not be used is told in `ScanNotice`s.
-/

namespace MapLint

/-- The extensions of scripts. -/
def scriptExtensions : List String := ["js", "jsx", "mjs", "cjs", "ts", "tsx", "mts", "cts"]

/-- A path has the extension of a script. -/
def isScript (path : Path) : Bool := path.extension?.any scriptExtensions.contains

/-- The patterns of the files of tests. -/
def testPatterns : List String := ["**/*.test.*", "**/*.spec.*", "**/__tests__/**"]

/-- Something that a scan could not use. -/
inductive ScanNotice where
  | badIgnore (pattern : String) (error : GlobError)
  | badInclude (pattern : String) (error : GlobError)
  | missingInclude (path : Path)
  | inaccessible (path : Path) (error : AccessError)
deriving DecidableEq, Inhabited

/-- The wording of a notice. -/
def ScanNotice.message : ScanNotice → String
  | .badIgnore pattern error => "Invalid ignore pattern '" ++ pattern ++ "': " ++ error.message
  | .badInclude pattern error => "Invalid glob pattern '" ++ pattern ++ "': " ++ error.message
  | .missingInclude path => "Include path does not exist: " ++ path
  | .inaccessible path error =>
    "Cannot access path: IO error for operation on " ++ path ++ ": " ++ error.message

/-! ## Ignoring -/

/-- What is left out: what stands at or below a path, and what matches a pattern. -/
structure IgnoreRules where
  paths : List Path
  patterns : List Glob
deriving DecidableEq, Inhabited

/-- A path is left out. -/
def IgnoreRules.ignores (rules : IgnoreRules) (path : Path) : Bool :=
  rules.paths.any path.startsWith || rules.patterns.any (·.isMatch path)

/-- Reads patterns; those that cannot be read are given back with their errors. -/
def readPatterns : List String → List Glob × List (String × GlobError)
  | [] => ([], [])
  | text :: texts =>
    let (globs, errors) := readPatterns texts
    match Glob.parse text with
    | .ok glob => (glob :: globs, errors)
    | .error e => (globs, (text, e) :: errors)

/-- The rules for the ignored paths and patterns of a configuration, and the patterns that cannot be
read. A plain path is seen from the base directory. -/
def ignoreRules (base : Path) (ignores : List String) (ignoreTestFiles : Bool) :
    IgnoreRules × List ScanNotice :=
  let (globs, errors) := readPatterns (ignores.filter Glob.isPattern)
  let plain := (ignores.filter fun p => !Glob.isPattern p).map base.join
  let tests := if ignoreTestFiles then (readPatterns testPatterns).1 else []
  (⟨plain, globs ++ tests⟩, errors.map fun e => .badIgnore e.1 e.2)

/-! ## Roots -/

/-- The roots that one include stands for. -/
def includeRoots (top : FileTree) (base : Path) (text : String) : List Path × List ScanNotice :=
  if Glob.isPattern text then
    match Glob.expand top (base.join text) with
    | .ok paths => (paths, [])
    | .error e => ([], [.badInclude text e])
  else
    let path := base.join text
    if top.leadsSomewhere path then ([path], []) else ([], [.missingInclude path])

/-- Where a scan starts: at the base directory, or at what the includes stand for. -/
def roots (top : FileTree) (base : Path) (includes : List String) : List Path × List ScanNotice :=
  if includes.isEmpty then ([base], [])
  else
    let found := includes.map (includeRoots top base)
    (found.flatMap Prod.fst, found.flatMap Prod.snd)

/-! ## Walking -/

mutual

/-- The files at and below a tree that is reached by a path. -/
def filesBelow (rules : IgnoreRules) (path : Path) : FileTree → List Path
  | .file _ => [path]
  | .dir entries => filesOfEntries rules path entries
  | .link _ => []

/-- The files at and below those entries of a directory that are not ignored. -/
def filesOfEntries (rules : IgnoreRules) (path : Path) : List Entry → List Path
  | [] => []
  | .mk name tree :: rest =>
    (if rules.ignores (path.join name) then [] else filesBelow rules (path.join name) tree) ++
      filesOfEntries rules path rest

end

/-- The files at and below a root. A root that is a link to a directory is entered. -/
def scanRoot (top : FileTree) (rules : IgnoreRules) (root : Path) :
    Except AccessError (List Path) :=
  match top.locateEntry root with
  | .error e => .error e
  | .ok (.link _) =>
    match top.locate root with
    | .error e => .error e
    | .ok (_, .dir entries) => .ok (filesOfEntries rules root entries)
    | .ok _ => .ok []
  | .ok tree => .ok (filesBelow rules root tree)

/-- What a scan found. -/
structure ScanResult where
  /-- The files in the order of their spelling, each once. -/
  files : List Path
  /-- The number of roots that could not be entered. -/
  skipped : Nat
  notices : List ScanNotice
deriving DecidableEq, Inhabited

/-- Paths in the order of their spelling, each once. -/
def sortedPaths (paths : List Path) : List Path :=
  dropRepeats (sortBy (fun a b => !decide (b < a)) paths)

/-- The files to look at below a base directory. -/
def scan (top : FileTree) (base : Path) (includes ignores : List String)
    (ignoreTestFiles : Bool) : ScanResult :=
  let (rules, badIgnores) := ignoreRules base ignores ignoreTestFiles
  let (roots, badIncludes) := roots top base includes
  let found := roots.map fun root => (root, scanRoot top rules root)
  let files := found.flatMap fun f => f.2.toOption.getD []
  let lost := found.filterMap fun f =>
    match f.2 with
    | .error e => some (ScanNotice.inaccessible f.1 e)
    | .ok _ => none
  { files := sortedPaths (files.filter fun path => isScript path && !rules.ignores path)
    skipped := lost.length
    notices := badIgnores ++ badIncludes ++ lost }

end MapLint
