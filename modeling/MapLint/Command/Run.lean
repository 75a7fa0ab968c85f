import MapLint.Command.Usage
import MapLint.Report.Render

/-!
# Running a command

A run takes a project and a line of arguments to what is printed, the exit status and the texts that
are written to files. Nothing else happens: a run reads the project as it is at the start, and what
it writes is a list of files with their new texts.

## Architecture

- `Outcome` is what a run comes to;
- `checkOutcome`, `fixOutcome` and `initOutcome` are the commands;
- `run` reads the arguments and runs the command.

Scripts are read by the parser of this library unless another reader is given.
-/

namespace MapLint.Command

open MapLint.Lint MapLint.Report MapLint.Script

/-- What surrounds a run. -/
structure Environment where
  /-- Styles are shown. -/
  styled : Bool := false
  /-- The value of the variable for the strictness. -/
  strictness : Option String := none
deriving DecidableEq, Inhabited

/-- A variable counts as set unless its value is a zero. -/
def isSet (value : Option String) : Bool :=
  match value with
  | some text => text != "0"
  | none => false

/-- Styles are shown if they are forced, and else on a terminal where nothing forbids them. -/
def showsStyles (forced forbidden allowed : Option String) (terminal : Bool) : Bool :=
  isSet forced || (forbidden.isNone && terminal && (allowed.isNone || isSet allowed))

/-- What a run comes to. -/
structure Outcome where
  status : ExitStatus
  /-- What is printed. -/
  output : String := ""
  /-- What is printed beside it. -/
  messages : String := ""
  /-- The files that are written. -/
  writes : List (Path × List Char) := []
deriving DecidableEq, Inhabited

/-- A run that could not go on. -/
def Outcome.error (message : String) : Outcome :=
  { status := .error, messages := line ("Error: " ++ message) }

/-! ## What a survey says -/

/-- The messages about the survey of a project, before its files are read. -/
def surveyMessages (styled verbose : Bool) (s : Survey) : String :=
  (if verbose && s.unconfigured then
    line (bold.paint styled "note:" ++ " No " ++ configFileName ++
      " found, using default configuration")
  else "") ++
  (if verbose then "".intercalate (s.notices.map fun n => renderWarning styled n.message) else "") ++
  (if 0 < s.skipped then
    renderWarning styled (toString s.skipped ++ " path(s) skipped due to access errors" ++
      (if verbose then "" else " (use -v for details)"))
  else "")

/-- The messages about files that could not be read or parsed. -/
def failureMessages (styled verbose : Bool) (s : Survey) : String :=
  if verbose then
    "".intercalate (s.failures.map fun f => renderWarning styled (f.path ++ " - " ++ f.message))
  else ""

/-- The target of a command's options. -/
def Options.target (o : Options) : Target := ⟨o.sourceRoot, o.strictness⟩

/-! ## Checking -/

/-- The entries of a report on a project. -/
def surveyEntries (s : Survey) : List Report.Entry :=
  s.issues.map .issue ++ s.failures.map .failure

/-- Reports the issues of a project. -/
def checkOutcome (top : FileTree) (styled : Bool) (options : Options)
    (read : ScriptReader := parseChars) : Outcome :=
  match survey top options.target read with
  | .error e => .error e.message
  | .ok s =>
    let entries := surveyEntries s
    { status := .ofFindings s.failures.length entries.length
      output :=
        if entries.isEmpty then renderSuccess styled s.files.length else render styled entries
      messages :=
        surveyMessages styled options.verbose s ++ failureMessages styled options.verbose s ++
          renderParseWarning styled options.verbose s.failures.length }

/-! ## Fixing -/

/-- The lines of a text; a carriage return before a line feed belongs to the line's end. -/
def textLines (text : List Char) : List (List Char) :=
  let parts := splitFeeds text
  let closed := parts.dropLast.map dropReturn
  match parts.getLast? with
  | some last => if last.isEmpty then closed else closed ++ [last]
  | none => closed
where
  /-- Splits at every line feed. -/
  splitFeeds : List Char → List (List Char)
    | [] => [[]]
    | c :: cs =>
      if c == '\n' then [] :: splitFeeds cs
      else
        match splitFeeds cs with
        | part :: parts => (c :: part) :: parts
        | [] => [[c]]
  /-- Drops a carriage return at the end. -/
  dropReturn (part : List Char) : List Char :=
    if part.getLast? == some '\r' then part.dropLast else part

/-- What a fix would do about an issue: the lines of the call and of its replacement. -/
def renderPreview (styled : Bool) (issue : Issue) : String :=
  let marked (mark : String) (c : Colour) (text : List Char) :=
    "".intercalate ((textLines text).map fun l =>
      line ("   " ++ (colour c).paint styled mark ++ " " ++ (colour c).paint styled (String.ofList l)))
  line ("  " ++ (colour .blue).paint styled "-->" ++ " " ++ issue.path ++ ":" ++
    toString issue.line ++ ":" ++ toString issue.column ++ "  " ++
    (dimmedColour .cyan).paint styled ("[" ++ Rule.nativeMap.name ++ "]")) ++
  marked "-" .red issue.call ++ marked "+" .green issue.edit.replacement ++ line ""

/-- What a fix would do. -/
def renderPreviews (styled : Bool) (issues : List Issue) (fileCount : Nat) : String :=
  let guarded := issues.countP (·.action = .guarded)
  "".intercalate (issues.map (renderPreview styled)) ++
  (if 0 < guarded then
    line (bold.paint styled "note:" ++ " " ++ toString guarded ++ " " ++
      plural guarded "rewrite" "rewrites" ++
      " keep \x60_.map\x60 as a fallback (argument may not be an array).")
  else "") ++
  line ((boldColour .yellow).paint styled "Would rewrite" ++ " " ++ toString issues.length ++ " " ++
    plural issues.length "call" "calls" ++ " in " ++ toString fileCount ++ " " ++
    plural fileCount "file" "files" ++ ".") ++
  line ("Run with " ++ (colour .cyan).paint styled "--apply" ++ " to rewrite these calls.")

/-- A file that was repaired. -/
structure RepairedFile where
  path : Path
  repaired : Repaired ParseFailure

/-- Repairs the files that have issues. -/
def repairs (s : Survey) (read : ScriptReader := parseChars) : List RepairedFile :=
  s.issuePaths.filterMap fun path =>
    match s.sources.lookup path with
    | none => none
    | some source =>
      match repairSourceWith read path s.config.strictness
          (restoreMark source.marked source.code) with
      | .ok repaired => some ⟨path, repaired⟩
      | .error _ => none

/-- The warning about a file whose last pass was taken back. -/
def revertWarning (styled : Bool) (f : RepairedFile) : String :=
  match f.repaired.reverted with
  | none => ""
  | some failure =>
    renderWarning styled (f.path ++ " - stopped after " ++ toString f.repaired.passes ++ " " ++
      plural f.repaired.passes "pass" "passes" ++ ": rewritten code did not parse (" ++
      failure.message ++ ")")

/-- What a fix has done. -/
def renderRepairs (styled : Bool) (files : List RepairedFile) : String :=
  let changed := files.filter (·.repaired.changed)
  let applied := (changed.map (·.repaired.applied)).foldr (· + ·) 0
  line ((colour .green).paint styled successMark ++ " " ++
    (boldColour .green).paint styled "Rewrote" ++ " " ++ toString applied ++ " " ++
    plural applied "call" "calls" ++ " in " ++ toString changed.length ++ " " ++
    plural changed.length "file" "files" ++ ".")

/-- Replaces the calls of a project, or shows what would be replaced. -/
def fixOutcome (top : FileTree) (styled : Bool) (options : Options)
    (read : ScriptReader := parseChars) : Outcome :=
  match survey top options.target read with
  | .error e => .error e.message
  | .ok s =>
    let issues := s.issues
    let before :=
      surveyMessages styled options.verbose s ++ failureMessages styled options.verbose s
    let after := renderParseWarning styled options.verbose s.failures.length
    if issues.isEmpty then
      { status := .ofFindings s.failures.length 0
        output := renderSuccess styled s.files.length
        messages := before ++ after }
    else if options.apply then
      let files := repairs s read
      { status := .ofFindings s.failures.length 0
        output := renderRepairs styled files
        messages := before ++ "".intercalate (files.map (revertWarning styled)) ++ after
        writes :=
          (files.filter (·.repaired.changed)).map fun f => (f.path, f.repaired.text) }
    else
      { status := .ofFindings s.failures.length issues.length
        output := renderPreviews styled issues s.issuePaths.length
        messages := before ++ after }

/-! ## Initialising -/

/-- Writes the default configuration unless there is one. -/
def initOutcome (top : FileTree) (styled : Bool) : Outcome :=
  let path := Path.join "." configFileName
  if top.leadsSomewhere path then
    { status := .failure, messages := line ("Error: " ++ configFileName ++ " already exists") }
  else
    { status := .success
      output := line ((colour .green).paint styled successMark ++ " " ++
        (colour .green).paint styled ("Created " ++ configFileName))
      writes := [(path, Config.default.encode.toList)] }

/-! ## Any command -/

/-- Follows a request. -/
def follow (env : Environment) (top : FileTree) (request : Request)
    (read : ScriptReader := parseChars) : Outcome :=
  match request with
  | .check options => checkOutcome top env.styled options read
  | .fix options => fixOutcome top env.styled options read
  | .init => initOutcome top env.styled
  | .nothing => { status := .success, output := helpText env.styled env.strictness none }
  | .help level => { status := .success, output := helpText env.styled env.strictness level }
  | .helpOnHelp => { status := .success, output := renderPieces env.styled helpOnHelpPieces }
  | .version => { status := .success, output := line (programName ++ " " ++ programVersion) }

/-- Runs a line of arguments on a project. -/
def run (env : Environment) (top : FileTree) (arguments : List String)
    (read : ScriptReader := parseChars) : Outcome :=
  match readArguments env.strictness arguments with
  | .ok request => follow env top request read
  | .error refusal => { status := .error, messages := refusalText env.styled refusal }

/-- The project after a run: each file that is written is replaced, or made. -/
def Outcome.applyTo (outcome : Outcome) (top : FileTree) : FileTree :=
  outcome.writes.foldl (fun top w => top.writeText w.1 w.2) top

end MapLint.Command
