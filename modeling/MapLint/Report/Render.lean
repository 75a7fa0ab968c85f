import MapLint.Report.Entry
import MapLint.Report.Style

/-!
# The text of a report

Each entry is shown with its severity, message and location; an issue also with its line of source,
a caret below the method's name, the replacement and advice. A summary follows the entries.

## Architecture

- `renderEntry` writes one entry, its notes behind a margin as wide as the largest line number;
- `renderSummary` counts;
- `render` writes a whole report, `renderSuccess` and `renderParseWarning` the messages beside it.
-/

namespace MapLint.Report

open MapLint.Lint (Issue)

/-- Marks a run without problems. -/
def successMark : String := "\u2713"

/-- Marks a run with problems. -/
def failureMark : String := "\u2718"

/-- The colour of a severity. -/
def Severity.colour : Severity → Colour
  | .error => .red
  | .warning => .yellow

/-- A line behind the margin. -/
def marginLine (styled : Bool) (margin : Nat) (mark text : String) : String :=
  line (padLeft margin "" ++ " " ++ (colour .blue).paint styled mark ++ text)

/-- The number of columns in front of the caret: the width of the shown line up to the column. -/
def caretIndent (issue : Issue) : Nat := textColumns (issue.sourceLine.take (issue.column - 1))

/-- The line of source of an issue, with the caret below it. -/
def renderSource (styled : Bool) (margin : Nat) (severity : Severity) (issue : Issue) : String :=
  marginLine styled margin "|" "" ++
  line ((colour .blue).paint styled (padLeft margin (toString issue.line)) ++ " " ++
    (colour .blue).paint styled "|" ++ " " ++ String.ofList issue.sourceLine) ++
  marginLine styled margin "|"
    (" " ++ padLeft (caretIndent issue) "" ++ (colour severity.colour).paint styled "^")

/-- One entry. -/
def renderEntry (styled : Bool) (margin : Nat) (entry : Entry) : String :=
  let arrow := "  " ++ (colour .blue).paint styled "-->" ++ " " ++ entry.path
  line ((boldColour entry.severity.colour).paint styled entry.severity.word ++ ": \"" ++
    entry.message ++ "\"  " ++ (dimmedColour .cyan).paint styled entry.rule.name) ++
  (match entry with
    | .issue issue =>
      line (arrow ++ ":" ++ toString issue.line ++ ":" ++ toString issue.column) ++
        renderSource styled margin entry.severity issue
    | .failure _ => line arrow) ++
  (match entry.details with
    | some details =>
      marginLine styled margin "=" (" " ++ bold.paint styled "note:" ++ " " ++ details)
    | none => "") ++
  (match entry.hint with
    | some hint =>
      marginLine styled margin "=" (" " ++ (boldColour .cyan).paint styled "help:" ++ " " ++ hint)
    | none => "") ++
  line ""

/-- The width of the largest line number. -/
def marginOf (entries : List Entry) : Nat :=
  let lines := entries.filterMap fun
    | .issue issue => some issue.line
    | .failure _ => none
  match lines.max? with
  | some n => (toString n).length
  | none => 1

/-- The number of entries by severity. -/
def renderSummary (styled : Bool) (entries : List Entry) : String :=
  let errors := entries.countP (·.severity = .error)
  let warnings := entries.length - errors
  line ((colour .red).paint styled failureMark ++ " " ++ toString entries.length ++ " " ++
    plural entries.length "problem" "problems" ++ " (" ++ toString errors ++ " " ++
    (colour .red).paint styled (plural errors "error" "errors") ++ ", " ++ toString warnings ++ " " ++
    (colour .yellow).paint styled (plural warnings "warning" "warnings") ++ ")")

/-- A report of the given entries; nothing when there are none. -/
def render (styled : Bool) (entries : List Entry) : String :=
  if entries.isEmpty then ""
  else
    let ordered := Entry.inOrder entries
    "".intercalate (ordered.map (renderEntry styled (marginOf ordered))) ++
      renderSummary styled ordered

/-- The message when there is nothing to report. -/
def renderSuccess (styled : Bool) (fileCount : Nat) : String :=
  line ((colour .green).paint styled successMark ++ " " ++
    (colour .green).paint styled ("Checked " ++ toString fileCount ++ " source " ++
      plural fileCount "file" "files" ++ " - no issues found"))

/-- A warning. -/
def renderWarning (styled : Bool) (text : String) : String :=
  line ((boldColour .yellow).paint styled "warning:" ++ " " ++ text)

/-- The warning about files that could not be parsed, unless each of them was named already. -/
def renderParseWarning (styled verbose : Bool) (count : Nat) : String :=
  if 0 < count && !verbose then
    renderWarning styled (toString count ++ " file(s) could not be parsed (use " ++
      (colour .cyan).paint styled "-v" ++ " for details)")
  else ""

/-- How a run ends. -/
inductive ExitStatus where
  /-- Nothing is left to do. -/
  | success
  /-- Something was found. -/
  | failure
  /-- Something went wrong. -/
  | error
deriving DecidableEq, Inhabited

/-- The number of a status. -/
def ExitStatus.code : ExitStatus → Nat
  | .success => 0
  | .failure => 1
  | .error => 2

/-- The status of a run: a file that could not be parsed counts for more than work to do. -/
def ExitStatus.ofFindings (failures pending : Nat) : ExitStatus :=
  if 0 < failures then .error else if 0 < pending then .failure else .success

end MapLint.Report
