import MapLint.Source
import MapLint.Text.Lines
import MapLint.Lint.Collect
import MapLint.Lint.Finding
import MapLint.Lint.Directive

/-!
# The findings of a file

The findings of a script less those on lines where the lint is switched off, and the `Issue`s that
are reported for them.
-/

namespace MapLint.Lint

/-- A finding with what a report tells of it. -/
structure Issue where
  path : Path
  line : Nat
  column : Nat
  /-- The line of the file on which the issue stands. -/
  sourceLine : List Char
  message : String
  action : FixAction
  edit : Edit
  /-- The call as it is written. -/
  call : List Char
deriving DecidableEq, Inhabited

end MapLint.Lint

namespace MapLint.Source

open MapLint.Lint

/-- All findings of a file. -/
def allFindings (source : Source) (strictness : Strictness) : List Finding :=
  Lint.findings strictness source.code (programEvents source.program)

/-- The lines of a file on which the lint is switched off. -/
def disabledLines (source : Source) : DisabledLines :=
  DisabledLines.ofComments (lineAt source.body) source.comments

/-- The findings on lines where the lint is not switched off. -/
def findings (source : Source) (strictness : Strictness) : List Finding :=
  let disabled := source.disabledLines
  (source.allFindings strictness).filter fun finding =>
    !disabled.ignores (lineAt source.body finding.anchor.start)

/-- The issue reported for a finding. -/
def issueOf (source : Source) (path : Path) (finding : Finding) : Issue :=
  let place := placeAt source.body finding.anchor.start
  { path
    line := place.line
    column := place.column
    sourceLine := place.shownLine
    message := findingMessage
    action := finding.classification.action
    edit := finding.edit
    call := (sliceChars? source.code finding.edit.span).getD [] }

/-- The issues of a file in the order of the text. -/
def issues (source : Source) (path : Path) (strictness : Strictness) : List Issue :=
  (source.findings strictness).map (source.issueOf path)

end MapLint.Source
