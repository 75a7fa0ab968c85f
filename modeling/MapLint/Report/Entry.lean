import MapLint.Project.Survey

/-!
# The entries of a report

An entry is an issue of a file or a file that could not be looked at. Entries are ordered by path,
position, rule and message, so that a report does not depend on the order in which they were found.
-/

namespace MapLint.Report

open MapLint.Lint (Issue FixAction)

/-- How bad an entry is. -/
inductive Severity where
  | error
  | warning
deriving DecidableEq, Inhabited

/-- The word of a severity. -/
def Severity.word : Severity → String
  | .error => "error"
  | .warning => "warning"

/-- What an entry is about. -/
inductive Rule where
  | nativeMap
  | parseError
deriving DecidableEq, Inhabited

namespace Rule

/-- The name of a rule. -/
def name : Rule → String
  | .nativeMap => "map"
  | .parseError => "parse-error"

/-- The place of a rule in the order of rules. -/
def rank : Rule → Nat
  | .nativeMap => 0
  | .parseError => 1

end Rule

/-- An entry of a report. -/
inductive Entry where
  | issue (issue : Issue)
  | failure (failure : FileFailure)
deriving DecidableEq, Inhabited

namespace Entry

/-- An issue is a warning and a failure an error. -/
def severity : Entry → Severity
  | .issue _ => .warning
  | .failure _ => .error

/-- The rule of an entry. -/
def rule : Entry → Rule
  | .issue _ => .nativeMap
  | .failure _ => .parseError

/-- The file of an entry. -/
def path : Entry → Path
  | .issue i => i.path
  | .failure f => f.path

/-- What an entry says. -/
def message : Entry → String
  | .issue i => i.message
  | .failure f => f.message

/-- The line and column of an entry; a failure comes before everything else in its file. -/
def position : Entry → Nat × Nat
  | .issue i => (i.line, i.column)
  | .failure _ => (0, 0)

/-- Advice for an entry. -/
def hint : Entry → Option String
  | .issue i =>
    if i.action = .guarded then
      some "the argument may not be an array; the fix keeps \x60_.map\x60 as a fallback"
    else none
  | .failure _ => none

/-- What would be done about an entry. -/
def details : Entry → Option String
  | .issue i => some ("replace with \x60" ++ String.ofList i.edit.replacement ++ "\x60")
  | .failure _ => none

/-- Entries are ordered by path, line, column, rule and message. -/
def compare (a b : Entry) : Ordering :=
  (Ord.compare a.path b.path).then <|
  (Ord.compare a.position.1 b.position.1).then <|
  (Ord.compare a.position.2 b.position.2).then <|
  (Ord.compare a.rule.rank b.rule.rank).then <|
  Ord.compare a.message b.message

/-- The entries in order. -/
def inOrder (entries : List Entry) : List Entry :=
  sortBy (fun a b => (a.compare b).isLE) entries

end Entry

end MapLint.Report
