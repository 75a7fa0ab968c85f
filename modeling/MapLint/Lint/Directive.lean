import MapLint.Script.Token
import MapLint.Text.Blank
import MapLint.Order

/-!
# Comments that switch the lint off

A comment whose first word is a directive switches the lint off for the line behind it or for a
range of lines; whatever stands behind the word is a remark. A range that is not closed runs to the
end of the file.

## Architecture

- `Directive.ofText?` reads the directive of a comment;
- `DisabledLines` is what the directives of a file come to, `ignores` the question asked of it;
- `readNote` takes in one directive and `DisabledLines.ofComments` all comments of a file in the
  order of the text.
-/

namespace MapLint.Lint

open MapLint.Script

/-- What a comment can ask for. -/
inductive Directive where
  /-- Switch the lint off from here on. -/
  | disable
  /-- Switch it on again. -/
  | enable
  /-- Switch it off for the next line only. -/
  | disableNextLine
deriving DecidableEq, Inhabited

namespace Directive

/-- The word of a directive. -/
def word : Directive → String
  | .disable => "native-map-disable"
  | .enable => "native-map-enable"
  | .disableNextLine => "native-map-disable-next-line"

/-- The text starts with the word, and the word ends there. -/
def startsWithWord : (word text : List Char) → Bool
  | [], [] => true
  | [], c :: _ => isBlank c
  | _ :: _, [] => false
  | w :: word, c :: text => w == c && startsWithWord word text

/-- The directive that a comment's text begins with. -/
def ofText? (text : List Char) : Option Directive :=
  [Directive.disableNextLine, .disable, .enable].find? fun d =>
    startsWithWord d.word.toList (trim text)

end Directive

/-! ## Disabled lines -/

/-- A range of lines, both ends included; without a last line it runs to the end of the file. -/
structure LineRange where
  first : Nat
  last : Option Nat
deriving DecidableEq, Inhabited

/-- The range holds a line. -/
def LineRange.contains (r : LineRange) (line : Nat) : Bool :=
  r.first ≤ line && r.last.all (line ≤ ·)

/-- The lines of a file on which the lint is switched off. -/
structure DisabledLines where
  lines : List Nat := []
  ranges : List LineRange := []
deriving DecidableEq, Inhabited

namespace DisabledLines

/-- Nothing is switched off. -/
def isEmpty (d : DisabledLines) : Bool := d.lines.isEmpty && d.ranges.isEmpty

/-- The lint is switched off on a line. -/
def ignores (d : DisabledLines) (line : Nat) : Bool :=
  d.lines.contains line || d.ranges.any (·.contains line)

end DisabledLines

/-- A directive with the first and the last line of its comment. -/
structure Note where
  directive : Directive
  first : Nat
  last : Nat
deriving DecidableEq, Inhabited

/-- What is known behind some of the notes: the lines switched off so far, and the first line of
the range that is still open. -/
structure NotesRead where
  disabled : DisabledLines := {}
  opened : Option Nat := none
deriving DecidableEq, Inhabited

/-- Takes in one note. A range that is open already stays as it is. -/
def readNote (state : NotesRead) (note : Note) : NotesRead :=
  match note.directive with
  | .disable => { state with opened := state.opened <|> some note.first }
  | .enable =>
    match state.opened with
    | some first =>
      { disabled :=
          { state.disabled with ranges := state.disabled.ranges ++ [⟨first, some (note.first - 1)⟩] }
        opened := none }
    | none => state
  | .disableNextLine =>
    { state with
      disabled := { state.disabled with lines := state.disabled.lines ++ [note.last + 1] } }

/-- An open range runs to the end. -/
def NotesRead.close (state : NotesRead) : DisabledLines :=
  match state.opened with
  | some first => { state.disabled with ranges := state.disabled.ranges ++ [⟨first, none⟩] }
  | none => state.disabled

/-- The lines that the notes switch off. -/
def DisabledLines.ofNotes (notes : List Note) : DisabledLines :=
  (notes.foldl readNote {}).close

/-- The note of a comment, if it is a directive. -/
def noteOf? (lineOf : Nat → Nat) (comment : Comment) : Option Note :=
  (Directive.ofText? comment.text.toList).map fun directive =>
    ⟨directive, lineOf comment.span.start, lineOf comment.span.stop⟩

/-- The lines that the comments of a file switch off; they count in the order in which they start. -/
def DisabledLines.ofComments (lineOf : Nat → Nat) (comments : List Comment) : DisabledLines :=
  ofNotes ((sortBy (fun a b => decide (a.span.start ≤ b.span.start)) comments).filterMap
    (noteOf? lineOf))

end MapLint.Lint
