import MapLint.Text.Span
import MapLint.Order

/-!
# Editing a text

An `Edit` replaces a span of a text. A batch of edits is applied in the order of their spans; an
edit that does not fit the text, or that overlaps the one accepted before it, is left out.

## Architecture

- `inOrder` sorts a batch, equal spans keeping their order;
- `accept` picks the edits that are made;
- `splice` makes edits that stand in order and do not overlap;
- `applyEdits` joins the three and counts.
-/

namespace MapLint

/-- The replacement of a span of a text. -/
structure Edit where
  span : Span
  replacement : List Char
deriving DecidableEq, Inhabited

namespace Edit

/-- The span of the edit is a proper range of whole characters of the text. -/
def fits (text : List Char) (e : Edit) : Bool := (sliceChars? text e.span).isSome

/-- The batch in the order of its spans. -/
def inOrder (edits : List Edit) : List Edit :=
  sortBy (fun a b => (a.span.compare b.span).isLE) edits

/-- The edits of an ordered batch that are made; `last` is the span of the last one accepted. -/
def accept (text : List Char) (last : Option Span) : List Edit → List Edit
  | [] => []
  | e :: es =>
    if e.fits text && !last.any (·.overlaps e.span) then e :: accept text (some e.span) es
    else accept text last es

/-- The text that starts at byte `cursor`, with the edits made in it. The edits stand in order and
do not overlap; one that does not fit ends the edited part. -/
def splice (cursor : Nat) (text : List Char) : List Edit → List Char
  | [] => text
  | e :: es =>
    match splitAtByte? text (e.span.start - cursor) with
    | some (before, rest) =>
      match splitAtByte? rest (e.span.stop - e.span.start) with
      | some (_, after) => before ++ e.replacement ++ splice e.span.stop after es
      | none => text
    | none => text

end Edit

/-- The outcome of a batch of edits. -/
structure EditedText where
  text : List Char
  /-- The number of edits made. -/
  applied : Nat
  /-- The number of edits left out. -/
  skipped : Nat
deriving DecidableEq, Inhabited

/-- Makes a batch of edits. -/
def applyEdits (text : List Char) (edits : List Edit) : EditedText :=
  let accepted := Edit.accept text none (Edit.inOrder edits)
  ⟨Edit.splice 0 text accepted, accepted.length, edits.length - accepted.length⟩

end MapLint
