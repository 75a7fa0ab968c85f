import MapLint.Lint.Analysis

/-!
# Repairing a file

The edits of all findings are made in one pass, but a finding inside another one can only be dealt
with once the outer call is replaced. So the text is parsed and edited again until a pass changes
nothing, at most `maxPasses` times. What a pass has made of the text is parsed in the round behind
it; a text that no longer parses is given up for the one before.

## Architecture

- `Loop` is what the loop knows between two rounds, `Loop.round` one round of it, for any parser and
  any choice of edits;
- `repairFrom` makes the rounds, and `repair` begins them with a text that has to parse;
- `repairSourceWith` is the loop for the findings of a file, whatever reads the scripts in it, and
  `repairSource` the one for the parser of this library.
-/

namespace MapLint.Lint

open MapLint.Script

/-- The number of passes after which a file is left as it is. -/
def maxPasses : Nat := 10

/-- A text on the way of being repaired. -/
structure Progress where
  text : List Char
  /-- The edits made so far. -/
  applied : Nat := 0
  /-- The passes made so far. -/
  passes : Nat := 0
deriving DecidableEq, Inhabited

/-- A text after its last pass. -/
structure Repaired (ε : Type) extends Progress where
  /-- Why the pass after the last one was taken back. -/
  reverted : Option ε := none

/-- Some edit was made. -/
def Repaired.changed {ε : Type} (r : Repaired ε) : Bool := 0 < r.applied

/-- What is known between two rounds. -/
structure Loop extends Progress where
  /-- The text before the last pass and the edits made up to there, to go back to if what the pass
  made does not parse. -/
  lastGood : Option (List Char × Nat) := none
deriving DecidableEq, Inhabited

/-- What a round comes to. -/
inductive Round (ε : Type) where
  /-- The text never parsed. -/
  | failed (problem : ε)
  | done (result : Repaired ε)
  | goOn (next : Loop)

/-- One round: the text is parsed, and unless that ends the repair, one more pass is made over it.
The edits of a pass may depend on its number and on what was parsed. -/
def Loop.round {α ε : Type} (parse : List Char → Except ε α) (editsFor : Nat → α → List Edit)
    (s : Loop) : Round ε :=
  match parse s.text with
  | .error e =>
    match s.lastGood with
    | some (text, applied) =>
      .done { text, applied, passes := s.passes - 1, reverted := some e }
    | none => .failed e
  | .ok parsed =>
    if s.passes = maxPasses then .done { s with }
    else
      let batch := applyEdits s.text (editsFor s.passes parsed)
      if batch.applied = 0 then .done { s with }
      else
        .goOn
          { text := batch.text
            applied := s.applied + batch.applied
            passes := s.passes + 1
            lastGood := some (s.text, s.applied) }

/-- Makes up to `n` rounds. -/
def repairFrom {α ε : Type} (parse : List Char → Except ε α) (editsFor : Nat → α → List Edit) :
    (n : Nat) → Loop → Except ε (Repaired ε)
  | 0, s => .ok { s with }
  | n + 1, s =>
    match s.round parse editsFor with
    | .failed e => .error e
    | .done r => .ok r
    | .goOn next => repairFrom parse editsFor n next

/-- Repairs a text; it fails where the text itself does not parse. The last round only parses. -/
def repair {α ε : Type} (parse : List Char → Except ε α) (editsFor : Nat → α → List Edit)
    (text : List Char) : Except ε (Repaired ε) :=
  repairFrom parse editsFor (maxPasses + 1) { text }

/-- The edits that a pass makes over a file: those of its findings, whichever pass it is. -/
def repairEdits (strictness : Strictness) (_ : Nat) (source : Source) : List Edit :=
  (source.findings strictness).map Finding.edit

/-- Repairs the findings of a file by means of a reader of scripts. A mark at the start takes no part
in it. -/
def repairSourceWith (read : ScriptReader) (path : Path) (strictness : Strictness)
    (text : List Char) : Except ParseFailure (Repaired ParseFailure) :=
  let (code, marked) := stripMark text
  (repair (parseSourceWith read path) (repairEdits strictness) code).map fun r =>
    { r with text := restoreMark marked r.text }

/-- Repairs the findings of a file. -/
def repairSource (path : Path) (strictness : Strictness) (text : List Char) :
    Except ParseFailure (Repaired ParseFailure) :=
  repairSourceWith parseChars path strictness text

end MapLint.Lint
