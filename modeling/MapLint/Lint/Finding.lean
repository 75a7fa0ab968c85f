import MapLint.Lint.Evidence
import MapLint.Text.Edit
import MapLint.Text.Blank

/-!
# Findings

The lint reads the events of a script from first to last. A call `_.map(sequence, callback)` is
judged on its own, except that nothing is said of calls behind an assignment to `_`: from there on
the name may stand for anything. A `Finding` is a call that can be replaced, with the edit that does
it; a call that is not a finding is passed over for one of the reasons in `Skip`.

## Architecture

- `replacementFor` writes the text that takes the place of a call;
- `judge` gives the finding for one call, or why there is none;
- `step` is one step of the pass, `findings` the whole pass as a fold over the events.
-/

namespace MapLint.Lint

/-- What the pass remembers of the events it has read. -/
structure PassState where
  /-- The reserved receiver was assigned to. -/
  suppressed : Bool := false
deriving DecidableEq, Inhabited

/-- Why a call is passed over. -/
inductive Skip where
  /-- It is a call of another method. -/
  | notCandidate
  /-- The receiver was assigned to before. -/
  | suppressed
  /-- Its value decides what happens next. -/
  | excludedPosition
  | missingArgument
  | extraArguments
  | spreadArgument
  /-- The evidence does not carry a replacement. -/
  | unclassified
  /-- The text of the call or of an argument cannot be read. -/
  | missingText
deriving DecidableEq, Inhabited

/-- A call that can be replaced. -/
structure Finding where
  /-- Where the method's name stands. -/
  anchor : Span
  classification : Classification
  edit : Edit
deriving DecidableEq, Inhabited

/-- What a finding says. -/
def findingMessage : String := "Prefer native Array.map method"

/-! ## The replacement -/

/-- The method call on the sequence, in parentheses where a property cannot follow it directly. -/
def methodCall (memberSafe : Bool) (sequence callback : List Char) : List Char :=
  (if memberSafe then sequence else '(' :: sequence ++ [')']) ++
    '.' :: targetMethod.toList ++ '(' :: callback ++ [')']

/-- The method call where the sequence is an array, and the call itself where it is not. -/
def guardedCall (position : Position) (sequence direct call : List Char) : List Char :=
  let choice := "Array.isArray(".toList ++ sequence ++ ") ? ".toList ++ direct ++ " : ".toList ++ call
  if position = .operand then '(' :: choice ++ [')'] else choice

/-- A text that, at the start of a statement, would be read on from the statement before. -/
def continuesStatement : List Char → Bool
  | c :: _ => c == '[' || c == '(' || c == '\x60'
  | [] => false

/-- The last character before byte `offset` that is not blank is a semicolon. -/
def followsSemicolon (source : List Char) (offset : Nat) : Bool :=
  match sliceChars? source ⟨0, offset⟩ with
  | some before => (trimEnd before).getLast? == some ';'
  | none => false

/-- A semicolon is put in front of a replacement that would otherwise be read as the rest of the
statement before it. -/
def separated (source : List Char) (site : CallSite) (replacement : List Char) : List Char :=
  if site.opensStatement && continuesStatement replacement &&
      !followsSemicolon source site.span.start then
    ';' :: replacement
  else replacement

/-- The text that takes the place of a call, without a separating semicolon. There is none when a
text that it needs cannot be read. -/
def replacementFor (source : List Char) (site : CallSite) (sequence callback : Argument)
    (action : FixAction) : Option (List Char) :=
  match sliceChars? source sequence.span, sliceChars? source callback.span with
  | some sequenceText, some callbackText =>
    let direct := methodCall sequence.memberSafe sequenceText callbackText
    match action with
    | .guarded =>
      match sliceChars? source site.span with
      | some call => some (guardedCall site.position sequenceText direct call)
      | none => none
    | _ => some direct
  | _, _ => none

/-! ## Judging calls -/

/-- The finding for a call, or why it is passed over. -/
def judge (strictness : Strictness) (source : List Char) (state : PassState) (site : CallSite) :
    Except Skip Finding :=
  if site.receiver != reservedReceiver || site.method != targetMethod then .error .notCandidate
  else if state.suppressed then .error .suppressed
  else if site.position = .condition then .error .excludedPosition
  else
    match site.arguments with
    | [sequence, callback] =>
      if sequence.spread || callback.spread then .error .spreadArgument
      else
        let classification := classify strictness sequence callback
        if classification.action = .none then .error .unclassified
        else
          match replacementFor source site sequence callback classification.action with
          | some replacement =>
            .ok ⟨site.methodSpan, classification, site.span, separated source site replacement⟩
          | none => .error .missingText
    | [] => .error .missingArgument
    | [_] => .error .missingArgument
    | _ => .error .extraArguments

/-- One step of the pass: the state behind an event and the finding there. -/
def step (strictness : Strictness) (source : List Char) (state : PassState) :
    Event → PassState × Option Finding
  | .receiverAssigned _ => (⟨true⟩, none)
  | .call site =>
    match judge strictness source state site with
    | .ok finding => (state, some finding)
    | .error _ => (state, none)

/-- The findings among events that are read from a given state. -/
def findingsFrom (strictness : Strictness) (source : List Char) :
    PassState → List Event → List Finding
  | _, [] => []
  | state, event :: events =>
    let (next, finding) := step strictness source state event
    finding.toList ++ findingsFrom strictness source next events

/-- The findings among the events of a script, in their order. -/
def findings (strictness : Strictness) (source : List Char) (events : List Event) : List Finding :=
  findingsFrom strictness source {} events

end MapLint.Lint
