import MapLint.Script.Lexer
import MapLint.Script.Tree

/-!
# Reading a script token by token

A production of the grammar is a `Parse` action: it sees one token, may look at the one behind it,
moves on, and either builds a part of the tree or fails with a `Fault`. Faults that do not stop the
reading are collected on the way.

## Architecture

- `Context` holds what an enclosing construct has settled (strict code, inside a generator, …); it is
  changed for the extent of a part and never by it;
- `State` holds the token under the cursor and what has been collected so far;
- the combinators test, skip and require tokens, record faults, and try a reading that is undone
  when it fails;
- `repeatUntil` is the one loop, bounded by the length of the text.

A fault that holds only in strict code is recorded at once in strict code. It is also kept apart,
because a script turns out to be a module, and so strict from its start, only at the end.
-/

namespace MapLint.Script

/-- What the constructs around a place have settled. -/
structure Context where
  /-- The typed dialect. -/
  typed : Bool
  /-- Elements may be written as expressions. -/
  markup : Bool
  strict : Bool := false
  topLevel : Bool := true
  inFunction : Bool := false
  inAsync : Bool := false
  inGenerator : Bool := false
  /-- Whether `in` is an operator here; the head of a loop reserves it. -/
  inOperator : Bool := true
  inConditional : Bool := false
  /-- A colon that follows belongs to a conditional further out. -/
  colonReserved : Bool := false
  inClass : Bool := false
  /-- The class around extends another one. -/
  inDerivedClass : Bool := false
  inField : Bool := false
  inParams : Bool := false
  /-- Inside a function that has its own `new.target`. -/
  hasNewTarget : Bool := false
  superAllowed : Bool := false
  inStaticBlock : Bool := false
  breakAllowed : Bool := false
  continueAllowed : Bool := false
  /-- Declarations describe what exists elsewhere. -/
  ambient : Bool := false
  /-- Inside the condition of a conditional type, which holds no further one. -/
  noConditionalType : Bool := false
  /-- Faults found here do not count. -/
  quiet : Bool := false
  /-- A bound on the number of rounds of any loop. -/
  limit : Nat

/-- The token under the cursor and what was found before it. -/
structure State where
  token : Token
  span : Span
  /-- Where the token's own characters begin. -/
  here : Cursor
  /-- What follows the token. -/
  after : Cursor
  lineBreak : Bool
  /-- Where the token before ended. -/
  previousStop : Nat
  /-- The newest first. -/
  comments : List Comment
  /-- The newest first. -/
  faults : List Fault
  /-- Faults if the script is a module, the newest first. -/
  moduleFaults : List Fault
  labels : List String
  /-- Something was found that only a module contains. -/
  moduleSeen : Bool
  /-- Where an arrow function could begin. -/
  arrowStart : Option Nat
  /-- Where a literal that ends in a comma begins, and that comma. -/
  trailingCommas : List (Nat × Span)
deriving Inhabited

/-- A production of the grammar. -/
abbrev Parse := ReaderT Context (EStateM Fault State)

/-! ## Faults -/

/-- Stops the reading. -/
def failAt {α : Type} (span : Span) (problem : Problem) : Parse α := throw ⟨span, problem⟩

/-- Stops the reading at the current token. -/
def failHere {α : Type} (problem : Problem) : Parse α := do failAt (← get).span problem

/-- Stops the reading because the current token is none of those that may stand here. -/
def failUnexpected {α : Type} (wanted : String) : Parse α := do
  failHere (.unexpected (← get).token.shown wanted)

/-- Records a fault and goes on. -/
def report (span : Span) (problem : Problem) : Parse Unit := do
  unless (← read).quiet do
    modify fun s => { s with faults := ⟨span, problem⟩ :: s.faults }

/-- Records a fault at the current token and goes on. -/
def reportHere (problem : Problem) : Parse Unit := do report (← get).span problem

/-- Records a fault that counts in strict code only. -/
def reportStrict (span : Span) (problem : Problem) : Parse Unit := do
  let ctx ← read
  unless ctx.quiet do
    let fault : Fault := ⟨span, problem⟩
    modify fun s =>
      { s with
        faults := if ctx.strict then fault :: s.faults else s.faults
        moduleFaults := fault :: s.moduleFaults }

/-! ## Moving on -/

/-- A number in the old octal style is a fault of the typed dialect in any code, and not only in
strict code. -/
def octalFaults (typed : Bool) (token : Token) (strictFaults : List Fault) : List Fault :=
  match typed, token with
  | true, .number =>
    strictFaults.filterMap fun fault =>
      match fault.problem with
      | .legacyOctal => some ⟨fault.place, .numbered 1085⟩
      | _ => none
  | _, _ => []

/-- Takes over what a step of the lexer found. -/
def State.advance (ctx : Context) (s : State) (r : Reading) : State :=
  let faults := octalFaults ctx.typed r.token r.strictFaults ++ s.faults
  { s with
    token := r.token
    span := ⟨r.start, r.after.pos⟩
    here := r.here
    after := r.after
    lineBreak := r.lineBreak
    previousStop := s.span.stop
    comments := r.comments ++ s.comments
    faults := r.faults ++ (if ctx.strict then r.strictFaults ++ faults else faults)
    moduleFaults := r.strictFaults ++ s.moduleFaults }

/-- Moves on to the next token. -/
def bump : Parse Unit := do
  let ctx ← read
  modify fun s => s.advance ctx (readToken false s.after)

/-- The step of the lexer behind the current token. -/
def peek : Parse Reading := do return readToken false (← get).after

/-- Replaces the current token by another reading of the same place. -/
def respell (s : Spelled) : Parse Unit := do
  let strict := (← read).strict
  modify fun st =>
    { st with
      token := s.token
      span := ⟨st.span.start, s.cursor.pos⟩
      after := s.cursor
      faults := s.faults ++ (if strict then s.strictFaults ++ st.faults else st.faults)
      moduleFaults := s.strictFaults ++ st.moduleFaults }

/-- Moves on to a token that is read in a special way from right behind the current one. -/
def bumpTo (s : Spelled) : Parse Unit := do
  let ctx ← read
  modify fun st =>
    st.advance ctx
      ⟨s.token, st.after.pos, st.after, s.cursor, false, [], s.faults, s.strictFaults⟩

/-! ## Looking at tokens -/

/-- Whether a token is a certain punctuator. -/
def Token.isPunct (t : Token) (text : String) : Bool :=
  match t with
  | .punct p => p == text
  | _ => false

/-- Whether a token is a certain word. -/
def Token.isWord (t : Token) (text : String) : Bool :=
  match t with
  | .word w escaped => !escaped && w == text
  | _ => false

/-- Whether a token is a word at all. -/
def Token.isAnyWord : Token → Bool
  | .word _ _ => true
  | _ => false

/-- Whether a token is a string. -/
def Token.isString : Token → Bool
  | .string _ _ => true
  | _ => false

/-- Whether a token is one of the given punctuators. -/
def Token.isOneOf (t : Token) (texts : List String) : Bool :=
  match t with
  | .punct p => texts.contains p
  | _ => false

/-- Whether a token opens a template. -/
def Token.opensTemplate : Token → Bool
  | .template first _ _ => first
  | _ => false

/-- Whether a token is the end of the text. -/
def Token.isEnd : Token → Bool
  | .eof => true
  | _ => false

/-- The current token. -/
def current : Parse Token := do return (← get).token

/-- Where the current token starts. -/
def position : Parse Nat := do return (← get).span.start

/-- The span from a start to the end of the token before. -/
def spanFrom (start : Nat) : Parse Span := do return ⟨start, (← get).previousStop⟩

/-- Whether the current token is a certain punctuator. -/
def at? (text : String) : Parse Bool := do return (← current).isPunct text

/-- Whether the current token is one of the given punctuators. -/
def atOneOf (texts : List String) : Parse Bool := do return (← current).isOneOf texts

/-- Whether the current token is a certain word. -/
def atWord (text : String) : Parse Bool := do return (← current).isWord text

/-- Whether the text has ended. -/
def atEnd : Parse Bool := do return (← current).isEnd

/-- Whether a line break stands before the current token. -/
def afterLineBreak : Parse Bool := do return (← get).lineBreak

/-- Skips a punctuator if it is there. -/
def eat (text : String) : Parse Bool := do
  if ← at? text then
    bump
    return true
  return false

/-- Skips a word if it is there. -/
def eatWord (text : String) : Parse Bool := do
  if ← atWord text then
    bump
    return true
  return false

/-- Skips a word if it is there and may be skipped. -/
def eatWordWhen (ok : Bool) (text : String) : Parse Bool :=
  if ok then eatWord text else pure false

/-- Skips a punctuator if it is there and may be skipped. -/
def eatWhen (ok : Bool) (text : String) : Parse Bool := if ok then eat text else pure false

/-- Skips one of several punctuators if it is there. -/
def eatOneOf (texts : List String) : Parse Bool := do
  if ← atOneOf texts then
    bump
    return true
  return false

/-- Requires a punctuator. -/
def expect (text : String) : Parse Unit := do
  unless ← eat text do
    failHere (.expected text (← current).shown)

/-- Requires a word. -/
def expectWord (text : String) : Parse Unit := do
  unless ← eatWord text do
    failHere (.expected text (← current).shown)

/-! ## The end of a statement -/

/-- Whether a statement may end before the current token. -/
def atStatementEnd : Parse Bool := do
  let s ← get
  return s.token.isPunct ";" || s.token.isPunct "\x7d" || s.token.isEnd || s.lineBreak

/-- Ends a statement: skips a semicolon, or notes that none is needed. -/
def eatStatementEnd : Parse Bool := do
  if ← eat ";" then return true
  atStatementEnd

/-- Requires the end of a statement. -/
def expectStatementEnd : Parse Unit := do
  unless ← eatStatementEnd do
    failHere (.expected ";" (← current).shown)

/-! ## Trying and repeating -/

/-- Tries a reading; unless it yields something, all it did is undone. Faults do not count in it. -/
def attempt {α : Type} (p : Parse (Option α)) : Parse (Option α) := fun ctx s =>
  match p { ctx with quiet := true } s with
  | .ok (some a) s' => .ok (some a) s'
  | _ => .ok none s

/-- Looks ahead with a reading that is undone in any case. -/
def lookAhead (p : Parse Bool) : Parse Bool := fun ctx s =>
  match p { ctx with quiet := true } s with
  | .ok b _ => .ok b s
  | .error _ _ => .ok false s

/-- Reads and returns the fault instead of stopping at it. What was read before it stays read. -/
def catchFault {α : Type} (p : Parse α) : Parse (Except Fault α) := fun ctx s =>
  match p ctx s with
  | .ok a s' => .ok (.ok a) s'
  | .error f s' => .ok (.error f) s'

/-- At most `n` rounds of a step that either goes on or yields a result. -/
def rounds {σ α : Type} (step : σ → Parse (Except σ α)) : Nat → σ → Parse α
  | 0, _ => failHere .outOfSteps
  | n + 1, acc => do
    match ← step acc with
    | .error acc => rounds step n acc
    | .ok result => return result

/-- Repeats a step until it yields a result. -/
def repeatUntil {σ α : Type} (start : σ) (step : σ → Parse (Except σ α)) : Parse α := do
  rounds step (← read).limit start

/-- Reads items until a test says that there are no more. -/
def listUntil {α : Type} (done : Parse Bool) (item : Parse α) : Parse (List α) :=
  repeatUntil [] fun (acc : List α) => do
    if ← done then return .ok acc.reverse
    return .error ((← item) :: acc)

/-! ## Changing the context -/

/-- Reads a part in a changed context. -/
def within {α : Type} (change : Context → Context) (p : Parse α) : Parse α :=
  fun ctx s => p (change ctx) s

/-- Reads a part in which `in` is an operator. -/
def allowIn {α : Type} (p : Parse α) : Parse α := within (fun c => { c with inOperator := true }) p

end MapLint.Script
