import MapLint.Lint.Event

/-!
# Evidence and the decision table

Whether a call is replaced, and by what, depends on two questions: is the first argument an array,
and is the second one a function? The answers are graded by how well the script supports them, and
`decide` is the table that joins the two grades. How bold it is depends on the `Strictness`.

## Architecture

- `sequenceEvidence` grades the first argument and `invocableEvidence` the second;
- `decide` is the table;
- `classify` runs all three and keeps the grades beside the decision.
-/

namespace MapLint.Lint

/-- How much evidence a replacement needs. -/
inductive Strictness where
  | strict
  | loose
deriving DecidableEq, Inhabited

/-- The word by which a strictness is chosen and shown. -/
def Strictness.word : Strictness → String
  | .strict => "strict"
  | .loose => "loose"

/-- What is known of the first argument being an array. -/
inductive SequenceEvidence where
  /-- It is an array literal. -/
  | literal
  /-- It is a variable whose initial value is an array literal. -/
  | resolved
  /-- It may be an array, and evaluating it twice does no harm. -/
  | unknown
  /-- It is no array, or evaluating it twice might repeat an effect. -/
  | unlikely
  /-- It is an object, or was taken out of one. -/
  | objectLike
deriving DecidableEq, Inhabited

/-- What is known of the second argument being a function. -/
inductive InvocableEvidence where
  | likely
  | unknown
  | unlikely
deriving DecidableEq, Inhabited

/-- What is done about a call. -/
inductive FixAction where
  /-- The call stays as it is. -/
  | none
  /-- The call becomes a method call on the array. -/
  | unconditional
  /-- The call becomes a method call where the argument turns out to be an array. -/
  | guarded
deriving DecidableEq, Inhabited

/-! ## Grading the arguments -/

/-- The grade of a first argument. An expression that is not a plain variable would run twice in a
guarded replacement, so one that might have effects is `unlikely`; a path of properties is trusted
only by the loose strictness. A variable gets the grade of its initial value. -/
def sequenceEvidence (strictness : Strictness) (arg : Argument) : SequenceEvidence :=
  match arg.operand with
  | .direct .sequence => .literal
  | .direct .object => .objectLike
  | .direct .path =>
    match strictness with
    | .strict => .unlikely
    | .loose => .unknown
  | .direct .function => .unlikely
  | .direct .value => .unlikely
  | .direct .other => .unlikely
  | .direct (.reference _) => .unknown
  | .bound binding =>
    if binding.origin = .objectPattern then .objectLike
    else
      match binding.init with
      | some .sequence => .resolved
      | some .object => .objectLike
      | some .function => .unlikely
      | some .value => .unlikely
      | _ => .unknown
  | .unbound _ => .unknown

/-- The shape of an argument as far as it is known. -/
def Operand.shape? : Operand → Option Shape
  | .direct shape => some shape
  | .bound binding => binding.init
  | .unbound _ => none

/-- The grade of a second argument. -/
def invocableEvidence (arg : Argument) : InvocableEvidence :=
  match arg.operand.shape? with
  | some .function => .likely
  | some .sequence => .unlikely
  | some .object => .unlikely
  | some .value => .unlikely
  | _ => .unknown

/-! ## The table -/

/-- What is done about a call whose arguments have the given grades. -/
def decide (strictness : Strictness) : SequenceEvidence → InvocableEvidence → FixAction
  | _, .unlikely => .none
  | .objectLike, _ => .none
  | .unlikely, _ => .none
  | .literal, _ => .unconditional
  | .resolved, .likely =>
    match strictness with
    | .strict => .guarded
    | .loose => .unconditional
  | .resolved, .unknown =>
    match strictness with
    | .strict => .none
    | .loose => .unconditional
  | .unknown, .likely => .guarded
  | .unknown, .unknown =>
    match strictness with
    | .strict => .none
    | .loose => .guarded

/-- A decision with the grades it rests on. -/
structure Classification where
  sequence : SequenceEvidence
  invocable : InvocableEvidence
  action : FixAction
deriving DecidableEq, Inhabited

namespace Classification

/-- The first argument is known to be an array. -/
def sequenceLikely (c : Classification) : Bool :=
  c.sequence = .literal || c.sequence = .resolved

/-- The second argument is known to be a function. -/
def invocableLikely (c : Classification) : Bool := c.invocable = .likely

end Classification

/-- Grades the two arguments of a call and decides what is done about it. -/
def classify (strictness : Strictness) (sequence callback : Argument) : Classification :=
  let first := sequenceEvidence strictness sequence
  let second := invocableEvidence callback
  ⟨first, second, decide strictness first second⟩

end MapLint.Lint
