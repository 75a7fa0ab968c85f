import MapLint.Proofs.EventCoverage
import MapLint.Proofs.Replacement

/-!
# No effect is repeated

A replacement with a choice evaluates the first argument twice, once for the test and once for the
call. That does no harm as long as the argument only reads a variable and properties with fixed names
behind it. Here it is shown for every program that no other argument gets such a replacement: whatever
is taken for a path by its shape, by its scopes and by the grades is one.

## Architecture

- `bare` takes off parentheses and annotations, `PlainPath` is what may be evaluated twice, and
  `PlainPath.onlyReads` that nothing in it does more than read;
- `shapedAs_shapeOf` reads the expression off its shape, and `gradedAs_sequenceEvidence` off the grade
  of the argument, whatever the scopes are;
- `decide_eq_guarded` and `decide_eq_unconditional` turn the table around;
- `repeated_argument_only_reads` joins them for the findings of a program.
-/

namespace MapLint.Lint

open MapLint.Script

/-! ## Expressions that may be evaluated twice -/

/-- An expression without the parentheses and annotations around it. -/
def bare : Expr → Expr
  | .paren _ inner => bare inner
  | .typed _ inner _ => bare inner
  | e => e

/-- A variable or `this`, or fixed property names behind one of them. -/
inductive PlainPath : Expr → Prop where
  | ident (span : Span) (name : String) : PlainPath (.ident span name)
  | this (span : Span) : PlainPath (.this span)
  | member {object : Expr} (span : Span) (name : String) (nameSpan : Span)
      (hobject : PlainPath object) : PlainPath (.member span object name nameSpan)

/-- A node that reads a variable or a property with a fixed name, and does nothing else: it is no call,
no construction, no assignment, nothing that waits, and no name is computed. -/
def Node.onlyReads : Node → Bool
  | .expr (.ident _ _) => true
  | .expr (.this _) => true
  | .expr (.member _ _ _ _) => true
  | _ => false

theorem PlainPath.onlyReads {e : Expr} (h : PlainPath e) (position : Position) :
    ∀ part ∈ (Part.expr position e).subtree, part.node.onlyReads = true := by
  induction h generalizing position with
  | ident span name =>
    intro part hpart
    rw [Part.subtree_eq] at hpart
    obtain rfl : part = .expr position (.ident span name) := List.mem_singleton.mp hpart
    rfl
  | this span =>
    intro part hpart
    rw [Part.subtree_eq] at hpart
    obtain rfl : part = .expr position (.this span) := List.mem_singleton.mp hpart
    rfl
  | @member object span name nameSpan hobject ih =>
    intro part hpart
    have hparts : (Part.expr position (.member span object name nameSpan)).parts =
        [.expr .operand object] := rfl
    rw [Part.subtree_eq, hparts, List.flatMap_singleton] at hpart
    rcases List.mem_cons.mp hpart with rfl | hpart
    · rfl
    · exact ih .operand part hpart

/-! ## What a shape tells of an expression -/

/-- What an expression of this shape is, as far as it matters here. -/
def ShapedAs (e : Expr) : Shape → Prop
  | .sequence => ∃ span items, e = .array span items
  | .reference name => ∃ span, e = .ident span name
  | .path => PlainPath e
  | _ => True

theorem plainPath_of_isPath {e : Expr} (h : isPath e = true) : PlainPath e := by
  fun_induction isPath e with
  | case1 span objectSpan objectName name nameSpan => exact .member _ _ _ (.ident _ _)
  | case2 span objectSpan name nameSpan => exact .member _ _ _ (.this _)
  | case3 span object name nameSpan _ _ ih => exact .member _ _ _ (ih h)
  | case4 => cases h

/-- Parentheses and annotations do not change a shape, so a shape tells of the bare expression. -/
theorem shapedAs_shapeOf (e : Expr) : ShapedAs (bare e) (shapeOf e) := by
  fun_induction shapeOf e with
  | case1 span items => exact ⟨span, items, rfl⟩
  | case5 span name => exact ⟨span, rfl⟩
  | case9 span => exact .this span
  | case10 span object name nameSpan hpath => exact plainPath_of_isPath hpath
  | case12 span inner ih => exact ih
  | case13 span inner types ih => exact ih
  | _ => trivial

/-! ## What a grade tells of the expression -/

/-- What the first argument is when it has this grade. -/
def GradedAs (e : Expr) : SequenceEvidence → Prop
  | .literal => ∃ span items, e = .array span items
  | .resolved => ∃ span name, e = .ident span name
  | .unknown => PlainPath e
  | _ => True

/-- What the scopes tell of a variable changes its grade, but a variable it remains. -/
theorem gradedAs_of_bare_ident {e : Expr} {span : Span} {name : String}
    (h : bare e = .ident span name) (grade : SequenceEvidence) (hliteral : grade ≠ .literal) :
    GradedAs (bare e) grade := by
  rw [h]
  cases grade with
  | literal => exact absurd rfl hliteral
  | resolved => exact ⟨span, name, rfl⟩
  | unknown => exact .ident span name
  | unlikely => trivial
  | objectLike => trivial

theorem gradedAs_sequenceEvidence (strictness : Strictness) (scopes : Scopes) (e : Expr)
    {argument : Argument} (h : argument.operand = operandOf scopes e) :
    GradedAs (bare e) (sequenceEvidence strictness argument) := by
  have hshape := shapedAs_shapeOf e
  unfold operandOf at h
  split at h
  case h_1 name hreference =>
    rw [hreference] at hshape
    obtain ⟨span, hbare⟩ := hshape
    refine gradedAs_of_bare_ident hbare _ ?_
    unfold sequenceEvidence
    -- only an argument that is no variable is a literal
    split at h <;> rw [h] <;> dsimp only <;> repeat' split
    all_goals decide
  case h_2 hreference =>
    unfold sequenceEvidence
    rw [h]
    cases hcase : shapeOf e with
    | reference name => exact absurd hcase (hreference name)
    | sequence =>
      rw [hcase] at hshape
      exact hshape
    | path =>
      rw [hcase] at hshape
      cases strictness with
      | strict => trivial
      | loose => exact hshape
    | _ => trivial

/-! ## The table turned around -/

theorem decide_eq_guarded {strictness : Strictness} {first : SequenceEvidence}
    {second : InvocableEvidence} (h : decide strictness first second = .guarded) :
    first = .resolved ∨ first = .unknown := by
  revert h
  cases strictness <;> cases first <;> cases second <;> decide

theorem decide_eq_unconditional {strictness : Strictness} {first : SequenceEvidence}
    {second : InvocableEvidence} (h : decide strictness first second = .unconditional) :
    first = .literal ∨ (first = .resolved ∧ strictness = .loose) := by
  revert h
  cases strictness <;> cases first <;> cases second <;> decide

/-! ## The findings of a program -/

/-- The first argument of the call that a finding stands at, in the light of what is done there. -/
structure SafelyRead (strictness : Strictness) (action : FixAction) (first : Expr) : Prop where
  guarded : action = .guarded → PlainPath (bare first) ∧
    ∀ part ∈ (Part.expr .standalone (bare first)).subtree, part.node.onlyReads = true
  unconditional : action = .unconditional →
    (∃ span items, bare first = .array span items) ∨
      (strictness = .loose ∧ ∃ span name, bare first = .ident span name)

theorem safelyRead_of_operand {strictness : Strictness} {scopes : Scopes} {first : Expr}
    {sequence callback : Argument} (h : sequence.operand = operandOf scopes first) :
    SafelyRead strictness (classify strictness sequence callback).action first := by
  have hgrade := gradedAs_sequenceEvidence strictness scopes first h
  constructor
  · intro haction
    have hpath : PlainPath (bare first) := by
      rcases decide_eq_guarded haction with hresolved | hunknown
      · rw [hresolved] at hgrade
        obtain ⟨span, name, hbare⟩ := hgrade
        rw [hbare]
        exact .ident span name
      · rw [hunknown] at hgrade
        exact hgrade
    exact ⟨hpath, hpath.onlyReads .standalone⟩
  · intro haction
    rcases decide_eq_unconditional haction with hliteral | ⟨hresolved, hloose⟩
    · rw [hliteral] at hgrade
      exact .inl hgrade
    · rw [hresolved] at hgrade
      exact .inr ⟨hloose, hgrade⟩

/-- Every finding of a program stands at a call in it whose first argument, where it is evaluated
twice, only reads a variable and fixed properties behind it, and, where the call is replaced without a
choice, is an array literal or, for the loose lint alone, a variable. -/
theorem repeated_argument_only_reads (program : Program) (source : List Char)
    (strictness : Strictness) :
    ∀ finding ∈ findings strictness source (programEvents program),
      finding.classification.action ≠ .none ∧
      ∃ trail call site first second, Recorded program trail call site ∧
        callArguments call = [first, second] ∧ judge strictness source {} site = .ok finding ∧
        SafelyRead strictness finding.classification.action first := by
  intro finding hfinding
  obtain ⟨site, state, hsite, hjudge⟩ := exists_call_of_mem_findingsFrom hfinding
  obtain ⟨trail, call, hrecorded⟩ := call_mem_programEvents_iff.mp hsite
  obtain ⟨hcandidate, hstate, hposition, sequence, callback, text, hargs, hspread, haction, htext,
    rfl⟩ := judge_eq_ok_iff.mp hjudge
  have harguments := hrecorded.arguments
  rw [hargs] at harguments
  obtain ⟨first, rest, ⟨-, hfirst⟩, hrest, hcall⟩ := List.forall₂_cons_right_iff.mp harguments
  obtain ⟨second, rest', -, hrest', hcons⟩ := List.forall₂_cons_right_iff.mp hrest
  obtain rfl : rest' = [] := List.forall₂_nil_right_iff.mp hrest'
  refine ⟨haction, trail, call, site, first, second, hrecorded, by rw [hcall, hcons], ?_,
    safelyRead_of_operand hfirst⟩
  exact judge_eq_ok_iff.mpr ⟨hcandidate, rfl, hposition, sequence, callback, text, hargs, hspread,
    haction, htext, rfl⟩

/-- The script `_.map((o.xs as any), f);`. -/
def mapOfProperty : Program :=
  ⟨false, [.stmt (.expr 0 (.call ⟨0, 23⟩
    (.member ⟨0, 5⟩ (.ident ⟨0, 1⟩ "_") "map" ⟨2, 5⟩)
    [.plain (.paren ⟨6, 19⟩ (.typed ⟨7, 18⟩ (.member ⟨7, 11⟩ (.ident ⟨7, 8⟩ "o") "xs" ⟨9, 11⟩) [])),
      .plain (.ident ⟨21, 22⟩ "f")] []))]⟩

def mapOfPropertyText : List Char := "_.map((o.xs as any), f);".toList

/-- The property is read twice, and there is nothing else in the argument. -/
theorem property_read_twice :
    ∃ finding ∈ findings .loose mapOfPropertyText (programEvents mapOfProperty),
      finding.classification.action = .guarded ∧
      finding.edit = ⟨⟨0, 23⟩,
        "Array.isArray((o.xs as any)) ? (o.xs as any).map(f) : _.map((o.xs as any), f)".toList⟩ ∧
      ∃ trail call site first second, Recorded mapOfProperty trail call site ∧
        callArguments call = [first, second] ∧ PlainPath (bare first) := by
  have hfindings : (findings .loose mapOfPropertyText (programEvents mapOfProperty)).map
      (fun finding => (finding.classification.action, finding.edit)) = [(.guarded, ⟨⟨0, 23⟩,
        "Array.isArray((o.xs as any)) ? (o.xs as any).map(f) : _.map((o.xs as any), f)".toList⟩)] := by
    decide +kernel
  obtain ⟨finding, hfinding, hpair⟩ := List.mem_map.mp (hfindings ▸ List.mem_singleton_self _)
  obtain ⟨haction, hedit⟩ := Prod.mk.inj hpair
  obtain ⟨-, trail, call, site, first, second, hcall, hargs, -, hsafe⟩ :=
    repeated_argument_only_reads mapOfProperty mapOfPropertyText .loose finding hfinding
  exact ⟨finding, hfinding, haction, hedit, trail, call, site, first, second, hcall, hargs,
    (hsafe.guarded haction).1⟩

end MapLint.Lint
