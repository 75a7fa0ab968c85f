import MapLint.Proofs.EventCoverage
import MapLint.Proofs.FindingSpec
import MapLint.Lint.Analysis

/-!
# Events in the order of the text

Findings depend on the order of the events: nothing is found behind an assignment to the reserved
receiver. The walk takes the parts of a node in the order of its fields, and for nearly all of them
that is the order in which they are written. Where it is not, because a field that is walked last
is written further in front, the events may come in another order than their text.

## Architecture

- `Node.inTurn` are the parts of a node that are walked as they are written, `Node.outOfTurn` the
  rest: what a class extends and implements, and the expressions in types;
- `Written` is what it means for a part to be written between two offsets: an expression takes its
  own span, its parts lie in there, and those in turn follow each other;
- `Part.Straight` says that no part out of turn brings what is recorded out of order;
- `Written.ascending` carries both to all that is recorded in a part, and
  `programEvents_in_text_order` to the events and the findings of a program;
- `heritage_walked_last` is a class whose events are not in the order of the text.
-/

namespace MapLint.Lint

open MapLint.Script

/-! ## Parts in turn and out of turn -/

/-- The parts that are walked behind all others of their node, wherever they are written. -/
def Node.outOfTurn : Node → List Part
  | .expr (.classValue _ _ heritage) => operandParts heritage
  | .expr (.call _ _ _ types) => operandParts types
  | .expr (.typed _ _ types) => operandParts types
  | .expr (.compound _ _ _ _ types) => operandParts types
  | .pattern (.ident _ _ types) => operandParts types
  | .pattern (.array _ _ types) => operandParts types
  | .pattern (.object _ _ types) => operandParts types
  | .pattern (.rest _ _ types) => operandParts types
  | .function (.mk params _ types) =>
    (operandParts types).map (Part.inside (patternsBindings .parameter params))
  | .member (.field _ _ types) => operandParts types
  | .decl (.classNamed _ _ heritage) => operandParts heritage
  | .decl (.typeLevel parts) => operandParts parts
  | _ => []

/-- The parts that are walked as they are written. -/
def Node.inTurn (position : Position) : Node → List Part
  | .expr (.classValue _ members _) => membersParts members
  | .expr (.call _ callee args _) => .expr .operand callee :: args.flatMap (itemParts .standalone)
  | .expr (.typed _ inner _) => [.expr .operand inner]
  | .expr (.compound _ _ operands args _) =>
    operandParts operands ++ args.flatMap (itemParts .standalone)
  | .pattern (.ident _ _ _) => []
  | .pattern (.array _ elements _) => patternsParts elements
  | .pattern (.object _ fields _) => fields.flatMap fieldParts
  | .pattern (.rest _ inner _) => [.of (.pattern inner)]
  | .function (.mk params body _) =>
    (patternsParts params ++ [Part.of (.block body)]).map
      (Part.inside (patternsBindings .parameter params))
  | .member (.field key value _) => optionParts .operand key ++ optionParts .operand value
  | .decl (.classNamed _ members _) => membersParts members
  | .decl (.typeLevel _) => []
  | node => node.parts position

namespace Part

def inTurn (part : Part) : List Part := part.node.inTurn part.position

def outOfTurn (part : Part) : List Part := part.node.outOfTurn

theorem parts_eq (part : Part) : part.parts = part.inTurn ++ part.outOfTurn := by
  obtain ⟨node, position, opened, listed⟩ := part
  simp only [parts, inTurn, outOfTurn]
  cases node with
  | expr e => cases e <;> simp [Node.parts, exprParts, Node.inTurn, Node.outOfTurn]
  | property p => simp [Node.inTurn, Node.outOfTurn]
  | pattern p => cases p <;> simp [Node.parts, patternParts, Node.inTurn, Node.outOfTurn]
  | function f => cases f; simp [Node.parts, functionParts, Node.inTurn, Node.outOfTurn]
  | member m => cases m <;> simp [Node.parts, memberParts, Node.inTurn, Node.outOfTurn]
  | block body => simp [Node.inTurn, Node.outOfTurn]
  | stmt s => simp [Node.inTurn, Node.outOfTurn]
  | decl d => cases d <;> simp [Node.parts, declParts, Node.inTurn, Node.outOfTurn]

theorem mem_parts_of_mem_inTurn {part child : Part} (h : child ∈ part.inTurn) :
    child ∈ part.parts := by
  rw [parts_eq]
  exact List.mem_append_left _ h

theorem mem_parts_of_mem_outOfTurn {part child : Part} (h : child ∈ part.outOfTurn) :
    child ∈ part.parts := by
  rw [parts_eq]
  exact List.mem_append_right _ h

end Part

/-! ## Where parts are written -/

/-- The stretch of text that a part takes when it is written between two offsets: an expression has
a span of its own, and any other node takes all there is. -/
def Part.room (part : Part) (lo hi : Nat) : Span :=
  match part.node with
  | .expr e => e.span
  | _ => ⟨lo, hi⟩

@[simp]
theorem Part.room_expr (position : Position) (e : Expr) (lo hi : Nat) :
    (Part.expr position e).room lo hi = e.span := rfl

mutual

/-- A part is written between the offsets `lo` and `hi`, with all that is in it. -/
inductive Written : Nat → Nat → Part → Prop where
  | intro {lo hi : Nat} {part : Part} (hlo : lo ≤ (part.room lo hi).start)
      (hhi : (part.room lo hi).stop ≤ hi)
      (inTurn : WrittenInTurn (part.room lo hi).start (part.room lo hi).stop part.inTurn)
      (outOfTurn : ∀ child ∈ part.outOfTurn,
        Written (part.room lo hi).start (part.room lo hi).stop child) :
      Written lo hi part

/-- Parts are written between `lo` and `hi`, one behind the other. -/
inductive WrittenInTurn : Nat → Nat → List Part → Prop where
  | nil {lo hi : Nat} (hle : lo ≤ hi) : WrittenInTurn lo hi []
  | cons {lo hi : Nat} {part : Part} {parts : List Part} (mid : Nat) (first : Written lo mid part)
      (rest : WrittenInTurn mid hi parts) : WrittenInTurn lo hi (part :: parts)

end

theorem Written.of_inTurn {part : Part} {lo hi : Nat} (houtOfTurn : part.outOfTurn = [])
    (hlo : lo ≤ (part.room lo hi).start) (hhi : (part.room lo hi).stop ≤ hi)
    (hinTurn : WrittenInTurn (part.room lo hi).start (part.room lo hi).stop part.inTurn) :
    Written lo hi part :=
  .intro hlo hhi hinTurn (by simp [houtOfTurn])

/-! ## What is recorded in a part -/

namespace Part

/-- What is told of all that is in a part, in the order of the walk. -/
def notices (part : Part) : List Notice := part.subtree.filterMap Part.notice?

theorem notices_eq (part : Part) :
    part.notices = part.notice?.toList ++
      (part.inTurn.flatMap notices ++ part.outOfTurn.flatMap notices) := by
  have hparts : (part.parts.flatMap subtree).filterMap Part.notice? = part.parts.flatMap notices := by
    rw [List.filterMap_flatMap]
    rfl
  rw [notices, subtree_eq, List.filterMap_cons, hparts, ← List.flatMap_append, ← parts_eq]
  cases part.notice? <;> rfl

/-- Nothing is recorded in the part. -/
def Silent (part : Part) : Prop := part.notices = []

/-- Both are expressions, and the one is written before the other. -/
def Ahead (part other : Part) : Prop :=
  ∃ e e', part.node = .expr e ∧ other.node = .expr e' ∧ e.span.stop ≤ e'.span.start

/-- What is recorded in the two parts, if anything is in both, is written in this order. -/
def InOrder (part other : Part) : Prop := part.Silent ∨ other.Silent ∨ part.Ahead other

/-- What is recorded in parts out of turn is written behind all that is walked before it. -/
structure Straight (part : Part) : Prop where
  behind : ∀ child ∈ part.inTurn, ∀ late ∈ part.outOfTurn, child.InOrder late
  among : part.outOfTurn.Pairwise InOrder

/-- A part out of turn does no harm where it is the only one. -/
theorem straight_of_sole {part : Part} (h : part.outOfTurn = [] ∨ part.parts.length ≤ 1) :
    part.Straight := by
  rcases h with hnil | hsole
  · exact ⟨by simp [hnil], by simp [hnil]⟩
  · rw [parts_eq, List.length_append] at hsole
    refine ⟨fun child hchild late hlate => ?_, ?_⟩
    · have := List.length_pos_of_mem hchild
      have := List.length_pos_of_mem hlate
      omega
    · rcases hlate : part.outOfTurn with _ | ⟨first, _ | ⟨second, rest⟩⟩
      · exact .nil
      · exact List.pairwise_singleton _ _
      · rw [hlate] at hsole
        simp only [List.length_cons] at hsole
        omega

end Part

/-! ## The order of what is recorded -/

def Notice.start : Notice → Nat
  | .call _ _ _ span _ => span.start
  | .assigned span => span.start

def Event.start : Event → Nat
  | .call site => site.span.start
  | .receiverAssigned span => span.start

theorem Event.start_notice (event : Event) : event.notice.start = event.start := by
  cases event <;> rfl

/-- All of these nodes begin between the offsets `lo` and `hi`. -/
def BeginWithin (lo hi : Nat) (notices : List Notice) : Prop :=
  lo ≤ hi ∧ ∀ notice ∈ notices, lo ≤ notice.start ∧ notice.start ≤ hi

section Order

variable {part other : Part} {parts : List Part} {lo hi lo' hi' mid : Nat} {notice : Notice}
  {notices others : List Notice}

theorem BeginWithin.mono (h : BeginWithin lo hi notices) (hlo : lo' ≤ lo) (hhi : hi ≤ hi') :
    BeginWithin lo' hi' notices := by
  refine ⟨by have := h.1; omega, fun notice hnotice => ?_⟩
  have := h.2 notice hnotice
  omega

theorem BeginWithin.append (h : BeginWithin lo hi notices) (hothers : BeginWithin lo hi others) :
    BeginWithin lo hi (notices ++ others) := by
  refine ⟨h.1, fun notice hnotice => ?_⟩
  rcases List.mem_append.mp hnotice with hnotice | hnotice
  · exact h.2 notice hnotice
  · exact hothers.2 notice hnotice

/-- What begins before an offset comes before what begins behind it. -/
theorem BeginWithin.start_le (h : BeginWithin lo mid notices) (hothers : BeginWithin mid hi others) :
    ∀ a ∈ notices, ∀ b ∈ others, a.start ≤ b.start := by
  intro a ha b hb
  have := (h.2 a ha).2
  have := (hothers.2 b hb).1
  omega

/-- What is recorded at an expression begins where the expression does. -/
theorem start_of_notice?_eq_some (lo hi : Nat) (h : part.notice? = some notice) :
    notice.start = (part.room lo hi).start := by
  obtain ⟨node, position, opened, listed⟩ := part
  simp only [Part.notice?, Node.notice?] at h
  split at h
  case h_1 =>
    cases h
    rfl
  case h_2 =>
    split at h
    · cases h
      rfl
    · cases h
  case h_3 => cases h

theorem WrittenInTurn.beginWithin (h : WrittenInTurn lo hi parts)
    (hparts : ∀ child ∈ parts, ∀ {lo hi}, Written lo hi child → BeginWithin lo hi child.notices) :
    BeginWithin lo hi (parts.flatMap Part.notices) := by
  induction parts generalizing lo with
  | nil =>
    cases h with
    | nil hle => exact ⟨hle, by simp⟩
  | cons child parts ih =>
    cases h with
    | cons mid first rest =>
      have hfirst := hparts child List.mem_cons_self first
      have hrest := ih rest fun child hchild => hparts child (List.mem_cons_of_mem _ hchild)
      rw [List.flatMap_cons]
      exact (hfirst.mono le_rfl hrest.1).append (hrest.mono hfirst.1 le_rfl)

/-- All that is recorded in a part begins in the stretch of text that the part takes. -/
theorem Written.beginWithin_room (part : Part) : ∀ {lo hi : Nat}, Written lo hi part →
    BeginWithin (part.room lo hi).start (part.room lo hi).stop part.notices := by
  induction part using Part.induction with
  | step part ih =>
    rintro lo hi ⟨-, -, hinTurn, houtOfTurn⟩
    have hchild : ∀ child ∈ part.parts, ∀ {lo hi}, Written lo hi child →
        BeginWithin lo hi child.notices := by
      rintro child hchild lo hi ⟨hlo, hhi, h₁, h₂⟩
      exact (ih child hchild ⟨hlo, hhi, h₁, h₂⟩).mono hlo hhi
    have hturn := hinTurn.beginWithin fun child h => hchild child (Part.mem_parts_of_mem_inTurn h)
    rw [Part.notices_eq]
    refine BeginWithin.append ⟨hturn.1, fun notice hown => ?_⟩ (hturn.append ⟨hturn.1, ?_⟩)
    · rw [Option.mem_toList] at hown
      rw [start_of_notice?_eq_some lo hi hown]
      exact ⟨le_rfl, hturn.1⟩
    · intro notice hnotice
      obtain ⟨child, hmem, hnotice⟩ := List.mem_flatMap.mp hnotice
      exact (hchild child (Part.mem_parts_of_mem_outOfTurn hmem) (houtOfTurn child hmem)).2 notice
        hnotice

theorem Written.beginWithin (h : Written lo hi part) : BeginWithin lo hi part.notices := by
  have hroom := Written.beginWithin_room part h
  obtain ⟨hlo, hhi, -, -⟩ := h
  exact hroom.mono hlo hhi

/-- Notices in the order in which their nodes begin. -/
abbrev Ascending (notices : List Notice) : Prop := notices.Pairwise fun a b => a.start ≤ b.start

theorem WrittenInTurn.exists_written (h : WrittenInTurn lo hi parts) (hpart : part ∈ parts) :
    ∃ lo hi, Written lo hi part := by
  induction parts generalizing lo with
  | nil => cases hpart
  | cons child parts ih =>
    cases h with
    | cons mid first rest =>
      rcases List.mem_cons.mp hpart with rfl | hpart
      · exact ⟨_, _, first⟩
      · exact ih rest hpart

theorem WrittenInTurn.ascending (h : WrittenInTurn lo hi parts)
    (hparts : ∀ child ∈ parts, ∀ {lo hi}, Written lo hi child → Ascending child.notices) :
    Ascending (parts.flatMap Part.notices) := by
  induction parts generalizing lo with
  | nil => exact .nil
  | cons child parts ih =>
    cases h with
    | cons mid first rest =>
      rw [List.flatMap_cons, Ascending, List.pairwise_append]
      refine ⟨hparts child List.mem_cons_self first,
        ih rest fun child hchild => hparts child (List.mem_cons_of_mem _ hchild), ?_⟩
      exact first.beginWithin.start_le (rest.beginWithin fun _ _ => Written.beginWithin)

/-- Two parts in order are so with all that is recorded in them. -/
theorem Part.InOrder.start_le (h : part.InOrder other) (hpart : Written lo hi part)
    (hother : Written lo' hi' other) :
    ∀ a ∈ part.notices, ∀ b ∈ other.notices, a.start ≤ b.start := by
  rcases h with hsilent | hsilent | ⟨e, e', he, he', hahead⟩
  · simp [show part.notices = [] from hsilent]
  · simp [show other.notices = [] from hsilent]
  · have hroom := Written.beginWithin_room part hpart
    have hroom' := Written.beginWithin_room other hother
    simp only [Part.room, he, he'] at hroom hroom'
    exact (hroom.mono le_rfl hahead).start_le hroom'

/-- In a part that is written somewhere, with no part in it out of order, all that is recorded comes
in the order of the text. -/
theorem Written.ascending (part : Part) : ∀ {lo hi : Nat}, Written lo hi part →
    (∀ inner ∈ part.subtree, inner.Straight) → Ascending part.notices := by
  induction part using Part.induction with
  | step part ih =>
    intro lo hi h hstraight
    have hroom := Written.beginWithin_room part h
    obtain ⟨-, -, hinTurn, houtOfTurn⟩ := h
    rw [Part.subtree_eq] at hstraight
    have hchild : ∀ child ∈ part.parts, ∀ {lo hi}, Written lo hi child →
        Ascending child.notices := fun child hchild _ _ hwritten =>
      ih child hchild hwritten fun inner hinner =>
        hstraight inner (List.mem_cons_of_mem _ (List.mem_flatMap.mpr ⟨child, hchild, hinner⟩))
    obtain ⟨hbehind, hamong⟩ := hstraight part List.mem_cons_self
    have hturn : Ascending (part.inTurn.flatMap Part.notices) :=
      hinTurn.ascending fun child h => hchild child (Part.mem_parts_of_mem_inTurn h)
    have hlate : Ascending (part.outOfTurn.flatMap Part.notices) := by
      rw [Ascending, List.pairwise_flatMap]
      refine ⟨fun child h => ?_, ?_⟩
      · exact hchild child (Part.mem_parts_of_mem_outOfTurn h) (houtOfTurn child h)
      · exact hamong.imp_of_mem fun ha hb h => h.start_le (houtOfTurn _ ha) (houtOfTurn _ hb)
    rw [Part.notices_eq] at hroom ⊢
    refine List.pairwise_append.mpr ⟨?_, List.pairwise_append.mpr ⟨hturn, hlate, ?_⟩, ?_⟩
    · cases part.notice? <;> simp
    · intro a ha b hb
      obtain ⟨child, hmem, ha⟩ := List.mem_flatMap.mp ha
      obtain ⟨late, hmem', hb⟩ := List.mem_flatMap.mp hb
      obtain ⟨lo, hi, hwritten⟩ := hinTurn.exists_written hmem
      exact (hbehind child hmem late hmem').start_le hwritten (houtOfTurn late hmem') a ha b hb
    · -- what is recorded at the part itself begins where the part does
      intro a ha b hb
      rw [start_of_notice?_eq_some lo hi (Option.mem_toList.mp ha)]
      exact (hroom.2 b (List.mem_append_right _ hb)).1

end Order

end MapLint.Lint

namespace MapLint.Script.Program

open MapLint.Lint

/-- The items of the program are written one behind the other. -/
def LaidOut (p : Program) : Prop := ∃ stop, WrittenInTurn 0 stop p.parts

/-- No part of the program brings what is recorded out of order. -/
def Straight (p : Program) : Prop := ∀ part ∈ p.tree, part.Straight

end MapLint.Script.Program

namespace MapLint.Lint

open MapLint.Script

/-! ## The order of events -/

theorem map_notice_programEvents (p : Program) :
    (programEvents p).map Event.notice = p.parts.flatMap Part.notices := by
  rw [programEvents_eq, List.map_flatMap]
  exact List.flatMap_congr fun part _ => map_notice_events part _

theorem pairwise_start_programEvents {p : Program} (hlaid : p.LaidOut) (hstraight : p.Straight) :
    (programEvents p).Pairwise fun a b => a.start ≤ b.start := by
  obtain ⟨stop, hwritten⟩ := hlaid
  have hascending : Ascending (p.parts.flatMap Part.notices) :=
    hwritten.ascending fun part hpart _ _ h => Written.ascending part h fun inner hinner =>
      hstraight inner (List.mem_flatMap.mpr ⟨part, hpart, hinner⟩)
  rw [← map_notice_programEvents, Ascending, List.pairwise_map] at hascending
  simpa only [Event.start_notice] using hascending

/-! ## The order of events and what is found -/

section Suppression

variable {before events : List Event}

theorem openCalls_append_of_assigned {span : Span} (h : .receiverAssigned span ∈ before) :
    openCalls (before ++ events) = openCalls before := by
  induction before with
  | nil => cases h
  | cons event before ih =>
    cases event with
    | receiverAssigned _ => rfl
    | call site =>
      have hbefore : .receiverAssigned span ∈ before := by simpa using h
      exact congrArg (site :: ·) (ih hbefore)

theorem openCalls_append_of_unassigned (h : ∀ span, .receiverAssigned span ∉ before) :
    openCalls (before ++ events) = openCalls before ++ openCalls events := by
  induction before with
  | nil => rfl
  | cons event before ih =>
    cases event with
    | receiverAssigned span => exact absurd List.mem_cons_self (h span)
    | call site =>
      have hbefore : ∀ span, .receiverAssigned span ∉ before := fun span hspan =>
        h span (List.mem_cons_of_mem _ hspan)
      exact congrArg (site :: ·) (ih hbefore)

end Suppression

/-- The events of a program come in the order of the text, if no part of it stands out of order. Then
nothing is found from a call on that has an assignment to the reserved receiver before it in the text,
and a call that has all of them behind it is judged as if there were none. -/
theorem programEvents_in_text_order (p : Program) (hlaid : p.LaidOut) (hstraight : p.Straight)
    (strictness : Strictness) (source : List Char) :
    (programEvents p).Pairwise (fun a b => a.start ≤ b.start) ∧
    ∀ before site after, programEvents p = before ++ .call site :: after →
      ((∃ span, .receiverAssigned span ∈ programEvents p ∧ span.start < site.span.start) →
        findings strictness source (programEvents p) = findings strictness source before) ∧
      ((∀ span, .receiverAssigned span ∈ programEvents p → site.span.start < span.start) →
        findings strictness source (programEvents p) =
          findings strictness source before ++ findings strictness source (.call site :: after)) := by
  have horder := pairwise_start_programEvents hlaid hstraight
  refine ⟨horder, fun before site after hsplit => ?_⟩
  rw [hsplit, List.pairwise_append] at horder
  obtain ⟨-, hfrom, hacross⟩ := horder
  rw [hsplit]
  constructor
  · rintro ⟨span, hmem, hlt⟩
    -- all that is walked behind the call starts behind it
    have hbefore : .receiverAssigned span ∈ before := by
      rcases List.mem_append.mp hmem with hbefore | hmem
      · exact hbefore
      · have hafter : .receiverAssigned span ∈ after := by simpa using hmem
        have hle : site.span.start ≤ span.start := List.rel_of_pairwise_cons hfrom hafter
        omega
    rw [findings_eq_filterMap, findings_eq_filterMap, openCalls_append_of_assigned hbefore]
  · intro hbehind
    have hbefore : ∀ span, .receiverAssigned span ∉ before := by
      intro span hspan
      have hle : span.start ≤ site.span.start := hacross _ hspan _ List.mem_cons_self
      have hlt := hbehind span (List.mem_append_left _ hspan)
      omega
    rw [findings_eq_filterMap, findings_eq_filterMap, findings_eq_filterMap,
      openCalls_append_of_unassigned hbefore, List.filterMap_append]

/-- The call `_.map([1], f)` at an offset. -/
def mapCallAt (offset : Nat) : Expr :=
  .call ⟨offset, offset + 13⟩
    (.member ⟨offset, offset + 5⟩ (.ident ⟨offset, offset + 1⟩ "_") "map" ⟨offset + 2, offset + 5⟩)
    [.plain (.array ⟨offset + 6, offset + 9⟩ [.plain (.literal ⟨offset + 7, offset + 8⟩ false)]),
      .plain (.ident ⟨offset + 11, offset + 12⟩ "f")] []

/-- The assignment `_ = g` at an offset. -/
def assignmentAt (offset : Nat) : Expr :=
  .assign ⟨offset, offset + 5⟩ true (.ident ⟨offset, offset + 1⟩ "_" [])
    (.ident ⟨offset + 4, offset + 5⟩ "g")

/-- A script with an assignment between two calls. -/
def assignedBetween : Program :=
  ⟨false, [.stmt (.declaration (.classNamed "A" [] [mapCallAt 16])),
    .stmt (.expr 33 (assignmentAt 33)), .stmt (.expr 40 (mapCallAt 40))]⟩

def assignedBetweenText : List Char :=
  "class A extends _.map([1], f) {}\n_ = g;\n_.map([1], f);".toList

theorem written_ident (position : Position) (name : String) {lo hi : Nat} {span : Span}
    (hlo : lo ≤ span.start) (hspan : span.start ≤ span.stop) (hhi : span.stop ≤ hi) :
    Written lo hi (.expr position (.ident span name)) :=
  .of_inTurn rfl hlo hhi (.nil hspan)

theorem written_mapCallAt (position : Position) {offset lo hi : Nat} (hlo : lo ≤ offset)
    (hhi : offset + 13 ≤ hi) : Written lo hi (.expr position (mapCallAt offset)) := by
  have hcallee : Written offset (offset + 5) (.expr .operand (.member ⟨offset, offset + 5⟩
      (.ident ⟨offset, offset + 1⟩ "_") "map" ⟨offset + 2, offset + 5⟩)) := by
    refine .of_inTurn rfl le_rfl le_rfl (.cons (offset + 1) ?_ (.nil (by simp [Expr.span])))
    exact written_ident _ _ le_rfl (by simp) le_rfl
  have hsequence : Written (offset + 5) (offset + 9) (.expr .standalone (.array
      ⟨offset + 6, offset + 9⟩ [.plain (.literal ⟨offset + 7, offset + 8⟩ false)])) := by
    refine .of_inTurn rfl (by simp [Expr.span]) le_rfl
      (.cons (offset + 8) ?_ (.nil (by simp [Expr.span])))
    exact .of_inTurn rfl (by simp [Expr.span]) le_rfl (.nil (by simp [Expr.span]))
  have hcallback : Written (offset + 9) (offset + 12) (.expr .standalone (.ident
      ⟨offset + 11, offset + 12⟩ "f")) :=
    written_ident _ _ (by simp) (by simp) le_rfl
  exact .of_inTurn rfl hlo hhi
    (.cons _ hcallee (.cons _ hsequence (.cons _ hcallback (.nil (Nat.le_succ _)))))

theorem laidOut_assignedBetween : assignedBetween.LaidOut := by
  have hclass : Written 0 33 (.statement false (.declaration (.classNamed "A" [] [mapCallAt 16]))) := by
    refine .of_inTurn rfl le_rfl le_rfl (.cons 33 ?_ (.nil le_rfl))
    refine .intro le_rfl le_rfl (.nil (by decide)) fun child hchild => ?_
    obtain rfl := List.mem_singleton.mp hchild
    exact written_mapCallAt .operand (by decide) (by decide)
  have hassign : Written 33 40 (.statement true (.expr 33 (assignmentAt 33))) := by
    refine .of_inTurn rfl le_rfl le_rfl (.cons 40 ?_ (.nil le_rfl))
    refine .of_inTurn rfl le_rfl (by decide) (.cons 34 ?_ (.cons 38 ?_ (.nil (by decide))))
    · exact .of_inTurn rfl le_rfl le_rfl (.nil (by decide))
    · exact written_ident _ _ (by decide) (by decide) le_rfl
  have hcall : Written 40 53 (.statement true (.expr 40 (mapCallAt 40))) := by
    refine .of_inTurn rfl le_rfl le_rfl (.cons 53 ?_ (.nil le_rfl))
    exact written_mapCallAt .standalone le_rfl le_rfl
  exact ⟨53, .cons 33 hclass (.cons 40 hassign (.cons 53 hcall (.nil le_rfl)))⟩

theorem straight_assignedBetween : assignedBetween.Straight := by
  refine fun part hpart => Part.straight_of_sole ?_
  revert part
  simp [Program.tree, assignedBetween, Program.parts, moduleItemsParts, moduleItemParts,
    Part.subtree_eq, Part.parts, Node.parts, stmtParts, declParts, membersParts, operandParts,
    exprParts, mapCallAt, assignmentAt, patternParts, itemParts, Part.outOfTurn, Node.outOfTurn]

/-- The call in front of the assignment is found, though it is out of turn in its class, and the call
behind the assignment is not. -/
theorem found_before_assignment :
    assignedBetween.LaidOut ∧ assignedBetween.Straight ∧
    (programEvents assignedBetween).Pairwise (fun a b => a.start ≤ b.start) ∧
    ∃ first second, programEvents assignedBetween =
        [.call first, .receiverAssigned ⟨33, 38⟩, .call second] ∧
      findings .strict assignedBetweenText (programEvents assignedBetween) =
        findings .strict assignedBetweenText [.call first, .receiverAssigned ⟨33, 38⟩] ∧
      (findings .strict assignedBetweenText (programEvents assignedBetween)).map Finding.edit =
        [⟨⟨16, 29⟩, "[1].map(f)".toList⟩] := by
  obtain ⟨horder, hsplit⟩ := programEvents_in_text_order assignedBetween laidOut_assignedBetween
    straight_assignedBetween .strict assignedBetweenText
  have hsecond := (hsplit [_, _] _ [] rfl).1 ⟨⟨33, 38⟩, .tail _ (.head _), by decide⟩
  refine ⟨laidOut_assignedBetween, straight_assignedBetween, horder, _, _, rfl, hsecond, ?_⟩
  rw [hsecond]
  decide

set_option maxRecDepth 100000 in
/-- The members of a class are walked before what the class extends. So the call is recorded before
the assignment that stands in front of it, and it is found. -/
theorem heritage_walked_last :
    ((parseSource "a.js" "class A extends (_ = B) { m() { _.map([1], f); } }".toList).toOption.map
        fun source => (programEvents source.program).map Event.start) = some [32, 17] ∧
    ((parseSource "a.js" "class A extends (_ = B) { m() { _.map([1], f); } }".toList).toOption.map
        fun source => (source.findings .strict).map Finding.edit) =
      some [⟨⟨32, 45⟩, "[1].map(f)".toList⟩] := by
  decide +kernel

end MapLint.Lint
