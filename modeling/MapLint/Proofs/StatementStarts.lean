import Mathlib.Data.List.Pairwise
import MapLint.Proofs.ListedStatements
import MapLint.Proofs.OutermostEdits

/-!
# Which calls open a statement

A call opens a statement if it begins where an expression statement begins that follows another one in its list.
The walk does not look for such a statement. It compares the beginning of the call with the beginning that it
noted last, and forgets that one while it is in another list. The two come to the same because spans nest: a
statement and a call that begin at one offset lie in each other, and only a brace, which takes room, could bring
another statement between them.

## Architecture

- `Takes` is what it means for a part to take a stretch of the text: its parts take stretches in there, apart
  from each other, and those of a block are behind its brace; `Program.SpansNest` says this of a program;
- `Takes.exists_last` goes down a trail, `Takes.start_lt` says that a statement behind a brace begins later;
- `Takes.trails_of_same_start` says that two trails to what begins at one offset are one way down;
- `call_opens_statement_iff` joins this with what the walk has noted at the call.
-/

namespace MapLint.Span

/-- The spans have nothing in common. -/
def Apart (a b : Span) : Prop := a.stop ≤ b.start ∨ b.stop ≤ a.start

instance (a b : Span) : Decidable (a.Apart b) :=
  inferInstanceAs (Decidable (a.stop ≤ b.start ∨ b.stop ≤ a.start))

theorem Apart.symm {a b : Span} (h : a.Apart b) : b.Apart a := Or.symm h

theorem Within.trans {a b c : Span} (hab : a.Within b) (hbc : b.Within c) : a.Within c :=
  ⟨Nat.le_trans hbc.1 hab.1, Nat.le_trans hab.2 hbc.2⟩

end MapLint.Span

namespace MapLint.Lint

open MapLint.Script

/-! ## Stretches of the text -/

namespace Node

/-- What is known of the stretch of text that a node takes. An expression takes its span, which is not empty, and
an expression statement begins where it says. -/
def Fits (span : Span) : Node → Prop
  | .expr e => e.span = span ∧ span.start < span.stop
  | .stmt (.expr start _) => start = span.start
  | _ => True

/-- Where in its stretch the parts of a node stand. Those of a block are behind its brace. -/
def interior (span : Span) : Node → Span
  | .block _ => ⟨span.start + 1, span.stop⟩
  | _ => span

/-- The offset at which an expression or an expression statement says that it begins. -/
def start? : Node → Option Nat
  | .expr e => some e.span.start
  | .stmt (.expr start _) => some start
  | _ => none

theorem inline_of_start? {node : Node} {start : Nat} (h : node.start? = some start) :
    node.inline = true := by
  cases node with
  | expr e => rfl
  | stmt stmt =>
    cases stmt with
    | expr => rfl
    | _ => cases h
  | _ => cases h

theorem interior_within (span : Span) (node : Node) : (node.interior span).Within span := by
  unfold interior
  split
  · exact ⟨Nat.le_succ _, Nat.le_refl _⟩
  · exact ⟨Nat.le_refl _, Nat.le_refl _⟩

end Node

/-- The part takes this stretch of the text. Its parts take stretches inside, apart from each other and in any
order. -/
inductive Takes : Span → Part → Prop where
  | intro {span : Span} {part : Part} (places : List (Span × Part)) (fits : part.node.Fits span)
      (parts : places.map Prod.snd = part.parts)
      (within : ∀ place ∈ places, place.1.Within (part.node.interior span))
      (apart : places.Pairwise fun a b => a.1.Apart b.1)
      (inner : ∀ place ∈ places, Takes place.1 place.2) : Takes span part

end MapLint.Lint

namespace MapLint.Script.Program

open MapLint.Lint

/-- The spans of the program nest. Its items are laid out like those of a namespace. -/
def SpansNest (p : Program) : Prop := ∃ span, Takes span (.of (.decl (.space p.items)))

end MapLint.Script.Program

namespace MapLint.Lint

open MapLint.Script

section Takes

variable {span : Span} {part child other last : Part} {trail : List Part} {start : Nat}

/-- Two parts of one part are at the same place or at places apart. -/
theorem Takes.same_or_apart (h : Takes span part) (hchild : child ∈ part.parts)
    (hother : other ∈ part.parts) :
    ∃ room room', room.Within (part.node.interior span) ∧ Takes room child ∧ Takes room' other ∧
      (child = other ∨ room.Apart room') := by
  obtain ⟨places, -, hparts, hwithin, hapart, hinner⟩ := h
  rw [← hparts] at hchild hother
  obtain ⟨⟨room, _⟩, hplace, rfl⟩ := List.mem_map.mp hchild
  obtain ⟨⟨room', _⟩, hplace', rfl⟩ := List.mem_map.mp hother
  refine ⟨room, room', hwithin _ hplace, hinner _ hplace, hinner _ hplace', ?_⟩
  refine or_iff_not_imp_left.mpr fun hne => ?_
  have hsymm : Std.Symm fun a b : Span × Part => a.1.Apart b.1 := ⟨fun _ _ h => h.symm⟩
  exact hapart.forall hplace hplace' fun heq => hne (congrArg Prod.snd heq)

/-- A part of a part has a place. -/
theorem Takes.exists_place (h : Takes span part) (hchild : child ∈ part.parts) :
    ∃ room, room.Within (part.node.interior span) ∧ Takes room child := by
  obtain ⟨room, -, hwithin, hroom, -⟩ := h.same_or_apart hchild hchild
  exact ⟨room, hwithin, hroom⟩

/-- What a trail from a part leads to has its place in that of the part. -/
theorem Takes.exists_last (h : Takes span part) (htrail : IsTrail part.parts trail)
    (hlast : (part :: trail).getLast? = some last) : ∃ room, room.Within span ∧ Takes room last := by
  induction trail generalizing part span with
  | nil =>
    obtain rfl := Option.some.inj hlast
    exact ⟨span, ⟨Nat.le_refl _, Nat.le_refl _⟩, h⟩
  | cons child trail ih =>
    obtain ⟨room, hwithin, hroom⟩ := h.exists_place htrail.1
    rw [List.getLast?_cons_cons] at hlast
    obtain ⟨inner, hinner, hlast⟩ := ih hroom htrail.2 hlast
    exact ⟨inner, hinner.trans (hwithin.trans (part.node.interior_within span)), hlast⟩

theorem Takes.fits (h : Takes span part) : part.node.Fits span := by
  obtain ⟨-, hfits, -, -, -, -⟩ := h
  exact hfits

theorem Takes.expr {e : Expr} (h : Takes span part) (hnode : part.node = .expr e) :
    e.span.start = span.start ∧ span.start < span.stop := by
  have hfits := h.fits
  rw [hnode] at hfits
  exact ⟨congrArg Span.start hfits.1, hfits.2⟩

/-- What says where it begins takes some room there. -/
theorem Takes.start_eq (h : Takes span part) (hstart : part.node.start? = some start) :
    start = span.start ∧ span.start < span.stop := by
  cases hnode : part.node with
  | expr e =>
    rw [hnode] at hstart
    obtain rfl := Option.some.inj hstart
    exact h.expr hnode
  | stmt stmt =>
    rw [hnode] at hstart
    cases stmt with
    | expr begin value =>
      obtain rfl := Option.some.inj hstart
      have hfits := h.fits
      -- the statement has at least the room that its expression takes
      have hvalue : Part.expr .standalone value ∈ part.parts := by
        rw [Part.parts, hnode]
        exact List.mem_singleton_self _
      obtain ⟨room, hwithin, hroom⟩ := h.exists_place hvalue
      have hlt := (hroom.expr rfl).2
      rw [hnode] at hfits hwithin
      have hleft : span.start ≤ room.start := hwithin.1
      have hright : room.stop ≤ span.stop := hwithin.2
      exact ⟨hfits, by omega⟩
    | _ => cases hstart
  | _ =>
    rw [hnode] at hstart
    cases hstart

/-- What comes behind a statement on the way down from an expression begins later, because the statement is
behind a brace. -/
theorem Takes.start_lt (h : Takes span part) (hinline : part.node.inline = true)
    (htrail : IsTrail part.parts trail) (hlast : (part :: trail).getLast? = some last)
    (hstmt : ∃ further ∈ trail, further.node.isStmt = true) :
    ∃ room, span.start < room.start ∧ Takes room last := by
  induction trail generalizing part span with
  | nil =>
    obtain ⟨_, hfurther, -⟩ := hstmt
    cases hfurther
  | cons child trail ih =>
    obtain ⟨hchild, htrail⟩ := htrail
    obtain ⟨room, hwithin, hroom⟩ := h.exists_place hchild
    rw [List.getLast?_cons_cons] at hlast
    rcases inExpr_or_listed_of_inline hinline hchild with hexpr | ⟨body, -, -, hblock, -, -⟩
    · -- the statement is further down
      obtain ⟨further, hfurther, hfound⟩ := hstmt
      have hbelow : further ∈ trail := by
        rcases List.mem_cons.mp hfurther with rfl | hbelow
        · rw [Node.isStmt_of_inExpr hexpr] at hfound
          cases hfound
        · exact hbelow
      obtain ⟨inner, hlt, hinner⟩ :=
        ih hroom (Node.inline_of_inExpr hexpr) htrail hlast ⟨further, hbelow, hfound⟩
      have hle := (hwithin.trans (part.node.interior_within span)).1
      exact ⟨inner, by omega, hinner⟩
    · obtain ⟨inner, hinner, hplace⟩ := hroom.exists_last htrail hlast
      have hle := hinner.1
      rw [hblock] at hwithin
      have hbrace : span.start + 1 ≤ room.start := hwithin.1
      exact ⟨inner, by omega, hplace⟩

/-- Where the way down comes to what begins at the same offset, no statement is on it. -/
theorem Takes.not_isStmt_of_same_start (h : Takes span part) (hstart : part.node.start? = some start)
    (htrail : IsTrail part.parts trail) (hlast : (part :: trail).getLast? = some last)
    (hlastStart : last.node.start? = some start) : ∀ further ∈ trail, further.node.isStmt = false := by
  intro further hfurther
  by_contra hne
  obtain ⟨room, hlt, hroom⟩ := h.start_lt (Node.inline_of_start? hstart) htrail hlast
    ⟨further, hfurther, by simpa using hne⟩
  have hfirst := (h.start_eq hstart).1
  have hsecond := (hroom.start_eq hlastStart).1
  omega

/-- Two trails to what begins at one offset go the same way until one of them ends, and there is no statement on
the rest of the other. Induction on the first of them. -/
theorem Takes.trails_of_same_start {trail' : List Part} {last' : Part} (h : Takes span part)
    (htrail : IsTrail part.parts trail) (hlast : trail.getLast? = some last)
    (hstart : last.node.start? = some start) (htrail' : IsTrail part.parts trail')
    (hlast' : trail'.getLast? = some last') (hstart' : last'.node.start? = some start) :
    ∃ inner, (trail = trail' ++ inner ∨ trail' = trail ++ inner) ∧
      ∀ further ∈ inner, further.node.isStmt = false := by
  induction trail generalizing part span trail' with
  | nil => cases hlast
  | cons child trail ih =>
    cases trail' with
    | nil => cases hlast'
    | cons child' trail' =>
      obtain ⟨room, room', -, hroom, hroom', hsame⟩ := h.same_or_apart htrail.1 htrail'.1
      obtain ⟨place, hplace, hend⟩ := hroom.exists_last htrail.2 hlast
      obtain ⟨place', hplace', hend'⟩ := hroom'.exists_last htrail'.2 hlast'
      have hbegin := hend.start_eq hstart
      have hbegin' := hend'.start_eq hstart'
      -- what begins at one offset cannot be at places apart
      have hone : child = child' := by
        refine hsame.resolve_right fun hapart => ?_
        simp only [Span.Apart, Span.Within] at hapart hplace hplace'
        omega
      subst hone
      cases trail' with
      | nil =>
        obtain rfl := Option.some.inj hlast'
        exact ⟨trail, .inl rfl, hroom.not_isStmt_of_same_start hstart' htrail.2 hlast hstart⟩
      | cons next' trail' =>
        cases trail with
        | nil =>
          obtain rfl := Option.some.inj hlast
          exact ⟨next' :: trail', .inr rfl,
            hroom.not_isStmt_of_same_start hstart htrail'.2 hlast' hstart'⟩
        | cons next trail =>
          rw [List.getLast?_cons_cons] at hlast hlast'
          obtain ⟨inner, hinner, hstmt⟩ := ih hroom htrail.2 hlast htrail'.2 hlast'
          exact ⟨inner, hinner.imp (congrArg (child :: ·)) (congrArg (child :: ·)), hstmt⟩

end Takes

/-! ## Calls that open a statement -/

section Calls

variable {p : Program} {trail : List Part} {e : Expr} {site : CallSite}

/-- A call is marked when what is seen at it is where it begins, and it is recorded with its own span. -/
theorem Recorded.opensStatement_iff (h : Recorded p trail e site) :
    e.span = site.span ∧
      (site.opensStatement = true ↔ (p.surroundings.along trail).head = some site.span.start) := by
  obtain ⟨-, last, -, hlast, hown⟩ := h
  obtain ⟨span, callee, args, types, hnode, hspan, -⟩ := call_mem_ownEvents hown
  obtain rfl : e = .call span callee args types := Node.expr.inj (hlast.symm.trans hnode)
  refine ⟨hspan.symm, ?_⟩
  simp only [Part.ownEvents, hnode, callEvent] at hown
  split at hown
  case h_1 =>
    cases List.mem_singleton.mp hown
    exact beq_iff_eq
  case h_2 => cases hown

/-- The innermost statement around a call decides whether the call is marked. -/
theorem Recorded.opensStatement_iff_innermost (h : Recorded p trail e site) :
    site.opensStatement = true ↔ ∃ outer stmt inner value, trail = outer ++ stmt :: inner ∧
      stmt.follower? = some (.expr site.span.start value) ∧
        ∀ further ∈ inner, further.node.isStmt = false := by
  rw [h.opensStatement_iff.2]
  exact head_along_eq_some_iff h.isTrail

/-- A marked call begins with a statement that follows another one. -/
theorem Recorded.mem_followers (h : Recorded p trail e site) (hopens : site.opensStatement = true) :
    ∃ value, .expr site.span.start value ∈ p.followers := by
  obtain ⟨outer, stmt, inner, value, rfl, hfollower, -⟩ := h.opensStatement_iff_innermost.mp hopens
  have htrail : IsTrail p.parts (outer ++ [stmt]) := (isTrail_append_cons.mp h.isTrail).1
  exact ⟨value, mem_followers_iff.mpr ⟨_, stmt, htrail, List.getLast?_concat, hfollower⟩⟩

/-- Where spans nest, a call that begins with such a statement is marked, because it is in the statement. -/
theorem Recorded.opensStatement_of_mem_followers (h : Recorded p trail e site) (hnest : p.SpansNest)
    {value : Expr} (hvalue : .expr site.span.start value ∈ p.followers) : site.opensStatement = true := by
  obtain ⟨span, hspan⟩ := hnest
  obtain ⟨toStmt, stmt, htoStmt, hstmt, hfollower⟩ := mem_followers_iff.mp hvalue
  obtain ⟨-, hnode⟩ := Part.follower?_eq_some_iff.mp hfollower
  obtain ⟨last, hlast, he, -⟩ := h.atEnd
  have hbegin : last.node.start? = some site.span.start := by
    rw [he, ← h.opensStatement_iff.1]
    rfl
  have hstmtBegin : stmt.node.start? = some site.span.start := by
    rw [hnode]
    rfl
  obtain ⟨inner, hmeet, hinner⟩ :=
    hspan.trails_of_same_start h.isTrail hlast hbegin htoStmt hstmt hstmtBegin
  have heq : trail = toStmt ++ inner := by
    rcases hmeet with heq | hshort
    · exact heq
    · -- behind the call the trail to the statement is at its end
      cases inner with
      | nil => simpa using hshort.symm
      | cons next inner =>
        rw [hshort, List.getLast?_append_cons] at hstmt
        have hfound := hinner stmt (List.mem_of_getLast? hstmt)
        rw [hnode] at hfound
        cases hfound
  obtain ⟨outer, rfl⟩ := List.getLast?_eq_some_iff.mp hstmt
  refine h.opensStatement_iff_innermost.mpr ⟨outer, stmt, inner, value, ?_, hfollower, hinner⟩
  rw [heq, List.append_assoc]
  rfl

/-- In a program whose spans nest, a recorded call is marked as opening a statement exactly when an expression
statement that follows another one in its list begins where the call does. And of all statements only the
innermost one around the call counts, which has to be an element of a list. So the body of an `if`, of a loop or
of a label does not mark a call, and neither does what stands behind braces in the same expression. -/
theorem call_opens_statement_iff (p : Program) (hnest : p.SpansNest)
    (hsite : Event.call site ∈ programEvents p) :
    (site.opensStatement = true ↔ ∃ value, .expr site.span.start value ∈ p.followers) ∧
    ∀ trail e, Recorded p trail e site →
      (site.opensStatement = true ↔ ∃ outer stmt inner value, trail = outer ++ stmt :: inner ∧
        (stmt.listed = some true ∧ stmt.node = .stmt (.expr site.span.start value)) ∧
          ∀ further ∈ inner, further.node.isStmt = false) := by
  obtain ⟨trail, e, hcall⟩ := call_mem_programEvents_iff.mp hsite
  refine ⟨⟨hcall.mem_followers, fun ⟨value, hvalue⟩ => ?_⟩, fun trail e hcall => ?_⟩
  · exact hcall.opensStatement_of_mem_followers hnest hvalue
  · simp only [hcall.opensStatement_iff_innermost, Part.follower?_eq_some_iff]

end Calls

/-- The call `xs.map(f)` at an offset, for names of two letters and of one. -/
def methodCallAt (offset : Nat) (receiver argument : String) : Expr :=
  .call ⟨offset, offset + 9⟩
    (.member ⟨offset, offset + 6⟩ (.ident ⟨offset, offset + 2⟩ receiver) "map" ⟨offset + 3, offset + 6⟩)
    [.plain (.ident ⟨offset + 7, offset + 8⟩ argument)] []

/-- The statements in `{ if (b) ys.map(f); zs.map(g); }`. -/
def branchThenCall : List Stmt :=
  [.choice (.ident ⟨24, 25⟩ "b") (.expr 27 (methodCallAt 27 "ys" "f")) .inert,
    .expr 38 (methodCallAt 38 "zs" "g")]

/-- The call `xs.map(() => { if (b) ys.map(f); zs.map(g); })`. -/
def callOfArrow : Expr :=
  .call ⟨5, 51⟩ (.member ⟨5, 11⟩ (.ident ⟨5, 7⟩ "xs") "map" ⟨8, 11⟩)
    [.plain (.arrow ⟨12, 50⟩ [] (.block branchThenCall))] []

/-- The script that makes this call in its second statement, behind `a();`. -/
def callsInCallback : Program :=
  ⟨false, [.stmt (.expr 0 (.call ⟨0, 3⟩ (.ident ⟨0, 1⟩ "a") [] [])), .stmt (.expr 5 callOfArrow)]⟩

theorem takes_ident (position : Position) (name : String) {span : Span} (h : span.start < span.stop) :
    Takes span (.expr position (.ident span name)) :=
  .intro [] ⟨rfl, h⟩ rfl (by simp) .nil (by simp)

theorem takes_member (position : Position) (name property : String) (nameSpan : Span) {start mid stop : Nat}
    (hname : start < mid) (hstop : mid ≤ stop) :
    Takes ⟨start, stop⟩ (.expr position (.member ⟨start, stop⟩ (.ident ⟨start, mid⟩ name) property nameSpan)) := by
  refine .intro [(⟨start, mid⟩, .expr .operand (.ident ⟨start, mid⟩ name))] ⟨rfl, ?_⟩ rfl ?_
    (List.pairwise_singleton _ _) ?_
  · show start < stop
    omega
  · simpa [Node.interior, Span.Within] using hstop
  · simpa using takes_ident .operand name hname

theorem takes_methodCallAt (position : Position) (offset : Nat) (receiver argument : String) :
    Takes ⟨offset, offset + 9⟩ (.expr position (methodCallAt offset receiver argument)) := by
  refine .intro [(⟨offset, offset + 6⟩, _), (⟨offset + 7, offset + 8⟩, _)] ⟨rfl, ?_⟩ rfl ?_ ?_ ?_
  · show offset < offset + 9
    omega
  · simp [Node.interior, Span.Within, methodCallAt]
  · simp [Span.Apart]
  · refine List.forall_mem_cons.mpr ⟨takes_member _ _ _ _ ?_ ?_, List.forall_mem_singleton.mpr ?_⟩
    · omega
    · omega
    · exact takes_ident .standalone argument (Nat.lt_succ_self _)

theorem takes_exprStmt {stmt : Part} {start stop : Nat} {value : Expr}
    (hnode : stmt.node = .stmt (.expr start value))
    (hvalue : Takes ⟨start, stop⟩ (.expr .standalone value)) : Takes ⟨start, stop⟩ stmt := by
  refine .intro [(⟨start, stop⟩, .expr .standalone value)] ?_ ?_ ?_ (List.pairwise_singleton _ _) ?_
  · rw [hnode]
    rfl
  · rw [Part.parts, hnode]
    rfl
  · rw [hnode]
    simp [Node.interior, Span.Within]
  · simpa using hvalue

theorem spansNest_callsInCallback : callsInCallback.SpansNest := by
  have hplain : Takes ⟨0, 3⟩ (.expr .standalone (.call ⟨0, 3⟩ (.ident ⟨0, 1⟩ "a") [] [])) := by
    refine .intro [(⟨0, 1⟩, _)] ⟨rfl, by decide⟩ rfl (by decide) (by decide) ?_
    exact List.forall_mem_singleton.mpr (takes_ident .operand "a" (by decide))
  have hbranch : Takes ⟨20, 37⟩ ((Part.statement false (.choice (.ident ⟨24, 25⟩ "b")
      (.expr 27 (methodCallAt 27 "ys" "f")) .inert)).inside []) := by
    refine .intro [(⟨24, 25⟩, _), (⟨27, 36⟩, _), (⟨37, 37⟩, _)] trivial rfl (by decide) (by decide) ?_
    refine List.forall_mem_cons.mpr ⟨takes_ident .condition "b" (by decide), List.forall_mem_cons.mpr
      ⟨takes_exprStmt rfl (takes_methodCallAt .standalone 27 "ys" "f"), List.forall_mem_singleton.mpr ?_⟩⟩
    exact .intro [] trivial rfl (by simp) .nil (by simp)
  have hblock : Takes ⟨18, 49⟩ ((Part.of (.block branchThenCall)).inside []) := by
    refine .intro [(⟨20, 37⟩, _), (⟨38, 47⟩, _)] trivial rfl (by decide) (by decide) ?_
    refine List.forall_mem_cons.mpr ⟨hbranch, List.forall_mem_singleton.mpr ?_⟩
    exact takes_exprStmt rfl (takes_methodCallAt .standalone 38 "zs" "g")
  have harrow : Takes ⟨12, 50⟩ (.expr .standalone (.arrow ⟨12, 50⟩ [] (.block branchThenCall))) := by
    refine .intro [(⟨18, 49⟩, _)] ⟨rfl, by decide⟩ rfl (by decide) (by decide) ?_
    exact List.forall_mem_singleton.mpr hblock
  have hcall : Takes ⟨5, 51⟩ (.expr .standalone callOfArrow) := by
    refine .intro [(⟨5, 11⟩, _), (⟨12, 50⟩, _)] ⟨rfl, by decide⟩ rfl (by decide) (by decide) ?_
    refine List.forall_mem_cons.mpr ⟨?_, List.forall_mem_singleton.mpr harrow⟩
    exact takes_member .operand "xs" "map" ⟨8, 11⟩ (by decide) (by decide)
  refine ⟨⟨0, 52⟩, .intro [(⟨0, 3⟩, _), (⟨5, 51⟩, _)] trivial rfl (by decide) (by decide) ?_⟩
  exact List.forall_mem_cons.mpr ⟨takes_exprStmt rfl hplain,
    List.forall_mem_singleton.mpr (takes_exprStmt rfl hcall)⟩

/-- The text is `a();`, a line end and `xs.map(() => { if (b) ys.map(f); zs.map(g); });`. The call of `xs` and
that of `zs` open a statement. The call of `ys` does not, though it begins with one. -/
theorem calls_in_callback_open :
    callsInCallback.SpansNest ∧ ∃ outer branch inner,
      programEvents callsInCallback = [.call outer, .call branch, .call inner] ∧
      outer.opensStatement = true ∧ branch.opensStatement = false ∧ inner.opensStatement = true := by
  have hfollowers : callsInCallback.followers =
      [.expr 5 callOfArrow, .expr 38 (methodCallAt 38 "zs" "g")] := by
    simp [Program.followers, Program.tree, callsInCallback, Program.parts, moduleItemsParts, moduleItemParts,
      Part.subtree_eq, Part.parts, Node.parts, stmtParts, exprParts, itemParts, callOfArrow, methodCallAt,
      operandParts, patternsParts, arrowBodyPart, stmtsParts, branchThenCall, Node.followers, itemStmt?]
  have hopens : ∀ site, Event.call site ∈ programEvents callsInCallback →
      (site.opensStatement = true ↔ site.span.start = 5 ∨ site.span.start = 38) := by
    intro site hsite
    rw [(call_opens_statement_iff callsInCallback spansNest_callsInCallback hsite).1, hfollowers]
    simp [exists_or]
  refine ⟨spansNest_callsInCallback, _, _, _, rfl, ?_, ?_, ?_⟩
  · exact (hopens _ (.head _)).mpr (.inl rfl)
  · refine Bool.eq_false_iff.mpr fun h => ?_
    have hstart : (27 : Nat) = 5 ∨ (27 : Nat) = 38 := (hopens _ (.tail _ (.head _))).mp h
    omega
  · exact (hopens _ (.tail _ (.tail _ (.head _)))).mpr (.inr rfl)

end MapLint.Lint
