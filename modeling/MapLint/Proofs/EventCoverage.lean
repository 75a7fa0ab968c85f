import MapLint.Proofs.EventTrails

/-!
# Nothing is missed and nothing is made up

Which nodes of a tree are recorded does not depend on where they stand: a call of a method with a
fixed name on a variable, and an assignment to the reserved variable. The events of a program are
those of all such nodes of its tree, each of them once and in pre-order.

## Architecture

- a `Notice` is what an event tells of the node that it comes from, apart from its surroundings, and
  `Node.notice?` reads it off the node;
- `map_notice_ownEvents` says that this is what the walk records at a node, `map_notice_events`
  carries it over to all that is in a part;
- `parts_behind` is what pre-order means: the parts of a part stand right behind it;
- `programEvents_exact` joins the two for every program.
-/

namespace MapLint.Script.Program

open MapLint.Lint

/-- All parts of a program, at any depth, in pre-order. -/
def tree (p : Program) : List Part := p.parts.flatMap Part.subtree

end MapLint.Script.Program

namespace MapLint.Lint

open MapLint.Script

/-! ## What is told of a node -/

/-- What an event tells of the node that it comes from, wherever that stands. -/
inductive Notice where
  | call (receiver method : String) (methodSpan span : Span) (arguments : List Span)
  | assigned (span : Span)
deriving DecidableEq

def Event.notice : Event → Notice
  | .call site =>
    .call site.receiver site.method site.methodSpan site.span (site.arguments.map Argument.span)
  | .receiverAssigned span => .assigned span

/-- What is told of a node. It has to be a call whose callee is a member with a fixed name of a
variable, or an assignment whose target is the reserved variable and nothing more. -/
def Node.notice? : Node → Option Notice
  | .expr (.call span (.member _ (.ident _ receiver) method methodSpan) args _) =>
    some (.call receiver method methodSpan span ((args.filterMap itemValue?).map Expr.span))
  | .expr (.assign span _ (.ident _ name _) _) =>
    if name = reservedReceiver then some (.assigned span) else none
  | _ => none

def Part.notice? (part : Part) : Option Notice := part.node.notice?

theorem spans_argumentsOf (scopes : Scopes) (args : List Item) :
    (argumentsOf scopes args).map Argument.span = (args.filterMap itemValue?).map Expr.span := by
  induction args with
  | nil => rfl
  | cons item args ih =>
    cases item with
    | hole => exact ih
    | plain e => exact congrArg (List.cons e.span) ih
    | spread start e => exact congrArg (List.cons e.span) ih

theorem map_notice_callEvent (s : Surroundings) (position : Position) (span : Span)
    (callee : Expr) (args : List Item) (types : List Expr) :
    (callEvent s position span args callee).map Event.notice =
      (Node.expr (.call span callee args types)).notice?.toList := by
  cases callee with
  | member memberSpan object method methodSpan =>
    cases object with
    | ident objectSpan receiver =>
      simp [callEvent, Event.notice, Node.notice?, spans_argumentsOf]
    | _ => rfl
  | _ => rfl

theorem map_notice_assignEvent (span : Span) (plain : Bool) (target : Pattern) (value : Expr) :
    (assignEvent span target).map Event.notice =
      (Node.expr (.assign span plain target value)).notice?.toList := by
  cases target with
  | ident targetSpan name types =>
    by_cases hname : name = reservedReceiver
    · simp [assignEvent, Event.notice, Node.notice?, hname]
    · simp [assignEvent, Node.notice?, hname]
  | _ => rfl

/-- What the walk records at a part is what is told of its node. -/
theorem map_notice_ownEvents (s : Surroundings) (part : Part) :
    (part.ownEvents s).map Event.notice = part.notice?.toList := by
  obtain ⟨node, position, opened, listed⟩ := part
  cases node with
  | expr e =>
    cases e with
    | call span callee args types => exact map_notice_callEvent s position span callee args types
    | assign span plain target value => exact map_notice_assignEvent span plain target value
    | _ => rfl
  | _ => rfl

/-- The events of a part come from all that is in it, in this order. -/
theorem map_notice_events (part : Part) :
    ∀ s : Surroundings, (part.events s).map Event.notice = part.subtree.filterMap Part.notice? := by
  induction part using Part.induction with
  | step part ih =>
    intro s
    -- every part has surroundings of its own, and none of them matters
    have hparts : part.parts.flatMap (fun child => (child.events (s.toward part)).map Event.notice) =
        part.parts.flatMap (fun child => child.subtree.filterMap Part.notice?) :=
      List.flatMap_congr fun child hchild => ih child hchild _
    rw [Part.events_eq, List.map_append, map_notice_ownEvents, List.map_flatMap, hparts,
      Part.subtree_eq, List.filterMap_cons, List.filterMap_flatMap]
    cases part.notice? <;> rfl

/-! ## Pre-order -/

/-- A place in the listing of several parts is a place in the listing of one of them. -/
theorem exists_split_of_flatMap {parts before after : List Part} {part : Part}
    (h : parts.flatMap Part.subtree = before ++ part :: after) :
    ∃ top ∈ parts, ∃ before' after' rest,
      top.subtree = before' ++ part :: after' ∧ after = after' ++ rest := by
  induction parts generalizing before with
  | nil => simp at h
  | cons first parts ih =>
    rw [List.flatMap_cons] at h
    rcases List.append_eq_append_iff.mp h with ⟨before', rfl, hrest⟩ | ⟨suffix, hfirst, hsuffix⟩
    · obtain ⟨top, htop, found⟩ := ih hrest
      exact ⟨top, List.mem_cons_of_mem _ htop, found⟩
    · cases suffix with
      | nil =>
        -- the place is the first one behind `first`
        have hrest : parts.flatMap Part.subtree = [] ++ part :: after := hsuffix.symm
        obtain ⟨top, htop, found⟩ := ih hrest
        exact ⟨top, List.mem_cons_of_mem _ htop, found⟩
      | cons head suffix =>
        obtain ⟨rfl, rfl⟩ := List.cons.inj hsuffix
        exact ⟨first, List.mem_cons_self, before, suffix, _, hfirst, rfl⟩

/-- In pre-order, the parts of a part with all that is in them stand right behind it. -/
theorem parts_behind {part : Part} (top : Part) :
    ∀ {before after : List Part}, top.subtree = before ++ part :: after →
      ∃ rest, after = part.parts.flatMap Part.subtree ++ rest := by
  induction top using Part.induction with
  | step top ih =>
    intro before after h
    rw [Part.subtree_eq] at h
    cases before with
    | nil =>
      obtain ⟨rfl, rfl⟩ := List.cons.inj h
      exact ⟨[], (List.append_nil _).symm⟩
    | cons _ before =>
      obtain ⟨child, hchild, before', after', rest, hsplit, rfl⟩ :=
        exists_split_of_flatMap (List.cons.inj h).2
      obtain ⟨rest', rfl⟩ := ih child hchild hsplit
      exact ⟨rest' ++ rest, List.append_assoc ..⟩

/-- The events of a program are those of the nodes of its tree of which something is told, each of
them once and in pre-order: what comes from a node stands right before what comes from its parts. -/
theorem programEvents_exact (p : Program) :
    (programEvents p).map Event.notice = p.tree.filterMap Part.notice? ∧
    ∀ before part after, p.tree = before ++ part :: after →
      ∃ rest, after = part.parts.flatMap Part.subtree ++ rest ∧
        (programEvents p).map Event.notice =
          before.filterMap Part.notice? ++ part.notice?.toList ++
            (part.parts.flatMap Part.subtree).filterMap Part.notice? ++
              rest.filterMap Part.notice? := by
  have hall : (programEvents p).map Event.notice = p.tree.filterMap Part.notice? := by
    rw [programEvents_eq, Program.tree, List.map_flatMap, List.filterMap_flatMap]
    exact List.flatMap_congr fun part _ => map_notice_events part _
  refine ⟨hall, fun before part after htree => ?_⟩
  obtain ⟨top, -, before', after', rest', hsplit, rfl⟩ := exists_split_of_flatMap htree
  obtain ⟨rest, rfl⟩ := parts_behind top hsplit
  refine ⟨rest ++ rest', List.append_assoc .., ?_⟩
  rw [hall, htree, List.filterMap_append, List.filterMap_cons, List.filterMap_append]
  cases part.notice? <;> simp

end MapLint.Lint
