import MapLint.Proofs.TreeParts
import Mathlib.Data.List.Forall2

/-!
# Where events come from

The events of a part are its own, if it has any, and then those of its parts, each under the
surroundings that the part settles for it. That is one equation for the whole walk, and everything
that is told of the events of a program follows from it: an event is among them exactly when it is
the own event of the part at the end of some trail.

## Architecture

- `Part.ownEvents` are the events of a part less those of its parts, `Surroundings.toward` is what a
  part knows of where it stands;
- `Part.events_eq` is the equation, and `programEvents_eq` the same at the top;
- `mem_programEvents_iff` is the walk along trails;
- `Recorded` ties a call in the tree to the `CallSite` that it is recorded as.
-/

namespace MapLint.Lint

open MapLint.Script

/-! ## The events of a part -/

/-- The events of a node under the given surroundings. -/
def nodeEvents (s : Surroundings) (position : Position) : Node → List Event
  | .expr e => exprEvents s position e
  | .property p => propertyEvents s p
  | .pattern p => patternEvents s p
  | .function f => functionEvents s f
  | .member m => memberEvents s m
  | .block body => stmtsEvents (s.inside (stmtsBindings body)) false body
  | .stmt stmt => stmtEvents s stmt
  | .decl d => declEvents s d

/-- What a part knows of where it stands, when its parent knows `s`. -/
def Surroundings.toward (s : Surroundings) (part : Part) : Surroundings :=
  let inner := part.opened.foldl Surroundings.inside s
  match part.listed, part.node with
  | some followsAnother, .stmt stmt => inner.listed followsAnother stmt
  | _, _ => inner

namespace Part

/-- The events of a part with all that is in it, when its parent knows `s`. -/
def events (s : Surroundings) (part : Part) : List Event :=
  nodeEvents (s.toward part) part.position part.node

/-- The event that a part is recorded as, if it is a call or an assignment of that kind. -/
def ownEvents (s : Surroundings) (part : Part) : List Event :=
  match part.node with
  | .expr (.call span callee args _) => callEvent s part.position span args callee
  | .expr (.assign span _ target _) => assignEvent span target
  | _ => []

end Part

/-! ## What groups parts lists the events of its parts -/

section Groups

variable (s : Surroundings)

@[simp]
theorem events_of (node : Node) : (Part.of node).events s = nodeEvents s .operand node := rfl

@[simp]
theorem events_expr (position : Position) (e : Expr) :
    (Part.expr position e).events s = exprEvents s position e := rfl

@[simp]
theorem events_statement (followsAnother : Bool) (stmt : Stmt) :
    (Part.statement followsAnother stmt).events s =
      stmtEvents (s.listed followsAnother stmt) stmt := rfl

@[simp]
theorem events_inside (scope : Scope) (part : Part) :
    (part.inside scope).events s = part.events (s.inside scope) := rfl

@[simp]
theorem flatMap_map_inside (scope : Scope) (parts : List Part) :
    (parts.map (Part.inside scope)).flatMap (Part.events s) =
      parts.flatMap (Part.events (s.inside scope)) := by
  simp [List.flatMap_map]

@[simp]
theorem flatMap_operandParts (es : List Expr) :
    (operandParts es).flatMap (Part.events s) = operandsEvents s es := by
  induction es with
  | nil => rfl
  | cons e es ih => simpa [operandParts, operandsEvents] using ih

@[simp]
theorem flatMap_optionParts (position : Position) (e : Option Expr) :
    (optionParts position e).flatMap (Part.events s) = optionEvents s position e := by
  cases e <;> simp [optionParts, optionEvents]

@[simp]
theorem flatMap_itemParts (position : Position) (items : List Item) :
    (items.flatMap (itemParts position)).flatMap (Part.events s) = itemsEvents s position items := by
  induction items with
  | nil => rfl
  | cons item items ih =>
    have hitem : (itemParts position item).flatMap (Part.events s) = itemEvents s position item := by
      cases item <;> simp [itemParts, itemEvents]
    simp [itemsEvents, hitem, ih]

@[simp]
theorem flatMap_patternsParts (ps : List Pattern) :
    (patternsParts ps).flatMap (Part.events s) = patternsEvents s ps := by
  induction ps with
  | nil => rfl
  | cons p ps ih => simpa [patternsParts, patternsEvents, nodeEvents] using ih

@[simp]
theorem flatMap_propertiesParts (ps : List Property) :
    (propertiesParts ps).flatMap (Part.events s) = propertiesEvents s ps := by
  induction ps with
  | nil => rfl
  | cons p ps ih => simpa [propertiesParts, propertiesEvents, nodeEvents] using ih

@[simp]
theorem flatMap_membersParts (ms : List ClassMember) :
    (membersParts ms).flatMap (Part.events s) = membersEvents s ms := by
  induction ms with
  | nil => rfl
  | cons m ms ih => simpa [membersParts, membersEvents, nodeEvents] using ih

@[simp]
theorem flatMap_fieldParts (fields : List Field) :
    (fields.flatMap fieldParts).flatMap (Part.events s) = fieldsEvents s fields := by
  induction fields with
  | nil => rfl
  | cons field fields ih =>
    have hfield : (fieldParts field).flatMap (Part.events s) = fieldEvents s field := by
      cases field <;> simp [fieldParts, fieldEvents, nodeEvents]
    simp [fieldsEvents, hfield, ih]

@[simp]
theorem flatMap_stmtsParts (followsAnother : Bool) (stmts : List Stmt) :
    (stmtsParts followsAnother stmts).flatMap (Part.events s) =
      stmtsEvents s followsAnother stmts := by
  induction stmts generalizing followsAnother with
  | nil => rfl
  | cons stmt stmts ih => simp [stmtsParts, stmtsEvents, ih]

@[simp]
theorem flatMap_declaratorParts (vars : List Declarator) :
    (vars.flatMap declaratorParts).flatMap (Part.events s) = declaratorsEvents s vars := by
  induction vars with
  | nil => rfl
  | cons var vars ih =>
    have hvar : (declaratorParts var).flatMap (Part.events s) = declaratorEvents s var := by
      cases var
      simp [declaratorParts, declaratorEvents, nodeEvents]
    simp [declaratorsEvents, hvar, ih]

@[simp]
theorem flatMap_forHeadParts (position : Position) (head : ForHead) :
    (forHeadParts position head).flatMap (Part.events s) = forHeadEvents s position head := by
  cases head <;> simp [forHeadParts, forHeadEvents, nodeEvents]

@[simp]
theorem flatMap_caseParts (cases : List Case) :
    (cases.flatMap caseParts).flatMap (Part.events s) = casesEvents s cases := by
  induction cases with
  | nil => rfl
  | cons c cs ih =>
    have hcase : (caseParts c).flatMap (Part.events s) = caseEvents s c := by
      cases c
      simp [caseParts, caseEvents]
    simp [casesEvents, hcase, ih]

@[simp]
theorem events_arrowBodyPart (body : ArrowBody) :
    (arrowBodyPart body).events s = arrowBodyEvents s body := by
  cases body <;> rfl

@[simp]
theorem flatMap_moduleItemsParts (followsAnother : Bool) (items : List ModuleItem) :
    (moduleItemsParts followsAnother items).flatMap (Part.events s) =
      moduleItemsEvents s followsAnother items := by
  induction items generalizing followsAnother with
  | nil => rfl
  | cons item items ih =>
    have hitem : (moduleItemParts followsAnother item).flatMap (Part.events s) =
        moduleItemEvents s followsAnother item := by
      cases item <;> simp [moduleItemParts, moduleItemEvents, nodeEvents]
    simp [moduleItemsParts, moduleItemsEvents, hitem, ih]

end Groups

/-! ## The equation of the walk

One lemma for each kind of node, with one case for each constructor. Only expressions have events of
their own. -/

section Nodes

variable (s : Surroundings)

theorem exprEvents_eq (position : Position) (e : Expr) :
    exprEvents s position e =
      (Part.expr position e).ownEvents s ++ (exprParts position e).flatMap (Part.events s) := by
  cases e with
  | function span name function =>
    -- a scope is opened for the name of a function even where it has none
    cases name <;> simp [exprEvents, exprParts, Part.ownEvents, nodeEvents, nameBindings]
  | _ => simp [exprEvents, exprParts, Part.ownEvents, nodeEvents]

theorem propertyEvents_eq (p : Property) :
    propertyEvents s p = (propertyParts p).flatMap (Part.events s) := by
  cases p <;> simp [propertyEvents, propertyParts, nodeEvents]

theorem patternEvents_eq (p : Pattern) :
    patternEvents s p = (patternParts p).flatMap (Part.events s) := by
  cases p <;> simp [patternEvents, patternParts, nodeEvents]

theorem functionEvents_eq (f : Function) :
    functionEvents s f = (functionParts f).flatMap (Part.events s) := by
  cases f
  simp [functionEvents, functionParts, nodeEvents]

theorem memberEvents_eq (m : ClassMember) :
    memberEvents s m = (memberParts m).flatMap (Part.events s) := by
  cases m <;> simp [memberEvents, memberParts, nodeEvents]

theorem stmtEvents_eq (stmt : Stmt) : stmtEvents s stmt = (stmtParts stmt).flatMap (Part.events s) := by
  cases stmt <;> simp [stmtEvents, stmtParts, nodeEvents]

theorem declEvents_eq (d : Decl) : declEvents s d = (declParts d).flatMap (Part.events s) := by
  cases d <;> simp [declEvents, declParts, nodeEvents]

end Nodes

/-- The events of a part are its own and then those of its parts. -/
theorem Part.events_eq (s : Surroundings) (part : Part) :
    part.events s =
      part.ownEvents (s.toward part) ++ part.parts.flatMap (Part.events (s.toward part)) := by
  rw [Part.events]
  -- what the part knows of where it stands is the same on both sides
  generalize s.toward part = inner
  obtain ⟨node, position, opened, listed⟩ := part
  cases node with
  | expr e => exact exprEvents_eq inner position e
  | property p => exact propertyEvents_eq inner p
  | pattern p => exact patternEvents_eq inner p
  | function f => exact functionEvents_eq inner f
  | member m => exact memberEvents_eq inner m
  | block body => simp [nodeEvents, ownEvents, parts, Node.parts]
  | stmt stmt => exact stmtEvents_eq inner stmt
  | decl d => exact declEvents_eq inner d

/-! ## Events along trails -/

/-- What the part at the end of a trail knows of where it stands. -/
def Surroundings.along (s : Surroundings) (trail : List Part) : Surroundings :=
  trail.foldl Surroundings.toward s

/-- An event of a part is its own, or is found by going further down. -/
theorem exists_trail_of_mem_events {event : Event} (part : Part) :
    ∀ {parts : List Part}, part ∈ parts → ∀ {s : Surroundings}, event ∈ part.events s →
      ∃ trail last, IsTrail parts (trail ++ [last]) ∧
        event ∈ last.ownEvents (s.along (trail ++ [last])) := by
  induction part using Part.induction with
  | step part ih =>
    intro parts hpart s hevent
    rw [Part.events_eq, List.mem_append, List.mem_flatMap] at hevent
    rcases hevent with hown | ⟨child, hchild, hevent⟩
    · exact ⟨[], part, ⟨hpart, trivial⟩, hown⟩
    · obtain ⟨trail, last, htrail, hown⟩ := ih child hchild hchild hevent
      exact ⟨part :: trail, last, ⟨hpart, htrail⟩, hown⟩

/-- The own events at the end of a trail are among those of the parts that it begins with. -/
theorem IsTrail.mem_events {event : Event} {parts trail : List Part} {last : Part}
    (h : IsTrail parts (trail ++ [last])) {s : Surroundings}
    (hown : event ∈ last.ownEvents (s.along (trail ++ [last]))) :
    event ∈ parts.flatMap (Part.events s) := by
  induction trail generalizing parts s with
  | nil =>
    refine List.mem_flatMap.mpr ⟨last, h.1, ?_⟩
    rw [Part.events_eq]
    exact List.mem_append_left _ hown
  | cons part trail ih =>
    refine List.mem_flatMap.mpr ⟨part, h.1, ?_⟩
    rw [Part.events_eq]
    exact List.mem_append_right _ (ih h.2 hown)

end MapLint.Lint

namespace MapLint.Script.Program

open MapLint.Lint

/-- What the parts at the top of a program know of where they stand. -/
def surroundings (p : Program) : Surroundings :=
  ⟨Scopes.global.declareAll (itemsBindings p.items), none⟩

end MapLint.Script.Program

namespace MapLint.Lint

open MapLint.Script

/-- The events of a program are those of its parts. -/
theorem programEvents_eq (p : Program) :
    programEvents p = p.parts.flatMap (Part.events p.surroundings) :=
  (flatMap_moduleItemsParts p.surroundings false p.items).symm

/-- An event of a program is the own event of a part at the end of some trail. -/
theorem mem_programEvents_iff {p : Program} {event : Event} :
    event ∈ programEvents p ↔ ∃ trail last, IsTrail p.parts (trail ++ [last]) ∧
      event ∈ last.ownEvents (p.surroundings.along (trail ++ [last])) := by
  rw [programEvents_eq]
  constructor
  · intro h
    obtain ⟨part, hpart, hevent⟩ := List.mem_flatMap.mp h
    exact exists_trail_of_mem_events part hpart hevent
  · rintro ⟨trail, last, htrail, hown⟩
    exact htrail.mem_events hown

/-! ## Calls and how they are recorded -/

/-- The expression in an element or argument. -/
def itemValue? : Item → Option Expr
  | .hole => none
  | .plain e => some e
  | .spread _ e => some e

/-- The arguments of a call as they are written. -/
def callArguments : Expr → List Expr
  | .call _ _ args _ => args.filterMap itemValue?
  | _ => []

/-- The trail leads down the program to the call `e`, which is recorded as `site`. -/
structure Recorded (p : Program) (trail : List Part) (e : Expr) (site : CallSite) : Prop where
  isTrail : IsTrail p.parts trail
  atEnd : ∃ last, trail.getLast? = some last ∧ last.node = .expr e ∧
    Event.call site ∈ last.ownEvents (p.surroundings.along trail)

/-- Only a call is recorded as a call, with its arguments as they are seen from there. -/
theorem call_mem_ownEvents {s : Surroundings} {part : Part} {site : CallSite}
    (h : Event.call site ∈ part.ownEvents s) :
    ∃ span callee args types, part.node = .expr (.call span callee args types) ∧
      site.span = span ∧ site.arguments = argumentsOf s.scopes args := by
  unfold Part.ownEvents at h
  split at h
  case h_1 span callee args types hnode =>
    refine ⟨span, callee, args, types, hnode, ?_⟩
    unfold callEvent at h
    split at h
    case h_1 =>
      cases List.mem_singleton.mp h
      exact ⟨rfl, rfl⟩
    case h_2 => cases h
  case h_2 span plain target value hnode =>
    unfold assignEvent at h
    split at h
    case h_1 =>
      split at h
      case isTrue => cases List.mem_singleton.mp h
      case isFalse => cases h
    case h_2 => cases h
  case h_3 => cases h

/-- A call is recorded as it stands in its parent. -/
theorem position_of_mem_ownEvents {s : Surroundings} {part : Part} {site : CallSite}
    (h : Event.call site ∈ part.ownEvents s) : site.position = part.position := by
  obtain ⟨span, callee, args, types, hnode, -⟩ := call_mem_ownEvents h
  simp only [Part.ownEvents, hnode, callEvent] at h
  split at h
  case h_1 =>
    cases List.mem_singleton.mp h
    rfl
  case h_2 => cases h

/-- The calls among the events of a program are those recorded at the end of some trail. -/
theorem call_mem_programEvents_iff {p : Program} {site : CallSite} :
    Event.call site ∈ programEvents p ↔ ∃ trail e, Recorded p trail e site := by
  rw [mem_programEvents_iff]
  constructor
  · rintro ⟨trail, last, htrail, hown⟩
    obtain ⟨span, callee, args, types, hnode, -⟩ := call_mem_ownEvents hown
    exact ⟨trail ++ [last], _, htrail, last, List.getLast?_concat, hnode, hown⟩
  · rintro ⟨trail, e, htrail, last, hlast, -, hown⟩
    obtain ⟨before, rfl⟩ := List.getLast?_eq_some_iff.mp hlast
    exact ⟨before, last, htrail, hown⟩

/-- The arguments of a call are recorded one by one. -/
theorem forall₂_argumentsOf (scopes : Scopes) (args : List Item) :
    List.Forall₂ (fun arg argument => argument.span = arg.span ∧
        argument.operand = operandOf scopes arg)
      (args.filterMap itemValue?) (argumentsOf scopes args) := by
  induction args with
  | nil => exact .nil
  | cons item items ih =>
    cases item with
    | hole => exact ih
    | plain e => exact .cons ⟨rfl, rfl⟩ ih
    | spread start e => exact .cons ⟨rfl, rfl⟩ ih

/-- Every argument is recorded in its place, as it is seen from the scopes around the call. -/
theorem Recorded.arguments {p : Program} {trail : List Part} {e : Expr} {site : CallSite}
    (h : Recorded p trail e site) :
    List.Forall₂ (fun arg argument => argument.span = arg.span ∧
        argument.operand = operandOf (p.surroundings.along trail).scopes arg)
      (callArguments e) site.arguments := by
  obtain ⟨-, last, -, hnode, hown⟩ := h
  obtain ⟨span, callee, args, types, hnode', -, hargs⟩ := call_mem_ownEvents hown
  obtain rfl : e = .call span callee args types := Node.expr.inj (hnode.symm.trans hnode')
  rw [hargs]
  exact forall₂_argumentsOf _ args

end MapLint.Lint
