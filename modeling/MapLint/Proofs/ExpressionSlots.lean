import MapLint.Proofs.EventTrails

/-!
# How a call stands in its surroundings

The walk hands every expression the way in which it stands in its parent. Here the same is read off
the tree from below: an expression fills a slot of its parent, the parent fills one of its own, and so
on up to the program. A call counts as a condition if its slot is that of a test, possibly with
parentheses in between; otherwise its own slot alone tells whether it stands by itself or is part of a
larger expression.

## Architecture

- `Slot` names the slots that matter, and `Node.filled` lists what fills the slots of a node;
- a `Place` is a node with all the slots on the way to it, `Program.places` lists those of a program;
- `Slot.positionIn` is the rule for one slot and `positionIn` for a way; `positionIn_eq_condition_iff`
  and `positionIn_eq_standalone_iff` say what it comes to;
- `placings_filled` is the step of the walk, `callSites_events` the walk through a part;
- `recorded_positions` tells of every call of a program how it is recorded.
-/

namespace MapLint.Lint

open MapLint.Script

/-! ## Slots -/

/-- What an expression is to its parent. -/
inductive Slot where
  /-- A statement made of the expression. -/
  | statement
  /-- What a function returns. -/
  | returned
  /-- The initial value of a variable. -/
  | initialValue
  /-- The right side of an arrow that has no block. -/
  | arrowValue
  /-- An argument of a call or of `new`, spread or not. -/
  | argument
  /-- An element of an array, spread or not. -/
  | element
  /-- The value behind a key in an object. -/
  | keyedValue
  /-- What stands between braces in markup. -/
  | braces
  /-- The right side of an assignment. -/
  | assigned
  /-- What stands in parentheses. -/
  | parens
  /-- The test of `if`, `while` or `do`. -/
  | test
  /-- The expression before the first semicolon in the head of a `for`. -/
  | loopStart
  /-- The expression between the semicolons there. -/
  | loopTest
  /-- The expression behind them. -/
  | loopStep
  /-- One of the three parts of a conditional expression. -/
  | alternative
  /-- Any other slot. -/
  | other
deriving DecidableEq

/-- The slots in which an expression decides what happens next. -/
def decidingSlots : List Slot := [.test, .loopStart, .loopTest, .loopStep, .alternative]

/-- The slots in which an expression stands by itself. -/
def standaloneSlots : List Slot :=
  [.statement, .returned, .initialValue, .arrowValue, .argument, .element, .keyedValue, .braces,
    .assigned, .parens]

/-- The innermost slot of the way decides what happens next, or it is a pair of parentheses, and what
these fill decides. -/
inductive Deciding : List Slot → Prop where
  | slot {slot : Slot} {outer : List Slot} (h : slot ∈ decidingSlots) : Deciding (slot :: outer)
  | parens {outer : List Slot} (h : Deciding outer) : Deciding (.parens :: outer)

/-- The innermost slot of the way is one in which an expression stands by itself. -/
def StandsAlone (slots : List Slot) : Prop := ∃ slot ∈ standaloneSlots, slots.head? = some slot

/-! ## What fills the slots of a node

Every field that holds nodes is listed, in the order of the fields. Nodes that are no expressions fill
slots that do not matter. -/

/-- A slot and the node that fills it. -/
abbrev Filled := Slot × Node

def otherSlots (es : List Expr) : List Filled := es.map fun e => (.other, .expr e)

def optionSlots (slot : Slot) (e : Option Expr) : List Filled := e.toList.map fun e => (slot, .expr e)

def itemSlots (plain spread : Slot) : Item → List Filled
  | .hole => []
  | .plain e => [(plain, .expr e)]
  | .spread _ e => [(spread, .expr e)]

def patternsSlots (ps : List Pattern) : List Filled := ps.map fun p => (.other, .pattern p)

def fieldSlots : Field → List Filled
  | .keyed key value => optionSlots .other key ++ [(.other, .pattern value)]
  | .shorthand _ types default => otherSlots types ++ optionSlots .other default
  | .rest inner => [(.other, .pattern inner)]

def stmtsSlots (stmts : List Stmt) : List Filled := stmts.map fun stmt => (.other, .stmt stmt)

def declaratorSlots : Declarator → List Filled
  | .mk target value => (.other, .pattern target) :: optionSlots .initialValue value

def forHeadSlots (start : Slot) : ForHead → List Filled
  | .empty => []
  | .vars _ vars => vars.flatMap declaratorSlots
  | .expr value => [(start, .expr value)]
  | .pattern target => [(.other, .pattern target)]

def caseSlots : Case → List Filled
  | .mk test body => optionSlots .other test ++ stmtsSlots body

def arrowBodySlot : ArrowBody → Filled
  | .block body => (.other, .block body)
  | .value e => (.arrowValue, .expr e)

def propertiesSlots (ps : List Property) : List Filled := ps.map fun p => (.other, .property p)

def membersSlots (ms : List ClassMember) : List Filled := ms.map fun m => (.other, .member m)

def moduleItemSlots : ModuleItem → List Filled
  | .stmt stmt => [(.other, .stmt stmt)]
  | .importing _ attributes => propertiesSlots attributes
  | .exporting decl => [(.other, .decl decl)]
  | .exportDefault value => [(.other, .expr value)]
  | .exportNames attributes => propertiesSlots attributes
  | .exportOther parts => otherSlots parts

def exprSlots : Expr → List Filled
  | .ident _ _ => []
  | .this _ => []
  | .literal _ _ => []
  | .array _ items => items.flatMap (itemSlots .element .element)
  | .object _ properties => propertiesSlots properties
  | .function _ _ function => [(.other, .function function)]
  | .arrow _ params body => patternsSlots params ++ [arrowBodySlot body]
  | .classValue _ members heritage => membersSlots members ++ otherSlots heritage
  | .member _ object _ _ => [(.other, .expr object)]
  | .call _ callee args types =>
    (.other, .expr callee) :: args.flatMap (itemSlots .argument .argument) ++ otherSlots types
  | .paren _ inner => [(.parens, .expr inner)]
  | .conditional _ test yes no =>
    [(.alternative, .expr test), (.alternative, .expr yes), (.alternative, .expr no)]
  | .assign _ _ target value => [(.other, .pattern target), (.assigned, .expr value)]
  | .typed _ inner types => (.other, .expr inner) :: otherSlots types
  | .markup _ parts => parts.flatMap (itemSlots .braces .other)
  | .compound _ _ operands args types =>
    otherSlots operands ++ args.flatMap (itemSlots .argument .argument) ++ otherSlots types

def propertySlots : Property → List Filled
  | .shorthand _ _ default => optionSlots .other default
  | .keyed _ key value => optionSlots .other key ++ [(.keyedValue, .expr value)]
  | .spread _ value => [(.other, .expr value)]
  | .getter _ key types body => optionSlots .other key ++ otherSlots types ++ [(.other, .block body)]
  | .setter _ key params body =>
    optionSlots .other key ++ patternsSlots params ++ [(.other, .block body)]
  | .method _ key function => optionSlots .other key ++ [(.other, .function function)]

def patternSlots : Pattern → List Filled
  | .ident _ _ types => otherSlots types
  | .array _ elements types => patternsSlots elements ++ otherSlots types
  | .object _ fields types => fields.flatMap fieldSlots ++ otherSlots types
  | .rest _ inner types => (.other, .pattern inner) :: otherSlots types
  | .withDefault _ inner value => [(.other, .pattern inner), (.other, .expr value)]
  | .place target => [(.other, .expr target)]

def functionSlots : Function → List Filled
  | .mk params body types => patternsSlots params ++ (.other, .block body) :: otherSlots types

def memberSlots : ClassMember → List Filled
  | .constructor params body => patternsSlots params ++ [(.other, .block body)]
  | .method key function => optionSlots .other key ++ [(.other, .function function)]
  | .field key value types => optionSlots .other key ++ optionSlots .other value ++ otherSlots types
  | .staticBlock body => [(.other, .block body)]

def stmtSlots : Stmt → List Filled
  | .expr _ value => [(.statement, .expr value)]
  | .block body => [(.other, .block body)]
  | .returning value => optionSlots .returned value
  | .throwing value => [(.other, .expr value)]
  | .choice test yes no => [(.test, .expr test), (.other, .stmt yes), (.other, .stmt no)]
  | .whileLoop test body => [(.test, .expr test), (.other, .stmt body)]
  | .doLoop body test => [(.other, .stmt body), (.test, .expr test)]
  | .forLoop head test update body =>
    forHeadSlots .loopStart head ++ optionSlots .loopTest test ++ optionSlots .loopStep update ++
      [(.other, .stmt body)]
  | .forEach head subject body =>
    forHeadSlots .other head ++ [(.other, .expr subject), (.other, .stmt body)]
  | .switch subject cases => (.other, .expr subject) :: cases.flatMap caseSlots
  | .trying block caught handler last =>
    (.other, .block block) :: (patternsSlots caught ++ [(.other, .block handler)]) ++
      [(.other, .block last)]
  | .withObject object body => [(.other, .expr object), (.other, .stmt body)]
  | .labelled body => [(.other, .stmt body)]
  | .declaration decl => [(.other, .decl decl)]
  | .inert => []

def declSlots : Decl → List Filled
  | .vars _ vars => vars.flatMap declaratorSlots
  | .function _ function => [(.other, .function function)]
  | .classNamed _ members heritage => membersSlots members ++ otherSlots heritage
  | .space items => items.flatMap moduleItemSlots
  | .typeLevel parts => otherSlots parts

/-- What fills the slots of a node. -/
def Node.filled : Node → List Filled
  | .expr e => exprSlots e
  | .property p => propertySlots p
  | .pattern p => patternSlots p
  | .function f => functionSlots f
  | .member m => memberSlots m
  | .block body => stmtsSlots body
  | .stmt s => stmtSlots s
  | .decl d => declSlots d

/-! ## From slots to positions -/

/-- How an expression stands that fills a slot, when its parent stands in the given way. -/
def Slot.positionIn (outer : Position) : Slot → Position
  | .parens => outer.inParens
  | .test | .loopStart | .loopTest | .loopStep | .alternative => .condition
  | .statement | .returned | .initialValue | .arrowValue | .argument | .element | .keyedValue
  | .braces | .assigned => .standalone
  | .other => .operand

/-- How an expression stands at the end of a way through slots, the innermost first. -/
def positionIn : List Slot → Position
  | [] => .operand
  | slot :: outer => slot.positionIn (positionIn outer)

theorem Slot.positionIn_eq_condition_iff (outer : Position) (slot : Slot) :
    slot.positionIn outer = .condition ↔
      slot ∈ decidingSlots ∨ slot = .parens ∧ outer = .condition := by
  cases slot <;> cases outer <;> decide

theorem Slot.positionIn_eq_standalone_iff (outer : Position) (slot : Slot) :
    slot.positionIn outer = .standalone ↔
      slot.positionIn outer ≠ .condition ∧ slot ∈ standaloneSlots := by
  cases slot <;> cases outer <;> decide

theorem positionIn_eq_condition_iff (slots : List Slot) :
    positionIn slots = .condition ↔ Deciding slots := by
  induction slots with
  | nil => exact ⟨nofun, nofun⟩
  | cons slot outer ih =>
    rw [positionIn, Slot.positionIn_eq_condition_iff, ih]
    constructor
    · rintro (hslot | ⟨rfl, houter⟩)
      · exact .slot hslot
      · exact .parens houter
    · rintro (hslot | houter)
      · exact .inl hslot
      · exact .inr ⟨rfl, houter⟩

theorem positionIn_eq_standalone_iff (slots : List Slot) :
    positionIn slots = .standalone ↔ ¬ Deciding slots ∧ StandsAlone slots := by
  rw [← positionIn_eq_condition_iff]
  cases slots with
  | nil => exact ⟨nofun, nofun⟩
  | cons slot outer =>
    rw [positionIn, Slot.positionIn_eq_standalone_iff]
    simp [StandsAlone]

theorem positionIn_eq_operand_iff (slots : List Slot) :
    positionIn slots = .operand ↔ ¬ Deciding slots ∧ ¬ StandsAlone slots := by
  have hcondition := positionIn_eq_condition_iff slots
  have hstandalone := positionIn_eq_standalone_iff slots
  cases hposition : positionIn slots <;> simp_all

/-! ## The step of the walk

What the walk tells a part of how it stands is what the slot of the part comes to. One lemma for what
groups parts, and then one for each kind of node, with one case for each constructor. -/

/-- What the walk tells a part of how it stands. -/
def Part.placing (part : Part) : Node × Position := (part.node, part.position)

/-- The same as it follows from the slot, when the parent stands in the given way. -/
def placingIn (outer : Position) (filled : Filled) : Node × Position :=
  (filled.2, filled.1.positionIn outer)

section Groups

variable (outer : Position)

@[simp]
theorem placing_of (node : Node) : (Part.of node).placing = (node, .operand) := rfl

@[simp]
theorem placing_expr (position : Position) (e : Expr) :
    (Part.expr position e).placing = (.expr e, position) := rfl

@[simp]
theorem placing_inside (scope : Scope) (part : Part) :
    (part.inside scope).placing = part.placing := rfl

@[simp]
theorem placing_comp_inside (scope : Scope) : Part.placing ∘ Part.inside scope = Part.placing := rfl

@[simp]
theorem placingIn_mk (slot : Slot) (node : Node) :
    placingIn outer (slot, node) = (node, slot.positionIn outer) := rfl

@[simp]
theorem placings_otherSlots (es : List Expr) :
    (otherSlots es).map (placingIn outer) = (operandParts es).map Part.placing := by
  rw [otherSlots, operandParts, List.map_map, List.map_map]
  rfl

@[simp]
theorem placings_optionSlots (slot : Slot) (e : Option Expr) :
    (optionSlots slot e).map (placingIn outer) =
      (optionParts (slot.positionIn outer) e).map Part.placing := by
  rw [optionSlots, optionParts, List.map_map, List.map_map]
  rfl

@[simp]
theorem placings_patternsSlots (ps : List Pattern) :
    (patternsSlots ps).map (placingIn outer) = (patternsParts ps).map Part.placing := by
  rw [patternsSlots, patternsParts, List.map_map, List.map_map]
  rfl

@[simp]
theorem placings_membersSlots (ms : List ClassMember) :
    (membersSlots ms).map (placingIn outer) = (membersParts ms).map Part.placing := by
  rw [membersSlots, membersParts, List.map_map, List.map_map]
  rfl

@[simp]
theorem placings_propertiesSlots (ps : List Property) :
    (propertiesSlots ps).map (placingIn outer) = (propertiesParts ps).map Part.placing := by
  rw [propertiesSlots, propertiesParts, List.map_map, List.map_map]
  rfl

theorem placings_stmtsSlots (followsAnother : Bool) (stmts : List Stmt) :
    (stmtsSlots stmts).map (placingIn outer) =
      (stmtsParts followsAnother stmts).map Part.placing := by
  induction stmts generalizing followsAnother with
  | nil => rfl
  | cons stmt stmts ih => exact congrArg (List.cons _) (ih true)

/-- Groups that are told alike one by one are told alike together. -/
theorem placings_flatMap {α : Type} {slots : α → List Filled} {parts : α → List Part}
    (h : ∀ x, (slots x).map (placingIn outer) = (parts x).map Part.placing) (xs : List α) :
    (xs.flatMap slots).map (placingIn outer) = (xs.flatMap parts).map Part.placing := by
  rw [List.map_flatMap, List.map_flatMap]
  exact List.flatMap_congr fun x _ => h x

theorem placings_itemSlots {plain : Slot} (hplain : plain.positionIn outer = .standalone)
    (spread : Slot) (items : List Item) :
    (items.flatMap (itemSlots plain spread)).map (placingIn outer) =
      (items.flatMap (itemParts (spread.positionIn outer))).map Part.placing := by
  refine placings_flatMap outer (fun item => ?_) items
  cases item <;> simp [itemSlots, itemParts, hplain]

@[simp]
theorem placings_fieldSlots (fields : List Field) :
    (fields.flatMap fieldSlots).map (placingIn outer) =
      (fields.flatMap fieldParts).map Part.placing := by
  refine placings_flatMap outer (fun field => ?_) fields
  cases field <;> simp [fieldSlots, fieldParts, Slot.positionIn]

@[simp]
theorem placings_declaratorSlots (vars : List Declarator) :
    (vars.flatMap declaratorSlots).map (placingIn outer) =
      (vars.flatMap declaratorParts).map Part.placing := by
  refine placings_flatMap outer (fun var => ?_) vars
  cases var
  simp [declaratorSlots, declaratorParts, Slot.positionIn]

@[simp]
theorem placings_forHeadSlots (start : Slot) (head : ForHead) :
    (forHeadSlots start head).map (placingIn outer) =
      (forHeadParts (start.positionIn outer) head).map Part.placing := by
  cases head with
  | vars kind vars => exact placings_declaratorSlots outer vars
  | _ => rfl

@[simp]
theorem placings_caseSlots (cases : List Case) :
    (cases.flatMap caseSlots).map (placingIn outer) =
      (cases.flatMap caseParts).map Part.placing := by
  refine placings_flatMap outer (fun c => ?_) cases
  cases c
  simp [caseSlots, caseParts, Slot.positionIn, placings_stmtsSlots outer false]

@[simp]
theorem placingIn_arrowBodySlot (body : ArrowBody) :
    placingIn outer (arrowBodySlot body) = (arrowBodyPart body).placing := by
  cases body <;> rfl

theorem placings_moduleItemSlots (followsAnother : Bool) (items : List ModuleItem) :
    (items.flatMap moduleItemSlots).map (placingIn outer) =
      (moduleItemsParts followsAnother items).map Part.placing := by
  induction items generalizing followsAnother with
  | nil => rfl
  | cons item items ih =>
    have hitem : (moduleItemSlots item).map (placingIn outer) =
        (moduleItemParts followsAnother item).map Part.placing := by
      cases item with
      | importing names attributes => exact placings_propertiesSlots outer attributes
      | exportNames attributes => exact placings_propertiesSlots outer attributes
      | exportOther parts => exact placings_otherSlots outer parts
      | _ => rfl
    rw [List.flatMap_cons, List.map_append, hitem, ih true, moduleItemsParts, List.map_append]

end Groups

section Nodes

variable (position : Position)

theorem placings_exprSlots (e : Expr) :
    (exprSlots e).map (placingIn position) = (exprParts position e).map Part.placing := by
  have hargs := placings_itemSlots position (rfl : Slot.argument.positionIn position = .standalone)
  cases e with
  | array span items => exact placings_itemSlots position rfl .element items
  | markup span parts => exact placings_itemSlots position rfl .other parts
  | _ => simp [exprSlots, exprParts, Slot.positionIn, hargs]

theorem placings_propertySlots (p : Property) :
    (propertySlots p).map (placingIn position) = (propertyParts p).map Part.placing := by
  cases p <;> simp [propertySlots, propertyParts, Slot.positionIn]

theorem placings_patternSlots (p : Pattern) :
    (patternSlots p).map (placingIn position) = (patternParts p).map Part.placing := by
  cases p <;> simp [patternSlots, patternParts, Slot.positionIn]

theorem placings_functionSlots (f : Function) :
    (functionSlots f).map (placingIn position) = (functionParts f).map Part.placing := by
  cases f
  simp [functionSlots, functionParts, Slot.positionIn]

theorem placings_memberSlots (m : ClassMember) :
    (memberSlots m).map (placingIn position) = (memberParts m).map Part.placing := by
  cases m <;> simp [memberSlots, memberParts, Slot.positionIn]

theorem placings_stmtSlots (stmt : Stmt) :
    (stmtSlots stmt).map (placingIn position) = (stmtParts stmt).map Part.placing := by
  cases stmt <;> simp [stmtSlots, stmtParts, Slot.positionIn]

theorem placings_declSlots (d : Decl) :
    (declSlots d).map (placingIn position) = (declParts d).map Part.placing := by
  cases d with
  | space items => exact placings_moduleItemSlots position false items
  | _ => simp [declSlots, declParts, Slot.positionIn]

/-- The parts of a node stand as the slots say that they fill. -/
theorem placings_filled (node : Node) :
    node.filled.map (placingIn position) = (node.parts position).map Part.placing := by
  cases node with
  | expr e => exact placings_exprSlots position e
  | property p => exact placings_propertySlots position p
  | pattern p => exact placings_patternSlots position p
  | function f => exact placings_functionSlots position f
  | member m => exact placings_memberSlots position m
  | block body => simp [Node.parts, Node.filled, placings_stmtsSlots position false]
  | stmt s => exact placings_stmtSlots position s
  | decl d => exact placings_declSlots position d

end Nodes

/-! ## Places -/

/-- A node with the slots on the way to it, its own first. -/
structure Place where
  node : Node
  slots : List Slot

namespace Place

/-- What fills the slots of the node of a place, each with one slot more on its way. -/
def inner (place : Place) : List Place :=
  place.node.filled.map fun filled => ⟨filled.2, filled.1 :: place.slots⟩

theorem sizeOf_lt_of_mem_inner {place child : Place} (h : child ∈ place.inner) :
    sizeOf child.node < sizeOf place.node := by
  obtain ⟨filled, hfilled, rfl⟩ := List.mem_map.mp h
  have hmem : placingIn .operand filled ∈ (place.node.parts .operand).map Part.placing := by
    rw [← placings_filled]
    exact List.mem_map_of_mem hfilled
  obtain ⟨part, hpart, hplacing⟩ := List.mem_map.mp hmem
  have hnode : part.node = filled.2 := congrArg Prod.fst hplacing
  rw [← hnode]
  exact sizeOf_lt_of_mem_parts (show part ∈ (Part.of place.node).parts from hpart)

/-- A place with all that are in it, in pre-order. -/
def subtree (place : Place) : List Place :=
  place :: place.inner.attach.flatMap fun child => child.1.subtree
termination_by sizeOf place.node
decreasing_by exact sizeOf_lt_of_mem_inner child.2

theorem subtree_eq (place : Place) : place.subtree = place :: place.inner.flatMap subtree := by
  rw [subtree, List.flatMap_subtype (fun _ _ => rfl), List.unattach_attach]

/-- How a place stands, as it follows from its slots. -/
def placing (place : Place) : Node × Position := (place.node, positionIn place.slots)

end Place

/-- A place and a part that stand alike have parts that stand alike, one by one. -/
theorem forall₂_inner {part : Part} {place : Place} (h : part.placing = place.placing) :
    List.Forall₂ (fun child inner => Part.placing child = Place.placing inner)
      part.parts place.inner := by
  have hnode : part.node = place.node := congrArg Prod.fst h
  have hposition : part.position = positionIn place.slots := congrArg Prod.snd h
  have hinner : place.inner.map Place.placing =
      place.node.filled.map (placingIn (positionIn place.slots)) := by
    rw [Place.inner, List.map_map]
    rfl
  have hparts : part.parts.map Part.placing = place.inner.map Place.placing := by
    rw [Part.parts, hnode, hposition, hinner, placings_filled]
  rwa [← List.forall₂_eq_eq_eq, List.forall₂_map_left_iff, List.forall₂_map_right_iff] at hparts

/-! ## The walk through a part -/

/-- The node is a call of a method with a fixed name on a variable. -/
def Node.isMethodCall : Node → Bool
  | .expr (.call _ (.member _ (.ident _ _) _ _) _ _) => true
  | _ => false

/-- The node is the call that the site tells of. -/
def Node.IsCallOf (node : Node) (site : CallSite) : Prop :=
  ∃ memberSpan objectSpan args types, node = .expr (.call site.span
    (.member memberSpan (.ident objectSpan site.receiver) site.method site.methodSpan) args types)

/-- The calls among events. -/
def callSites (events : List Event) : List CallSite :=
  events.filterMap fun
    | .call site => some site
    | .receiverAssigned _ => none

theorem callSites_append (events later : List Event) :
    callSites (events ++ later) = callSites events ++ callSites later :=
  List.filterMap_append

/-- The site tells of the call at that place, and how it stands there. -/
def RecordedAt (site : CallSite) (place : Place) : Prop :=
  place.node.IsCallOf site ∧ site.position = positionIn place.slots

/-- What is recorded at a part itself. -/
theorem callSites_ownEvents (s : Surroundings) {part : Part} {place : Place}
    (h : part.placing = place.placing) :
    List.Forall₂ RecordedAt (callSites (part.ownEvents s))
      ([place].filter fun place => place.node.isMethodCall) := by
  obtain ⟨node, position, opened, listed⟩ := part
  obtain ⟨node', slots⟩ := place
  obtain ⟨rfl, rfl⟩ : node = node' ∧ position = positionIn slots := Prod.mk.inj h
  cases node with
  | expr e =>
    cases e with
    | call span callee args types =>
      cases callee with
      | member memberSpan object method methodSpan =>
        cases object with
        | ident objectSpan receiver => exact .cons ⟨⟨_, _, _, _, rfl⟩, rfl⟩ .nil
        | _ => exact .nil
      | _ => exact .nil
    | assign span plain target value =>
      cases target with
      | ident targetSpan name types =>
        by_cases hname : name = reservedReceiver
        · simp [Part.ownEvents, assignEvent, hname, callSites, Node.isMethodCall]
        · simp [Part.ownEvents, assignEvent, hname, callSites, Node.isMethodCall]
      | _ => exact .nil
    | _ => exact .nil
  | _ => exact .nil

/-- The calls in a part are recorded one by one, each as it stands at its place. -/
theorem callSites_events (part : Part) :
    ∀ (s : Surroundings) {place : Place}, part.placing = place.placing →
      List.Forall₂ RecordedAt (callSites (part.events s))
        (place.subtree.filter fun place => place.node.isMethodCall) := by
  induction part using Part.induction with
  | step part ih =>
    intro s place h
    -- which child a recorded call comes from matters for its place only
    have hinner : List.Forall₂ RecordedAt
        (part.parts.flatMap fun child => callSites (child.events (s.toward part)))
        (place.inner.flatMap fun inner => inner.subtree.filter fun place =>
          place.node.isMethodCall) := by
      have hchildren := (List.forall₂_and_left part.parts place.inner).mpr
        ⟨fun child hchild => hchild, forall₂_inner h⟩
      exact List.rel_flatMap hchildren fun _ _ hchild => ih _ hchild.1 _ hchild.2
    have hsplit : callSites (part.events s) = callSites (part.ownEvents (s.toward part)) ++
        part.parts.flatMap fun child => callSites (child.events (s.toward part)) := by
      rw [Part.events_eq, callSites_append]
      exact congrArg _ List.filterMap_flatMap
    rw [hsplit, Place.subtree_eq, ← List.singleton_append, List.filter_append, List.filter_flatMap]
    exact List.rel_append (callSites_ownEvents _ h) hinner

end MapLint.Lint

namespace MapLint.Script.Program

open MapLint.Lint

/-- All places of a program, at any depth, in pre-order. -/
def places (p : Program) : List Place :=
  (p.items.flatMap moduleItemSlots).flatMap fun filled => Place.subtree ⟨filled.2, [filled.1]⟩

/-- The places of a program at which a method with a fixed name is called on a variable. -/
def callPlaces (p : Program) : List Place := p.places.filter fun place => place.node.isMethodCall

end MapLint.Script.Program

namespace MapLint.Lint

open MapLint.Script

/-- The calls of a program are recorded one by one, each as it stands at its place. -/
theorem forall₂_callPlaces (p : Program) :
    List.Forall₂ RecordedAt (callSites (programEvents p)) p.callPlaces := by
  have htop : List.Forall₂ (fun part filled => Part.placing part = Place.placing ⟨filled.2, [filled.1]⟩)
      p.parts (p.items.flatMap moduleItemSlots) := by
    have hparts := (placings_moduleItemSlots .operand false p.items).symm
    rwa [← List.forall₂_eq_eq_eq, List.forall₂_map_left_iff, List.forall₂_map_right_iff] at hparts
  have hevents : callSites (programEvents p) =
      p.parts.flatMap fun part => callSites (part.events p.surroundings) := by
    rw [programEvents_eq]
    exact List.filterMap_flatMap
  rw [hevents, Program.callPlaces, Program.places, List.filter_flatMap]
  exact List.rel_flatMap htop fun part filled h => callSites_events part _ h

/-- How the calls of a program are recorded. Going through the calls of a method with a fixed name on a
variable in pre-order, each is recorded as a condition exactly when, apart from parentheses, it fills
a slot in which its value decides what happens next; otherwise it is recorded as standing alone
exactly when its own slot is one in which an expression does, and as an operand in every other slot. -/
theorem recorded_positions (p : Program) :
    List.Forall₂ (fun site place => place.node.IsCallOf site ∧
        (site.position = .condition ↔ Deciding place.slots) ∧
        (site.position = .standalone ↔ ¬ Deciding place.slots ∧ StandsAlone place.slots) ∧
        (site.position = .operand ↔ ¬ Deciding place.slots ∧ ¬ StandsAlone place.slots))
      (callSites (programEvents p)) p.callPlaces := by
  refine (forall₂_callPlaces p).imp fun site place ⟨hcall, hposition⟩ => ?_
  rw [hposition]
  exact ⟨hcall, positionIn_eq_condition_iff _, positionIn_eq_standalone_iff _,
    positionIn_eq_operand_iff _⟩

end MapLint.Lint
