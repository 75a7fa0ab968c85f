import MapLint.Lint.Collect

/-!
# The parts of a tree

The walk over a tree has one function for each of its sixteen kinds of node. Here a tree is seen from
the outside: a `Node` has `parts`, and a `Part` is a node together with all that its parent settles
for it. What is told of a whole tree is then an induction on parts, with one case, and what is told
of a place deep in a tree is an induction along the trail that leads there.

## Architecture

- `Node` has the kinds of node that carry scopes, parameters or events. Items, fields, variables,
  clauses and the like only group parts and are looked through;
- `Part.parts` are the direct parts of a part, in the order of the tree;
- `sizeOf_lt_of_mem_parts` makes them smaller, and `Part.subtree` lists a part with all that is in
  it, in pre-order;
- `IsTrail` says of a list of parts that it leads down a tree, each one being a part of the one
  before.
-/

namespace MapLint.Lint

open MapLint.Script

/-! ## Nodes and parts -/

/-- A node of a tree. -/
inductive Node where
  | expr (e : Expr)
  | property (p : Property)
  | pattern (p : Pattern)
  /-- A function with parameters and a body, whatever it is part of. -/
  | function (f : Function)
  | member (m : ClassMember)
  /-- Statements between braces: those of a block, of a function or of another body. -/
  | block (body : List Stmt)
  | stmt (s : Stmt)
  | decl (d : Decl)

/-- A node as a part of its parent. -/
structure Part where
  node : Node
  /-- How an expression stands in the parent. -/
  position : Position := .operand
  /-- The declarations of each scope that the parent opens around the part, the outermost first. -/
  opened : List Scope := []
  /-- For a statement in a list of statements, whether it follows another one. -/
  listed : Option Bool := none

namespace Part

/-- A part about which the parent settles nothing. -/
def of (node : Node) : Part := { node }

/-- An expression that stands in its parent in a certain way. -/
def expr (position : Position) (e : Expr) : Part := { node := .expr e, position }

/-- A statement in a list of statements. -/
def statement (followsAnother : Bool) (s : Stmt) : Part :=
  { node := .stmt s, listed := some followsAnother }

/-- The same part inside one more scope. -/
def inside (scope : Scope) (part : Part) : Part := { part with opened := scope :: part.opened }

variable (node : Node) (position : Position) (e : Expr) (stmt : Stmt) (follows : Bool)
  (scope : Scope) (part : Part)

@[simp] theorem node_of : (of node).node = node := rfl
@[simp] theorem node_expr : (expr position e).node = .expr e := rfl
@[simp] theorem node_statement : (statement follows stmt).node = .stmt stmt := rfl
@[simp] theorem node_inside : (part.inside scope).node = part.node := rfl
@[simp] theorem position_expr : (expr position e).position = position := rfl
@[simp] theorem opened_of : (of node).opened = [] := rfl
@[simp] theorem opened_expr : (expr position e).opened = [] := rfl
@[simp] theorem opened_statement : (statement follows stmt).opened = [] := rfl
@[simp] theorem opened_inside : (part.inside scope).opened = scope :: part.opened := rfl

end Part

/-! ## What groups parts

Items, fields, clauses and the like are no nodes: their parts are those of the node around them. -/

def operandParts (es : List Expr) : List Part := es.map (Part.expr .operand)

def optionParts (position : Position) (e : Option Expr) : List Part :=
  e.toList.map (Part.expr position)

/-- The expression in an element or argument. -/
def itemParts (spreadPosition : Position) : Item → List Part
  | .hole => []
  | .plain e => [.expr .standalone e]
  | .spread _ e => [.expr spreadPosition e]

def patternsParts (ps : List Pattern) : List Part := ps.map fun p => .of (.pattern p)

def propertiesParts (ps : List Property) : List Part := ps.map fun p => .of (.property p)

def membersParts (ms : List ClassMember) : List Part := ms.map fun m => .of (.member m)

def fieldParts : Field → List Part
  | .keyed key value => optionParts .operand key ++ [.of (.pattern value)]
  | .shorthand _ types default => operandParts types ++ optionParts .operand default
  | .rest inner => [.of (.pattern inner)]

/-- The statements of a list; `followsAnother` says that the list has begun already. -/
def stmtsParts (followsAnother : Bool) : List Stmt → List Part
  | [] => []
  | stmt :: stmts => .statement followsAnother stmt :: stmtsParts true stmts

def declaratorParts : Declarator → List Part
  | .mk target value => .of (.pattern target) :: optionParts .standalone value

/-- The parts of the first part of a loop's head. -/
def forHeadParts (position : Position) : ForHead → List Part
  | .empty => []
  | .vars _ vars => vars.flatMap declaratorParts
  | .expr value => [.expr position value]
  | .pattern target => [.of (.pattern target)]

/-- The parts of one clause of a `switch`. Its statements are a list, but no scope. -/
def caseParts : Case → List Part
  | .mk test body => optionParts .operand test ++ stmtsParts false body

def arrowBodyPart : ArrowBody → Part
  | .block body => .of (.block body)
  | .value e => .expr .standalone e

def moduleItemParts (followsAnother : Bool) : ModuleItem → List Part
  | .stmt stmt => [.statement followsAnother stmt]
  | .importing _ attributes => propertiesParts attributes
  | .exporting decl => [.of (.decl decl)]
  | .exportDefault value => [.expr .operand value]
  | .exportNames attributes => propertiesParts attributes
  | .exportOther parts => operandParts parts

def moduleItemsParts (followsAnother : Bool) : List ModuleItem → List Part
  | [] => []
  | item :: items => moduleItemParts followsAnother item ++ moduleItemsParts true items

/-! ## The parts of a node

Every field that holds nodes is listed, in the order of the fields. -/

/-- The scope around a function that has a name of its own. -/
def nameBindings : Option String → Scope
  | some name => [(name, ⟨some .function, .function⟩)]
  | none => []

/-- The parts of an expression that stands in the given way. -/
def exprParts (position : Position) : Expr → List Part
  | .ident _ _ => []
  | .this _ => []
  | .literal _ _ => []
  | .array _ items => items.flatMap (itemParts .standalone)
  | .object _ properties => propertiesParts properties
  | .function _ name function => [(Part.of (.function function)).inside (nameBindings name)]
  | .arrow _ params body =>
    (patternsParts params ++ [arrowBodyPart body]).map
      (Part.inside (patternsBindings .parameter params))
  | .classValue _ members heritage => membersParts members ++ operandParts heritage
  | .member _ object _ _ => [.expr .operand object]
  | .call _ callee args types =>
    .expr .operand callee :: args.flatMap (itemParts .standalone) ++ operandParts types
  | .paren _ inner => [.expr position.inParens inner]
  | .conditional _ test yes no => [test, yes, no].map (Part.expr .condition)
  | .assign _ _ target value => [.of (.pattern target), .expr .standalone value]
  | .typed _ inner types => .expr .operand inner :: operandParts types
  | .markup _ parts => parts.flatMap (itemParts .operand)
  | .compound _ _ operands args types =>
    operandParts operands ++ args.flatMap (itemParts .standalone) ++ operandParts types

/-- The parts of an entry of an object. A getter and a setter have a body, but are no functions. -/
def propertyParts : Property → List Part
  | .shorthand _ _ default => optionParts .operand default
  | .keyed _ key value => optionParts .operand key ++ [.expr .standalone value]
  | .spread _ value => [.expr .operand value]
  | .getter _ key types body =>
    optionParts .operand key ++ operandParts types ++ [.of (.block body)]
  | .setter _ key params body =>
    optionParts .operand key ++ patternsParts params ++ [.of (.block body)]
  | .method _ key function => optionParts .operand key ++ [.of (.function function)]

def patternParts : Pattern → List Part
  | .ident _ _ types => operandParts types
  | .array _ elements types => patternsParts elements ++ operandParts types
  | .object _ fields types => fields.flatMap fieldParts ++ operandParts types
  | .rest _ inner types => .of (.pattern inner) :: operandParts types
  | .withDefault _ inner value => [.of (.pattern inner), .expr .operand value]
  | .place target => [.expr .operand target]

/-- The parts of a function, all of them in the scope of its parameters. -/
def functionParts : Function → List Part
  | .mk params body types =>
    (patternsParts params ++ Part.of (.block body) :: operandParts types).map
      (Part.inside (patternsBindings .parameter params))

/-- The parts of a member of a class. A constructor has parameters, but is no function. -/
def memberParts : ClassMember → List Part
  | .constructor params body => patternsParts params ++ [.of (.block body)]
  | .method key function => optionParts .operand key ++ [.of (.function function)]
  | .field key value types =>
    optionParts .operand key ++ optionParts .operand value ++ operandParts types
  | .staticBlock body => [.of (.block body)]

def stmtParts : Stmt → List Part
  | .expr _ value => [.expr .standalone value]
  | .block body => [.of (.block body)]
  | .returning value => optionParts .standalone value
  | .throwing value => [.expr .operand value]
  | .choice test yes no => [.expr .condition test, .of (.stmt yes), .of (.stmt no)]
  | .whileLoop test body => [.expr .condition test, .of (.stmt body)]
  | .doLoop body test => [.of (.stmt body), .expr .condition test]
  | .forLoop head test update body =>
    (forHeadParts .condition head ++ optionParts .condition test ++
      optionParts .condition update ++ [Part.of (.stmt body)]).map
        (Part.inside (forHeadBindings head))
  | .forEach head subject body =>
    (forHeadParts .operand head ++ [Part.expr .operand subject, Part.of (.stmt body)]).map
      (Part.inside (forEachBindings head))
  | .switch subject cases => .expr .operand subject :: cases.flatMap caseParts
  | .trying block caught handler last =>
    Part.of (.block block) ::
      (patternsParts caught ++ [Part.of (.block handler)]).map
        (Part.inside (patternsBindings .parameter caught)) ++
      [Part.of (.block last)]
  | .withObject object body => [.expr .operand object, .of (.stmt body)]
  | .labelled body => [.of (.stmt body)]
  | .declaration decl => [.of (.decl decl)]
  | .inert => []

/-- The parts of a declaration. The items of a namespace are a list, but no scope. -/
def declParts : Decl → List Part
  | .vars _ vars => vars.flatMap declaratorParts
  | .function _ function => [.of (.function function)]
  | .classNamed _ members heritage => membersParts members ++ operandParts heritage
  | .space items => moduleItemsParts false items
  | .typeLevel parts => operandParts parts

/-- The parts of a node; how an expression stands matters only to what is in its parentheses. -/
def Node.parts (position : Position) : Node → List Part
  | .expr e => exprParts position e
  | .property p => propertyParts p
  | .pattern p => patternParts p
  | .function f => functionParts f
  | .member m => memberParts m
  | .block body => (stmtsParts false body).map (Part.inside (stmtsBindings body))
  | .stmt s => stmtParts s
  | .decl d => declParts d

def Part.parts (part : Part) : List Part := part.node.parts part.position

end MapLint.Lint

namespace MapLint.Script.Program

open MapLint.Lint

/-- The parts at the top of a program. -/
def parts (p : Program) : List Part := moduleItemsParts false p.items

end MapLint.Script.Program

namespace MapLint.Lint

open MapLint.Script

/-! ## Parts are smaller

What groups parts is at least as large as each of them, so a node is larger than all of its parts. -/

/-- The nodes of all these parts have at most size `n`. -/
def FitIn (n : Nat) (parts : List Part) : Prop := ∀ part ∈ parts, sizeOf part.node ≤ n

section Size

variable {n : Nat} {ps qs : List Part}

@[simp]
theorem fitIn_nil : FitIn n [] := by simp [FitIn]

@[simp]
theorem fitIn_cons {part : Part} : FitIn n (part :: ps) ↔ sizeOf part.node ≤ n ∧ FitIn n ps := by
  simp [FitIn]

@[simp]
theorem fitIn_append : FitIn n (ps ++ qs) ↔ FitIn n ps ∧ FitIn n qs := by
  simp only [FitIn, List.mem_append, or_imp, forall_and]

@[simp]
theorem fitIn_map_inside {scope : Scope} : FitIn n (ps.map (Part.inside scope)) ↔ FitIn n ps := by
  simp [FitIn, Part.inside]

theorem fitIn_map {α : Type} [SizeOf α] {f : α → Part} (hf : ∀ x, sizeOf (f x).node = 1 + sizeOf x)
    {xs : List α} (h : sizeOf xs ≤ n) : FitIn n (xs.map f) := by
  intro part hpart
  obtain ⟨x, hx, rfl⟩ := List.mem_map.mp hpart
  have hlt := List.sizeOf_lt_of_mem hx
  have hsize := hf x
  omega

theorem fitIn_flatMap {α : Type} [SizeOf α] {f : α → List Part} (hf : ∀ x, FitIn (sizeOf x) (f x))
    {xs : List α} (h : sizeOf xs ≤ n) : FitIn n (xs.flatMap f) := by
  intro part hpart
  obtain ⟨x, hx, hpart⟩ := List.mem_flatMap.mp hpart
  have hle := hf x part hpart
  have hlt := List.sizeOf_lt_of_mem hx
  omega

theorem fitIn_operandParts {es : List Expr} (h : sizeOf es ≤ n) : FitIn n (operandParts es) :=
  fitIn_map (fun _ => rfl) h

theorem fitIn_patternsParts {patterns : List Pattern} (h : sizeOf patterns ≤ n) :
    FitIn n (patternsParts patterns) :=
  fitIn_map (fun _ => rfl) h

theorem fitIn_propertiesParts {properties : List Property} (h : sizeOf properties ≤ n) :
    FitIn n (propertiesParts properties) :=
  fitIn_map (fun _ => rfl) h

theorem fitIn_membersParts {members : List ClassMember} (h : sizeOf members ≤ n) :
    FitIn n (membersParts members) :=
  fitIn_map (fun _ => rfl) h

theorem fitIn_optionParts {position : Position} {e : Option Expr} (h : sizeOf e ≤ n) :
    FitIn n (optionParts position e) := by
  cases e with
  | none => simp [optionParts]
  | some e => simpa [optionParts] using h

theorem fitIn_itemParts (position : Position) (item : Item) :
    FitIn (sizeOf item) (itemParts position item) := by
  cases item <;> simp [itemParts]

theorem fitIn_fieldParts (field : Field) : FitIn (sizeOf field) (fieldParts field) := by
  cases field <;> simp (disch := omega) [fieldParts, fitIn_optionParts, fitIn_operandParts]

theorem fitIn_stmtsParts {followsAnother : Bool} {stmts : List Stmt} (h : sizeOf stmts ≤ n) :
    FitIn n (stmtsParts followsAnother stmts) := by
  induction stmts generalizing followsAnother with
  | nil => simp [stmtsParts]
  | cons stmt stmts ih =>
    simp only [List.cons.sizeOf_spec] at h
    simp only [stmtsParts, fitIn_cons, Part.node_statement, Node.stmt.sizeOf_spec]
    exact ⟨by omega, ih (by omega)⟩

theorem fitIn_declaratorParts (declarator : Declarator) :
    FitIn (sizeOf declarator) (declaratorParts declarator) := by
  cases declarator
  simp (disch := omega) [declaratorParts, fitIn_optionParts]

theorem fitIn_forHeadParts {position : Position} {head : ForHead} (h : sizeOf head ≤ n) :
    FitIn n (forHeadParts position head) := by
  cases head with
  | empty => simp [forHeadParts]
  | vars kind vars =>
    simp only [ForHead.vars.sizeOf_spec] at h
    exact fitIn_flatMap fitIn_declaratorParts (by omega)
  | expr value => simpa [forHeadParts] using h
  | pattern target => simpa [forHeadParts] using h

theorem fitIn_caseParts (c : Case) : FitIn (sizeOf c) (caseParts c) := by
  cases c
  simp (disch := omega) [caseParts, fitIn_optionParts, fitIn_stmtsParts]

theorem sizeOf_arrowBodyPart (body : ArrowBody) : sizeOf (arrowBodyPart body).node = sizeOf body := by
  cases body <;> simp [arrowBodyPart]

theorem fitIn_moduleItemParts (followsAnother : Bool) (item : ModuleItem) :
    FitIn (sizeOf item) (moduleItemParts followsAnother item) := by
  cases item <;>
    simp (disch := omega) [moduleItemParts, fitIn_operandParts, fitIn_propertiesParts]

theorem fitIn_moduleItemsParts {followsAnother : Bool} {items : List ModuleItem}
    (h : sizeOf items ≤ n) : FitIn n (moduleItemsParts followsAnother items) := by
  induction items generalizing followsAnother with
  | nil => simp [moduleItemsParts]
  | cons item items ih =>
    simp only [List.cons.sizeOf_spec] at h
    simp only [moduleItemsParts, fitIn_append]
    refine ⟨fun part hpart => ?_, ih (by omega)⟩
    have hle := fitIn_moduleItemParts followsAnother item part hpart
    omega

end Size

/-- Every part of a part has a smaller node. -/
theorem sizeOf_lt_of_mem_parts {part child : Part} (h : child ∈ part.parts) :
    sizeOf child.node < sizeOf part.node := by
  have hfit : FitIn (sizeOf part.node - 1) part.parts := by
    obtain ⟨node, position, opened, listed⟩ := part
    -- one case for each kind of node, and in it one for each constructor
    cases node with
    | expr e =>
      cases e <;>
        simp (disch := omega) [Part.parts, Node.parts, exprParts, fitIn_operandParts,
          fitIn_patternsParts, fitIn_propertiesParts, fitIn_membersParts, sizeOf_arrowBodyPart,
          fitIn_flatMap (fitIn_itemParts _)] <;> omega
    | property p =>
      cases p <;>
        simp (disch := omega) [Part.parts, Node.parts, propertyParts, fitIn_operandParts,
          fitIn_optionParts, fitIn_patternsParts] <;> omega
    | pattern p =>
      cases p <;>
        simp (disch := omega) [Part.parts, Node.parts, patternParts, fitIn_operandParts,
          fitIn_patternsParts, fitIn_flatMap fitIn_fieldParts] <;> omega
    | function f =>
      cases f
      simp (disch := omega) [Part.parts, Node.parts, functionParts, fitIn_operandParts,
        fitIn_patternsParts]
      omega
    | member m =>
      cases m <;>
        simp (disch := omega) [Part.parts, Node.parts, memberParts, fitIn_operandParts,
          fitIn_optionParts, fitIn_patternsParts]
    | block body => simp (disch := omega) [Part.parts, Node.parts, fitIn_stmtsParts]
    | stmt s =>
      cases s <;>
        simp (disch := omega) [Part.parts, Node.parts, stmtParts, fitIn_optionParts,
          fitIn_patternsParts, fitIn_forHeadParts, fitIn_flatMap fitIn_caseParts] <;> omega
    | decl d =>
      cases d <;>
        simp (disch := omega) [Part.parts, Node.parts, declParts, fitIn_operandParts,
          fitIn_membersParts, fitIn_moduleItemsParts, fitIn_flatMap fitIn_declaratorParts]
  have hle := hfit child h
  have hpos : 0 < sizeOf part.node := by
    cases part.node <;>
      simp only [Node.expr.sizeOf_spec, Node.property.sizeOf_spec, Node.pattern.sizeOf_spec,
        Node.function.sizeOf_spec, Node.member.sizeOf_spec, Node.block.sizeOf_spec,
        Node.stmt.sizeOf_spec, Node.decl.sizeOf_spec] <;> omega
  omega

/-! ## Whole trees -/

/-- What holds of a part whenever it holds of its own parts holds of every part. -/
@[elab_as_elim]
theorem Part.induction {motive : Part → Prop}
    (step : ∀ part, (∀ child ∈ part.parts, motive child) → motive part) (part : Part) :
    motive part :=
  step part fun child _ => Part.induction step child
termination_by sizeOf part.node
decreasing_by exact sizeOf_lt_of_mem_parts ‹_›

/-- A part with all that is in it, in pre-order: every part stands before its own parts. -/
def Part.subtree (part : Part) : List Part :=
  part :: part.parts.attach.flatMap fun child => child.1.subtree
termination_by sizeOf part.node
decreasing_by exact sizeOf_lt_of_mem_parts child.2

theorem Part.subtree_eq (part : Part) :
    part.subtree = part :: part.parts.flatMap Part.subtree := by
  rw [subtree, List.flatMap_subtype (fun _ _ => rfl), List.unattach_attach]

/-- The trail leads down a tree: its first part is one of `parts`, and each of the others is a part
of the one before. -/
def IsTrail (parts : List Part) : List Part → Prop
  | [] => True
  | part :: trail => part ∈ parts ∧ IsTrail part.parts trail

theorem isTrail_append_cons {parts outer inner : List Part} {part : Part} :
    IsTrail parts (outer ++ part :: inner) ↔
      IsTrail parts (outer ++ [part]) ∧ IsTrail part.parts inner := by
  induction outer generalizing parts with
  | nil => simp [IsTrail]
  | cons first outer ih => simp [IsTrail, ih, and_assoc]

end MapLint.Lint
