import MapLint.Lint.Event

/-!
# The events of a script

`Program.events` walks a tree in the order of the text and lists its events. What the walk needs to
know of the surroundings of a node is passed down and never changed on the way: the scopes, where
the statement begins that the node is part of, and, for an expression, how it stands in its parent.
So the events of a node depend on nothing but the node and these.

## Architecture

- `Surroundings` is what is passed down;
- `callEvent` and `assignEvent` are the only sources of events;
- one function for each kind of node lists the events of its parts in order, every part under the
  surroundings that the node gives it.
-/

namespace MapLint.Lint

open MapLint.Script

/-- What a node knows of where it stands. -/
structure Surroundings where
  scopes : Scopes
  /-- The start of the expression statement around the node, if that statement follows another. -/
  head : Option Nat
deriving Inhabited

namespace Surroundings

/-- Inside a new scope with the given declarations. -/
def inside (s : Surroundings) (bindings : List (String × Binding)) : Surroundings :=
  { s with scopes := s.scopes.enter.declareAll bindings }

end Surroundings

/-! ## The two sources of events -/

/-- An argument as the lint sees it from a place with the given scopes. -/
def operandOf (scopes : Scopes) (e : Expr) : Operand :=
  match shapeOf e with
  | .reference name =>
    match scopes.resolve name with
    | some binding => .bound binding
    | none => .unbound name
  | shape => .direct shape

/-- The arguments of a call; elements that are left out do not occur there. -/
def argumentsOf (scopes : Scopes) (args : List Item) : List Argument :=
  args.filterMap fun
    | .hole => none
    | .plain e => some ⟨e.span, operandOf scopes e, false, memberSafe e⟩
    | .spread _ e => some ⟨e.span, operandOf scopes e, true, memberSafe e⟩

/-- The event of a call, if it calls a method with a fixed name on a variable. -/
def callEvent (s : Surroundings) (position : Position) (span : Span) (args : List Item) :
    Expr → List Event
  | .member _ (.ident _ receiver) method methodSpan =>
    [.call ⟨receiver, method, methodSpan, span, argumentsOf s.scopes args, position,
      s.head == some span.start⟩]
  | _ => []

/-- The event of an assignment, if it assigns to the reserved receiver itself. -/
def assignEvent (span : Span) : Pattern → List Event
  | .ident _ name _ => if name == reservedReceiver then [.receiverAssigned span] else []
  | _ => []

/-- Parentheses leave a condition a condition and make anything else stand on its own. -/
def Position.inParens : Position → Position
  | .condition => .condition
  | _ => .standalone

/-- The surroundings of a statement in a list of statements. -/
def Surroundings.listed (s : Surroundings) (followsAnother : Bool) : Stmt → Surroundings
  | .expr start _ => { s with head := if followsAnother then some start else none }
  | _ => { s with head := none }

/-! ## The walk -/

mutual

/-- The events of an expression. -/
def exprEvents (s : Surroundings) (position : Position) : Expr → List Event
  | .ident _ _ => []
  | .this _ => []
  | .literal _ _ => []
  | .array _ items => itemsEvents s .standalone items
  | .object _ properties => propertiesEvents s properties
  | .function _ name function =>
    let bindings := match name with
      | some name => [(name, ⟨some .function, .function⟩)]
      | none => []
    functionEvents (s.inside bindings) function
  | .arrow _ params body =>
    let inner := s.inside (patternsBindings .parameter params)
    patternsEvents inner params ++ arrowBodyEvents inner body
  | .classValue _ members heritage => membersEvents s members ++ operandsEvents s heritage
  | .member _ object _ _ => exprEvents s .operand object
  | .call span callee args types =>
    callEvent s position span args callee ++ exprEvents s .operand callee ++
      itemsEvents s .standalone args ++ operandsEvents s types
  | .paren _ inner => exprEvents s position.inParens inner
  | .conditional _ test yes no =>
    exprEvents s .condition test ++ exprEvents s .condition yes ++ exprEvents s .condition no
  | .assign span _ target value =>
    assignEvent span target ++ patternEvents s target ++ exprEvents s .standalone value
  | .typed _ inner types => exprEvents s .operand inner ++ operandsEvents s types
  | .markup _ parts => itemsEvents s .operand parts
  | .compound _ _ operands args types =>
    operandsEvents s operands ++ itemsEvents s .standalone args ++ operandsEvents s types

/-- The events of expressions that are all operands. -/
def operandsEvents (s : Surroundings) : List Expr → List Event
  | [] => []
  | e :: es => exprEvents s .operand e ++ operandsEvents s es

/-- The events of an expression that may be missing. -/
def optionEvents (s : Surroundings) (position : Position) : Option Expr → List Event
  | none => []
  | some e => exprEvents s position e

/-- The events of elements or arguments. Each stands on its own; how a spread one stands depends on
what it is spread into. -/
def itemsEvents (s : Surroundings) (spreadPosition : Position) : List Item → List Event
  | [] => []
  | item :: items => itemEvents s spreadPosition item ++ itemsEvents s spreadPosition items

/-- The events of one element or argument. -/
def itemEvents (s : Surroundings) (spreadPosition : Position) : Item → List Event
  | .hole => []
  | .plain e => exprEvents s .standalone e
  | .spread _ e => exprEvents s spreadPosition e

/-- The events of the entries of an object. -/
def propertiesEvents (s : Surroundings) : List Property → List Event
  | [] => []
  | p :: ps => propertyEvents s p ++ propertiesEvents s ps

/-- The events of one entry of an object. -/
def propertyEvents (s : Surroundings) : Property → List Event
  | .shorthand _ _ default => optionEvents s .operand default
  | .keyed _ key value => optionEvents s .operand key ++ exprEvents s .standalone value
  | .spread _ value => exprEvents s .operand value
  | .getter _ key types body =>
    optionEvents s .operand key ++ operandsEvents s types ++
      stmtsEvents (s.inside (stmtsBindings body)) false body
  | .setter _ key params body =>
    optionEvents s .operand key ++ patternsEvents s params ++
      stmtsEvents (s.inside (stmtsBindings body)) false body
  | .method _ key function => optionEvents s .operand key ++ functionEvents s function

/-- The events of a pattern. -/
def patternEvents (s : Surroundings) : Pattern → List Event
  | .ident _ _ types => operandsEvents s types
  | .array _ elements types => patternsEvents s elements ++ operandsEvents s types
  | .object _ fields types => fieldsEvents s fields ++ operandsEvents s types
  | .rest _ inner types => patternEvents s inner ++ operandsEvents s types
  | .withDefault _ inner value => patternEvents s inner ++ exprEvents s .operand value
  | .place target => exprEvents s .operand target

/-- The events of several patterns. -/
def patternsEvents (s : Surroundings) : List Pattern → List Event
  | [] => []
  | p :: ps => patternEvents s p ++ patternsEvents s ps

/-- The events of one field of an object pattern. -/
def fieldEvents (s : Surroundings) : Field → List Event
  | .keyed key value => optionEvents s .operand key ++ patternEvents s value
  | .shorthand _ types default => operandsEvents s types ++ optionEvents s .operand default
  | .rest inner => patternEvents s inner

/-- The events of the fields of an object pattern. -/
def fieldsEvents (s : Surroundings) : List Field → List Event
  | [] => []
  | f :: fs => fieldEvents s f ++ fieldsEvents s fs

/-- The events of a function: its parameters are declared in a scope around its body. -/
def functionEvents (s : Surroundings) : Function → List Event
  | .mk params body types =>
    let inner := s.inside (patternsBindings .parameter params)
    patternsEvents inner params ++ stmtsEvents (inner.inside (stmtsBindings body)) false body ++
      operandsEvents inner types

/-- The events of the right side of an arrow. -/
def arrowBodyEvents (s : Surroundings) : ArrowBody → List Event
  | .block body => stmtsEvents (s.inside (stmtsBindings body)) false body
  | .value e => exprEvents s .standalone e

/-- The events of one member of a class. -/
def memberEvents (s : Surroundings) : ClassMember → List Event
  | .constructor params body =>
    patternsEvents s params ++ stmtsEvents (s.inside (stmtsBindings body)) false body
  | .method key function => optionEvents s .operand key ++ functionEvents s function
  | .field key value types =>
    optionEvents s .operand key ++ optionEvents s .operand value ++ operandsEvents s types
  | .staticBlock body => stmtsEvents (s.inside (stmtsBindings body)) false body

/-- The events of the members of a class. -/
def membersEvents (s : Surroundings) : List ClassMember → List Event
  | [] => []
  | m :: ms => memberEvents s m ++ membersEvents s ms

/-- The events of a statement. -/
def stmtEvents (s : Surroundings) : Stmt → List Event
  | .expr _ value => exprEvents s .standalone value
  | .block body => stmtsEvents (s.inside (stmtsBindings body)) false body
  | .returning value => optionEvents s .standalone value
  | .throwing value => exprEvents s .operand value
  | .choice test yes no => exprEvents s .condition test ++ stmtEvents s yes ++ stmtEvents s no
  | .whileLoop test body => exprEvents s .condition test ++ stmtEvents s body
  | .doLoop body test => stmtEvents s body ++ exprEvents s .condition test
  | .forLoop head test update body =>
    let inner := s.inside (forHeadBindings head)
    forHeadEvents inner .condition head ++ optionEvents inner .condition test ++
      optionEvents inner .condition update ++ stmtEvents inner body
  | .forEach head subject body =>
    let inner := s.inside (forEachBindings head)
    forHeadEvents inner .operand head ++ exprEvents inner .operand subject ++ stmtEvents inner body
  | .switch subject cases => exprEvents s .operand subject ++ casesEvents s cases
  | .trying block caught handler last =>
    let inner := s.inside (patternsBindings .parameter caught)
    stmtsEvents (s.inside (stmtsBindings block)) false block ++ patternsEvents inner caught ++
      stmtsEvents (inner.inside (stmtsBindings handler)) false handler ++
      stmtsEvents (s.inside (stmtsBindings last)) false last
  | .withObject object body => exprEvents s .operand object ++ stmtEvents s body
  | .labelled body => stmtEvents s body
  | .declaration decl => declEvents s decl
  | .inert => []

/-- The events of a list of statements; `followsAnother` says that the list has begun already. -/
def stmtsEvents (s : Surroundings) (followsAnother : Bool) : List Stmt → List Event
  | [] => []
  | stmt :: stmts =>
    stmtEvents (s.listed followsAnother stmt) stmt ++ stmtsEvents s true stmts

/-- The events of the first part of a loop's head. -/
def forHeadEvents (s : Surroundings) (position : Position) : ForHead → List Event
  | .empty => []
  | .vars _ vars => declaratorsEvents s vars
  | .expr value => exprEvents s position value
  | .pattern target => patternEvents s target

/-- The events of the clauses of a `switch`. -/
def casesEvents (s : Surroundings) : List Case → List Event
  | [] => []
  | c :: cs => caseEvents s c ++ casesEvents s cs

/-- The events of one clause of a `switch`. -/
def caseEvents (s : Surroundings) : Case → List Event
  | .mk test body => optionEvents s .operand test ++ stmtsEvents s false body

/-- The events of one variable of a declaration. -/
def declaratorEvents (s : Surroundings) : Declarator → List Event
  | .mk target value => patternEvents s target ++ optionEvents s .standalone value

/-- The events of the variables of a declaration. -/
def declaratorsEvents (s : Surroundings) : List Declarator → List Event
  | [] => []
  | d :: ds => declaratorEvents s d ++ declaratorsEvents s ds

/-- The events of a declaration. -/
def declEvents (s : Surroundings) : Decl → List Event
  | .vars _ vars => declaratorsEvents s vars
  | .function _ function => functionEvents s function
  | .classNamed _ members heritage => membersEvents s members ++ operandsEvents s heritage
  | .space items => moduleItemsEvents s false items
  | .typeLevel parts => operandsEvents s parts

/-- The events of one item of a module. -/
def moduleItemEvents (s : Surroundings) (followsAnother : Bool) : ModuleItem → List Event
  | .stmt stmt => stmtEvents (s.listed followsAnother stmt) stmt
  | .importing _ attributes => propertiesEvents s attributes
  | .exporting decl => declEvents s decl
  | .exportDefault value => exprEvents s .operand value
  | .exportNames attributes => propertiesEvents s attributes
  | .exportOther parts => operandsEvents s parts

/-- The events of the items of a module. -/
def moduleItemsEvents (s : Surroundings) (followsAnother : Bool) : List ModuleItem → List Event
  | [] => []
  | item :: items =>
    moduleItemEvents s followsAnother item ++ moduleItemsEvents s true items

end

/-- The events of a whole program. -/
def programEvents (program : Program) : List Event :=
  let scopes := Scopes.global.declareAll (itemsBindings program.items)
  moduleItemsEvents ⟨scopes, none⟩ false program.items

end MapLint.Lint
