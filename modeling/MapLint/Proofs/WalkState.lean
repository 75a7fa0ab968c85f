import MapLint.Proofs.TreeParts

/-!
# The walk with a state

The events of a tree can also be collected by going through it once with a single state that every node
changes: scopes are opened and closed on a stack, how the next expression stands is noted before it is
visited and taken up by it, where the statement begins is put aside and put back around every statement
of a list, and events are written down behind those that are there.

## Architecture

- `Walker` is the state with its operations; `Walker.after` is the state after a visit that does no more
  than add events;
- `visitExpr` and its companions are the visits. What a visit notes it notes right before the
  expression in question; where nothing is noted, the expression is an operand;
- a `Fragment` is whatever is visited by itself, `walkProgram` is the walk through a program.
-/

namespace MapLint.Lint

open MapLint.Script

/-! ## The state -/

/-- What a walk has at hand while it goes through a tree. -/
structure Walker where
  scopes : Scopes
  /-- The start of the expression statement that is visited, if it follows another statement. -/
  head : Option Nat
  /-- How the next expression stands in its parent. -/
  position : Position
  /-- The events so far. -/
  events : List Event

namespace Walker

/-- What a node knows of where it stands. -/
def surroundings (w : Walker) : Surroundings := ⟨w.scopes, w.head⟩

/-- Notes how the next expression stands. -/
def noting (w : Walker) (position : Position) : Walker := { w with position }

/-- Takes up what was noted: what comes next is an operand. -/
def taking (w : Walker) : Walker := { w with position := .operand }

/-- Writes down events. -/
def recording (w : Walker) (events : List Event) : Walker := { w with events := w.events ++ events }

/-- Opens a scope and declares names in it. -/
def entering (w : Walker) (bindings : List (String × Binding)) : Walker :=
  { w with scopes := w.scopes.enter.declareAll bindings }

/-- Closes the current scope. -/
def leaving (w : Walker) : Walker := { w with scopes := w.scopes.exit }

/-- Notes where the statement begins that is visited next. -/
def heading (w : Walker) (head : Option Nat) : Walker := { w with head }

/-- The state after a visit that does no more than add events. -/
def after (w : Walker) (events : List Event) : Walker :=
  { w with position := .operand, events := w.events ++ events }

end Walker

/-- Where a statement of a list begins, if it is an expression that follows another statement. -/
def headOf (followsAnother : Bool) : Stmt → Option Nat
  | .expr start _ => if followsAnother then some start else none
  | _ => none

/-! ## The visits -/

mutual

def visitExpr : Expr → Walker → Walker
  | .ident _ _, w => w.taking
  | .this _, w => w.taking
  | .literal _ _, w => w.taking
  | .array _ items, w => visitItems items w.taking
  | .object _ properties, w => visitProperties properties w.taking
  | .function _ name function, w =>
    (visitFunction function (w.taking.entering (nameBindings name))).leaving
  | .arrow _ params body, w =>
    let w := w.taking.entering (patternsBindings .parameter params)
    let w := visitPatterns params w
    (visitArrowBody body w).leaving
  | .classValue _ members heritage, w => visitOperands heritage (visitMembers members w.taking)
  | .member _ object _ _, w => visitExpr object w.taking
  | .call span callee args types, w =>
    let w := w.taking.recording (callEvent w.surroundings w.position span args callee)
    let w := visitExpr callee w
    let w := visitItems args w
    visitOperands types w
  -- a pair of parentheses hands on what it has taken up
  | .paren _ inner, w => visitExpr inner (w.taking.noting w.position.inParens)
  | .conditional _ test yes no, w =>
    let w := visitExpr test (w.taking.noting .condition)
    let w := visitExpr yes (w.noting .condition)
    visitExpr no (w.noting .condition)
  | .assign span _ target value, w =>
    let w := w.taking.recording (assignEvent span target)
    let w := visitPattern target w
    visitExpr value (w.noting .standalone)
  | .typed _ inner types, w => visitOperands types (visitExpr inner w.taking)
  | .markup _ parts, w => visitInsets parts w.taking
  | .compound _ _ operands args types, w =>
    let w := visitOperands operands w.taking
    let w := visitItems args w
    visitOperands types w

def visitOperands : List Expr → Walker → Walker
  | [], w => w
  | e :: es, w => visitOperands es (visitExpr e w)

/-- An expression that may be missing, about which nothing is noted. -/
def visitOption : Option Expr → Walker → Walker
  | none, w => w
  | some e, w => visitExpr e w

/-- An expression that may be missing. How it stands is noted only where there is one. -/
def visitOptionIn (position : Position) : Option Expr → Walker → Walker
  | none, w => w
  | some e, w => visitExpr e (w.noting position)

/-- An element or argument. -/
def visitItem : Item → Walker → Walker
  | .hole, w => w
  | .plain e, w => visitExpr e (w.noting .standalone)
  | .spread _ e, w => visitExpr e (w.noting .standalone)

def visitItems : List Item → Walker → Walker
  | [], w => w
  | item :: items, w => visitItems items (visitItem item w)

/-- An expression in markup. Of one that is spread nothing is noted. -/
def visitInset : Item → Walker → Walker
  | .hole, w => w
  | .plain e, w => visitExpr e (w.noting .standalone)
  | .spread _ e, w => visitExpr e w

def visitInsets : List Item → Walker → Walker
  | [], w => w
  | item :: items, w => visitInsets items (visitInset item w)

def visitProperty : Property → Walker → Walker
  | .shorthand _ _ default, w => visitOption default w
  | .keyed _ key value, w => visitExpr value ((visitOption key w).noting .standalone)
  | .spread _ value, w => visitExpr value w
  | .getter _ key types body, w =>
    let w := visitOperands types (visitOption key w)
    (visitStmts false body (w.entering (stmtsBindings body))).leaving
  | .setter _ key params body, w =>
    let w := visitPatterns params (visitOption key w)
    (visitStmts false body (w.entering (stmtsBindings body))).leaving
  | .method _ key function, w => visitFunction function (visitOption key w)

def visitProperties : List Property → Walker → Walker
  | [], w => w
  | p :: ps, w => visitProperties ps (visitProperty p w)

def visitPattern : Pattern → Walker → Walker
  | .ident _ _ types, w => visitOperands types w
  | .array _ elements types, w => visitOperands types (visitPatterns elements w)
  | .object _ fields types, w => visitOperands types (visitFields fields w)
  | .rest _ inner types, w => visitOperands types (visitPattern inner w)
  | .withDefault _ inner value, w => visitExpr value (visitPattern inner w)
  | .place target, w => visitExpr target w

def visitPatterns : List Pattern → Walker → Walker
  | [], w => w
  | p :: ps, w => visitPatterns ps (visitPattern p w)

def visitField : Field → Walker → Walker
  | .keyed key value, w => visitPattern value (visitOption key w)
  | .shorthand _ types default, w => visitOption default (visitOperands types w)
  | .rest inner, w => visitPattern inner w

def visitFields : List Field → Walker → Walker
  | [], w => w
  | f :: fs, w => visitFields fs (visitField f w)

def visitFunction : Function → Walker → Walker
  | .mk params body types, w =>
    let w := w.entering (patternsBindings .parameter params)
    let w := visitPatterns params w
    let w := (visitStmts false body (w.entering (stmtsBindings body))).leaving
    (visitOperands types w).leaving

def visitArrowBody : ArrowBody → Walker → Walker
  | .block body, w => (visitStmts false body (w.entering (stmtsBindings body))).leaving
  | .value e, w => visitExpr e (w.noting .standalone)

def visitMember : ClassMember → Walker → Walker
  | .constructor params body, w =>
    let w := visitPatterns params w
    (visitStmts false body (w.entering (stmtsBindings body))).leaving
  | .method key function, w => visitFunction function (visitOption key w)
  | .field key value types, w => visitOperands types (visitOption value (visitOption key w))
  | .staticBlock body, w => (visitStmts false body (w.entering (stmtsBindings body))).leaving

def visitMembers : List ClassMember → Walker → Walker
  | [], w => w
  | m :: ms, w => visitMembers ms (visitMember m w)

def visitStmt : Stmt → Walker → Walker
  | .expr _ value, w => visitExpr value (w.noting .standalone)
  | .block body, w => (visitStmts false body (w.entering (stmtsBindings body))).leaving
  | .returning value, w => visitOptionIn .standalone value w
  | .throwing value, w => visitExpr value w
  | .choice test yes no, w =>
    let w := visitExpr test (w.noting .condition)
    visitStmt no (visitStmt yes w)
  | .whileLoop test body, w => visitStmt body (visitExpr test (w.noting .condition))
  | .doLoop body test, w => visitExpr test ((visitStmt body w).noting .condition)
  | .forLoop head test update body, w =>
    let w := visitLoopStart head (w.entering (forHeadBindings head))
    let w := visitOptionIn .condition test w
    let w := visitOptionIn .condition update w
    (visitStmt body w).leaving
  | .forEach head subject body, w =>
    let w := visitLoopTarget head (w.entering (forEachBindings head))
    let w := visitExpr subject w
    (visitStmt body w).leaving
  | .switch subject cases, w => visitCases cases (visitExpr subject w)
  | .trying block caught handler last, w =>
    let w := (visitStmts false block (w.entering (stmtsBindings block))).leaving
    let w := visitPatterns caught (w.entering (patternsBindings .parameter caught))
    let w := (visitStmts false handler (w.entering (stmtsBindings handler))).leaving.leaving
    (visitStmts false last (w.entering (stmtsBindings last))).leaving
  | .withObject object body, w => visitStmt body (visitExpr object w)
  | .labelled body, w => visitStmt body w
  | .declaration decl, w => visitDecl decl w
  | .inert, w => w

/-- The statements of a list. What was noted of the statement around the list is put back behind each
of them. -/
def visitStmts (followsAnother : Bool) : List Stmt → Walker → Walker
  | [], w => w
  | stmt :: stmts, w =>
    let visited := visitStmt stmt (w.heading (headOf followsAnother stmt))
    visitStmts true stmts (visited.heading w.head)

/-- What stands before the first semicolon in the head of a loop. -/
def visitLoopStart : ForHead → Walker → Walker
  | .empty, w => w
  | .vars _ vars, w => visitDeclarators vars w
  | .expr value, w => visitExpr value (w.noting .condition)
  | .pattern target, w => visitPattern target w

/-- What a loop over a value assigns to. -/
def visitLoopTarget : ForHead → Walker → Walker
  | .empty, w => w
  | .vars _ vars, w => visitDeclarators vars w
  | .expr value, w => visitExpr value w
  | .pattern target, w => visitPattern target w

def visitCases : List Case → Walker → Walker
  | [], w => w
  | c :: cs, w => visitCases cs (visitCase c w)

def visitCase : Case → Walker → Walker
  | .mk test body, w => visitStmts false body (visitOption test w)

def visitDeclarator : Declarator → Walker → Walker
  | .mk target value, w => visitOptionIn .standalone value (visitPattern target w)

def visitDeclarators : List Declarator → Walker → Walker
  | [], w => w
  | d :: ds, w => visitDeclarators ds (visitDeclarator d w)

def visitDecl : Decl → Walker → Walker
  | .vars _ vars, w => visitDeclarators vars w
  | .function _ function, w => visitFunction function w
  | .classNamed _ members heritage, w => visitOperands heritage (visitMembers members w)
  | .space items, w => visitModuleItems false items w
  | .typeLevel parts, w => visitOperands parts w

/-- An item of a module. Only of a statement it is noted where it begins. -/
def visitModuleItem (followsAnother : Bool) : ModuleItem → Walker → Walker
  | .stmt stmt, w => (visitStmt stmt (w.heading (headOf followsAnother stmt))).heading w.head
  | .importing _ attributes, w => visitProperties attributes w
  | .exporting decl, w => visitDecl decl w
  | .exportDefault value, w => visitExpr value w
  | .exportNames attributes, w => visitProperties attributes w
  | .exportOther parts, w => visitOperands parts w

def visitModuleItems (followsAnother : Bool) : List ModuleItem → Walker → Walker
  | [], w => w
  | item :: items, w => visitModuleItems true items (visitModuleItem followsAnother item w)

end

/-! ## Fragments -/

/-- A piece of a tree that is visited by itself. -/
inductive Fragment where
  | expr (e : Expr)
  | item (i : Item)
  /-- An expression in markup. -/
  | inset (i : Item)
  | property (p : Property)
  | pattern (p : Pattern)
  | field (f : Field)
  | function (f : Function)
  | arrowBody (b : ArrowBody)
  | member (m : ClassMember)
  | stmt (s : Stmt)
  | stmts (followsAnother : Bool) (stmts : List Stmt)
  | loopStart (h : ForHead)
  | loopTarget (h : ForHead)
  | clause (c : Case)
  | declarator (d : Declarator)
  | decl (d : Decl)
  | moduleItem (followsAnother : Bool) (item : ModuleItem)

namespace Fragment

def isExpr : Fragment → Bool
  | .expr _ => true
  | _ => false

def visit : Fragment → Walker → Walker
  | .expr e => visitExpr e
  | .item i => visitItem i
  | .inset i => visitInset i
  | .property p => visitProperty p
  | .pattern p => visitPattern p
  | .field f => visitField f
  | .function f => visitFunction f
  | .arrowBody b => visitArrowBody b
  | .member m => visitMember m
  | .stmt s => visitStmt s
  | .stmts followsAnother list => visitStmts followsAnother list
  | .loopStart h => visitLoopStart h
  | .loopTarget h => visitLoopTarget h
  | .clause c => visitCase c
  | .declarator d => visitDeclarator d
  | .decl d => visitDecl d
  | .moduleItem followsAnother i => visitModuleItem followsAnother i

/-- The events of a fragment. How it stands matters only for an expression. -/
def events (s : Surroundings) (position : Position) : Fragment → List Event
  | .expr e => exprEvents s position e
  | .item i => itemEvents s .standalone i
  | .inset i => itemEvents s .operand i
  | .property p => propertyEvents s p
  | .pattern p => patternEvents s p
  | .field f => fieldEvents s f
  | .function f => functionEvents s f
  | .arrowBody b => arrowBodyEvents s b
  | .member m => memberEvents s m
  | .stmt st => stmtEvents s st
  | .stmts followsAnother list => stmtsEvents s followsAnother list
  | .loopStart h => forHeadEvents s .condition h
  | .loopTarget h => forHeadEvents s .operand h
  | .clause c => caseEvents s c
  | .declarator d => declaratorEvents s d
  | .decl d => declEvents s d
  | .moduleItem followsAnother i => moduleItemEvents s followsAnother i

end Fragment

/-- The walk through a whole program, from a state without events in which its items have declared
their names. -/
def walkProgram (p : Program) : Walker :=
  visitModuleItems false p.items
    ⟨Scopes.global.declareAll (itemsBindings p.items), none, .operand, []⟩

end MapLint.Lint
