import MapLint.Proofs.ScopeLookup
import MapLint.Proofs.WalkState

/-!
# Visits are local

A walk with a state comes to the events of a tree only if every visit cleans up behind itself: each
scope that it opens is closed, what is noted is taken up, and what was put aside is put back. This is
proved for every kind of node at once, together with the events that the visit adds, so that the walk
with a state and the one without come to the same.

## Architecture

- the operations of a `Walker` are brought into the form `Walker.after`, in which a visit has added
  events and done nothing else;
- `visitExpr_eq` and its companions say that every visit has this form, and which events it adds;
- `visit_local` puts them together, down to the statements of a block.
-/

namespace MapLint.Lint

open MapLint.Script

/-! ## The state after a visit -/

/-- Closing a scope takes back its opening, whatever was declared in between. -/
theorem Scopes.exit_declareAll_enter (s : Scopes) (bindings : List (String × Binding)) :
    (s.enter.declareAll bindings).exit = s := by
  have houter : (s.enter.declareAll bindings).outer = s.chain :=
    (s.enter.declareAll_spec bindings).1
  rw [Scopes.exit, houter]
  rfl

namespace Walker

variable (w : Walker) (p : Position) (xs ys : List Event) (bindings : List (String × Binding))
  (head outer : Option Nat)

@[simp] theorem position_after : (w.after xs).position = .operand := by rw [after]
@[simp] theorem position_noting : (w.noting p).position = p := rfl
@[simp] theorem position_entering : (w.entering bindings).position = w.position := by rw [entering]
@[simp] theorem position_heading : (w.heading head).position = w.position := by rw [heading]
@[simp] theorem surroundings_after : (w.after xs).surroundings = w.surroundings := rfl
@[simp] theorem surroundings_noting : (w.noting p).surroundings = w.surroundings := rfl

@[simp]
theorem surroundings_entering :
    (w.entering bindings).surroundings = w.surroundings.inside bindings := rfl

@[simp]
theorem surroundings_heading (followsAnother : Bool) (stmt : Stmt) :
    (w.heading (headOf followsAnother stmt)).surroundings =
      w.surroundings.listed followsAnother stmt := by
  cases stmt <;> rfl

@[simp]
theorem taking_eq : w.taking = w.after [] := by simp [taking, after]

theorem eq_after_nil (h : w.position = .operand) : w = w.after [] := by
  rw [← taking_eq, taking, ← h]

@[simp]
theorem after_after : (w.after xs).after ys = w.after (xs ++ ys) := by simp [after]

@[simp]
theorem recording_after : (w.after xs).recording ys = w.after (xs ++ ys) := by
  simp [after, recording]

@[simp]
theorem after_noting : (w.noting p).after xs = w.after xs := rfl

@[simp]
theorem leaving_after_entering : ((w.entering bindings).after xs).leaving = w.after xs := by
  simp [entering, after, leaving, Scopes.exit_declareAll_enter]

@[simp]
theorem heading_after : (w.after xs).heading head = (w.heading head).after xs := rfl

@[simp]
theorem heading_heading : (w.heading head).heading outer = w.heading outer := rfl

@[simp]
theorem heading_head : w.heading w.head = w := rfl

end Walker

/-! ## Visits are local

One lemma for each kind of node, with one case for each constructor. All of them but the one on
expressions start from a state in which nothing is noted. -/

mutual

theorem visitExpr_eq : ∀ (e : Expr) (w : Walker),
    visitExpr e w = w.after (exprEvents w.surroundings w.position e)
  | .ident _ _, w => by simp [visitExpr, exprEvents]
  | .this _, w => by simp [visitExpr, exprEvents]
  | .literal _ _, w => by simp [visitExpr, exprEvents]
  | .array _ items, w => by simp [visitExpr, exprEvents, visitItems_eq items]
  | .object _ properties, w => by simp [visitExpr, exprEvents, visitProperties_eq properties]
  | .function _ name function, w => by
    cases name <;> simp [visitExpr, exprEvents, nameBindings, visitFunction_eq function]
  | .arrow _ params body, w => by
    simp [visitExpr, exprEvents, visitPatterns_eq params, visitArrowBody_eq body]
  | .classValue _ members heritage, w => by
    simp [visitExpr, exprEvents, visitMembers_eq members, visitOperands_eq heritage]
  | .member _ object _ _, w => by simp [visitExpr, exprEvents, visitExpr_eq object]
  | .call span callee args types, w => by
    simp [visitExpr, exprEvents, visitExpr_eq callee, visitItems_eq args, visitOperands_eq types]
  | .paren _ inner, w => by simp [visitExpr, exprEvents, visitExpr_eq inner]
  | .conditional _ test yes no, w => by
    simp [visitExpr, exprEvents, visitExpr_eq test, visitExpr_eq yes, visitExpr_eq no]
  | .assign span _ target value, w => by
    simp [visitExpr, exprEvents, visitPattern_eq target, visitExpr_eq value]
  | .typed _ inner types, w => by
    simp [visitExpr, exprEvents, visitExpr_eq inner, visitOperands_eq types]
  | .markup _ parts, w => by simp [visitExpr, exprEvents, visitInsets_eq parts]
  | .compound _ _ operands args types, w => by
    simp [visitExpr, exprEvents, visitOperands_eq operands, visitItems_eq args,
      visitOperands_eq types]

theorem visitOperands_eq : ∀ (es : List Expr) (w : Walker), w.position = .operand →
    visitOperands es w = w.after (operandsEvents w.surroundings es)
  | [], w, h => w.eq_after_nil h
  | e :: es, w, h => by
    simp [visitOperands, operandsEvents, visitExpr_eq e, visitOperands_eq es, h]

theorem visitOption_eq : ∀ (e : Option Expr) (w : Walker), w.position = .operand →
    visitOption e w = w.after (optionEvents w.surroundings .operand e)
  | none, w, h => w.eq_after_nil h
  | some e, w, h => by simp [visitOption, optionEvents, visitExpr_eq e, h]

theorem visitOptionIn_eq (position : Position) : ∀ (e : Option Expr) (w : Walker),
    w.position = .operand →
      visitOptionIn position e w = w.after (optionEvents w.surroundings position e)
  | none, w, h => w.eq_after_nil h
  | some e, w, h => by simp [visitOptionIn, optionEvents, visitExpr_eq e]

theorem visitItem_eq : ∀ (item : Item) (w : Walker), w.position = .operand →
    visitItem item w = w.after (itemEvents w.surroundings .standalone item)
  | .hole, w, h => w.eq_after_nil h
  | .plain e, w, h => by simp [visitItem, itemEvents, visitExpr_eq e]
  | .spread _ e, w, h => by simp [visitItem, itemEvents, visitExpr_eq e]

theorem visitItems_eq : ∀ (items : List Item) (w : Walker), w.position = .operand →
    visitItems items w = w.after (itemsEvents w.surroundings .standalone items)
  | [], w, h => w.eq_after_nil h
  | item :: items, w, h => by
    simp [visitItems, itemsEvents, visitItem_eq item, visitItems_eq items, h]

theorem visitInset_eq : ∀ (item : Item) (w : Walker), w.position = .operand →
    visitInset item w = w.after (itemEvents w.surroundings .operand item)
  | .hole, w, h => w.eq_after_nil h
  | .plain e, w, h => by simp [visitInset, itemEvents, visitExpr_eq e]
  | .spread _ e, w, h => by simp [visitInset, itemEvents, visitExpr_eq e, h]

theorem visitInsets_eq : ∀ (items : List Item) (w : Walker), w.position = .operand →
    visitInsets items w = w.after (itemsEvents w.surroundings .operand items)
  | [], w, h => w.eq_after_nil h
  | item :: items, w, h => by
    simp [visitInsets, itemsEvents, visitInset_eq item, visitInsets_eq items, h]

theorem visitProperty_eq : ∀ (p : Property) (w : Walker), w.position = .operand →
    visitProperty p w = w.after (propertyEvents w.surroundings p)
  | .shorthand _ _ default, w, h => by simp [visitProperty, propertyEvents, visitOption_eq default, h]
  | .keyed _ key value, w, h => by
    simp [visitProperty, propertyEvents, visitOption_eq key, visitExpr_eq value, h]
  | .spread _ value, w, h => by simp [visitProperty, propertyEvents, visitExpr_eq value, h]
  | .getter _ key types body, w, h => by
    simp [visitProperty, propertyEvents, visitOption_eq key, visitOperands_eq types,
      visitStmts_eq body, h]
  | .setter _ key params body, w, h => by
    simp [visitProperty, propertyEvents, visitOption_eq key, visitPatterns_eq params,
      visitStmts_eq body, h]
  | .method _ key function, w, h => by
    simp [visitProperty, propertyEvents, visitOption_eq key, visitFunction_eq function, h]

theorem visitProperties_eq : ∀ (ps : List Property) (w : Walker), w.position = .operand →
    visitProperties ps w = w.after (propertiesEvents w.surroundings ps)
  | [], w, h => w.eq_after_nil h
  | p :: ps, w, h => by
    simp [visitProperties, propertiesEvents, visitProperty_eq p, visitProperties_eq ps, h]

theorem visitPattern_eq : ∀ (p : Pattern) (w : Walker), w.position = .operand →
    visitPattern p w = w.after (patternEvents w.surroundings p)
  | .ident _ _ types, w, h => by simp [visitPattern, patternEvents, visitOperands_eq types, h]
  | .array _ elements types, w, h => by
    simp [visitPattern, patternEvents, visitPatterns_eq elements, visitOperands_eq types, h]
  | .object _ fields types, w, h => by
    simp [visitPattern, patternEvents, visitFields_eq fields, visitOperands_eq types, h]
  | .rest _ inner types, w, h => by
    simp [visitPattern, patternEvents, visitPattern_eq inner, visitOperands_eq types, h]
  | .withDefault _ inner value, w, h => by
    simp [visitPattern, patternEvents, visitPattern_eq inner, visitExpr_eq value, h]
  | .place target, w, h => by simp [visitPattern, patternEvents, visitExpr_eq target, h]

theorem visitPatterns_eq : ∀ (ps : List Pattern) (w : Walker), w.position = .operand →
    visitPatterns ps w = w.after (patternsEvents w.surroundings ps)
  | [], w, h => w.eq_after_nil h
  | p :: ps, w, h => by
    simp [visitPatterns, patternsEvents, visitPattern_eq p, visitPatterns_eq ps, h]

theorem visitField_eq : ∀ (f : Field) (w : Walker), w.position = .operand →
    visitField f w = w.after (fieldEvents w.surroundings f)
  | .keyed key value, w, h => by
    simp [visitField, fieldEvents, visitOption_eq key, visitPattern_eq value, h]
  | .shorthand _ types default, w, h => by
    simp [visitField, fieldEvents, visitOperands_eq types, visitOption_eq default, h]
  | .rest inner, w, h => by simp [visitField, fieldEvents, visitPattern_eq inner, h]

theorem visitFields_eq : ∀ (fs : List Field) (w : Walker), w.position = .operand →
    visitFields fs w = w.after (fieldsEvents w.surroundings fs)
  | [], w, h => w.eq_after_nil h
  | f :: fs, w, h => by
    simp [visitFields, fieldsEvents, visitField_eq f, visitFields_eq fs, h]

theorem visitFunction_eq : ∀ (f : Function) (w : Walker), w.position = .operand →
    visitFunction f w = w.after (functionEvents w.surroundings f)
  | .mk params body types, w, h => by
    simp [visitFunction, functionEvents, visitPatterns_eq params, visitStmts_eq body,
      visitOperands_eq types, h]

theorem visitArrowBody_eq : ∀ (body : ArrowBody) (w : Walker), w.position = .operand →
    visitArrowBody body w = w.after (arrowBodyEvents w.surroundings body)
  | .block body, w, h => by simp [visitArrowBody, arrowBodyEvents, visitStmts_eq body, h]
  | .value e, w, h => by simp [visitArrowBody, arrowBodyEvents, visitExpr_eq e]

theorem visitMember_eq : ∀ (m : ClassMember) (w : Walker), w.position = .operand →
    visitMember m w = w.after (memberEvents w.surroundings m)
  | .constructor params body, w, h => by
    simp [visitMember, memberEvents, visitPatterns_eq params, visitStmts_eq body, h]
  | .method key function, w, h => by
    simp [visitMember, memberEvents, visitOption_eq key, visitFunction_eq function, h]
  | .field key value types, w, h => by
    simp [visitMember, memberEvents, visitOption_eq key, visitOption_eq value,
      visitOperands_eq types, h]
  | .staticBlock body, w, h => by simp [visitMember, memberEvents, visitStmts_eq body, h]

theorem visitMembers_eq : ∀ (ms : List ClassMember) (w : Walker), w.position = .operand →
    visitMembers ms w = w.after (membersEvents w.surroundings ms)
  | [], w, h => w.eq_after_nil h
  | m :: ms, w, h => by
    simp [visitMembers, membersEvents, visitMember_eq m, visitMembers_eq ms, h]

theorem visitStmt_eq : ∀ (stmt : Stmt) (w : Walker), w.position = .operand →
    visitStmt stmt w = w.after (stmtEvents w.surroundings stmt)
  | .expr _ value, w, h => by simp [visitStmt, stmtEvents, visitExpr_eq value]
  | .block body, w, h => by simp [visitStmt, stmtEvents, visitStmts_eq body, h]
  | .returning value, w, h => by simp [visitStmt, stmtEvents, visitOptionIn_eq .standalone value, h]
  | .throwing value, w, h => by simp [visitStmt, stmtEvents, visitExpr_eq value, h]
  | .choice test yes no, w, h => by
    simp [visitStmt, stmtEvents, visitExpr_eq test, visitStmt_eq yes, visitStmt_eq no]
  | .whileLoop test body, w, h => by
    simp [visitStmt, stmtEvents, visitExpr_eq test, visitStmt_eq body]
  | .doLoop body test, w, h => by
    simp [visitStmt, stmtEvents, visitExpr_eq test, visitStmt_eq body, h]
  | .forLoop head test update body, w, h => by
    simp [visitStmt, stmtEvents, visitLoopStart_eq head, visitOptionIn_eq .condition test,
      visitOptionIn_eq .condition update, visitStmt_eq body, h]
  | .forEach head subject body, w, h => by
    simp [visitStmt, stmtEvents, visitLoopTarget_eq head, visitExpr_eq subject, visitStmt_eq body, h]
  | .switch subject cases, w, h => by
    simp [visitStmt, stmtEvents, visitExpr_eq subject, visitCases_eq cases, h]
  | .trying block caught handler last, w, h => by
    simp [visitStmt, stmtEvents, visitStmts_eq block, visitPatterns_eq caught,
      visitStmts_eq handler, visitStmts_eq last, h]
  | .withObject object body, w, h => by
    simp [visitStmt, stmtEvents, visitExpr_eq object, visitStmt_eq body, h]
  | .labelled body, w, h => by simp [visitStmt, stmtEvents, visitStmt_eq body, h]
  | .declaration decl, w, h => by simp [visitStmt, stmtEvents, visitDecl_eq decl, h]
  | .inert, w, h => w.eq_after_nil h

theorem visitStmts_eq : ∀ (stmts : List Stmt) (followsAnother : Bool) (w : Walker),
    w.position = .operand →
      visitStmts followsAnother stmts w = w.after (stmtsEvents w.surroundings followsAnother stmts)
  | [], _, w, h => w.eq_after_nil h
  | stmt :: stmts, followsAnother, w, h => by
    simp [visitStmts, stmtsEvents, visitStmt_eq stmt, visitStmts_eq stmts, h]

theorem visitLoopStart_eq : ∀ (head : ForHead) (w : Walker), w.position = .operand →
    visitLoopStart head w = w.after (forHeadEvents w.surroundings .condition head)
  | .empty, w, h => w.eq_after_nil h
  | .vars _ vars, w, h => by simp [visitLoopStart, forHeadEvents, visitDeclarators_eq vars, h]
  | .expr value, w, h => by simp [visitLoopStart, forHeadEvents, visitExpr_eq value]
  | .pattern target, w, h => by simp [visitLoopStart, forHeadEvents, visitPattern_eq target, h]

theorem visitLoopTarget_eq : ∀ (head : ForHead) (w : Walker), w.position = .operand →
    visitLoopTarget head w = w.after (forHeadEvents w.surroundings .operand head)
  | .empty, w, h => w.eq_after_nil h
  | .vars _ vars, w, h => by simp [visitLoopTarget, forHeadEvents, visitDeclarators_eq vars, h]
  | .expr value, w, h => by simp [visitLoopTarget, forHeadEvents, visitExpr_eq value, h]
  | .pattern target, w, h => by simp [visitLoopTarget, forHeadEvents, visitPattern_eq target, h]

theorem visitCase_eq : ∀ (c : Case) (w : Walker), w.position = .operand →
    visitCase c w = w.after (caseEvents w.surroundings c)
  | .mk test body, w, h => by
    simp [visitCase, caseEvents, visitOption_eq test, visitStmts_eq body, h]

theorem visitCases_eq : ∀ (cs : List Case) (w : Walker), w.position = .operand →
    visitCases cs w = w.after (casesEvents w.surroundings cs)
  | [], w, h => w.eq_after_nil h
  | c :: cs, w, h => by simp [visitCases, casesEvents, visitCase_eq c, visitCases_eq cs, h]

theorem visitDeclarator_eq : ∀ (d : Declarator) (w : Walker), w.position = .operand →
    visitDeclarator d w = w.after (declaratorEvents w.surroundings d)
  | .mk target value, w, h => by
    simp [visitDeclarator, declaratorEvents, visitPattern_eq target,
      visitOptionIn_eq .standalone value, h]

theorem visitDeclarators_eq : ∀ (ds : List Declarator) (w : Walker), w.position = .operand →
    visitDeclarators ds w = w.after (declaratorsEvents w.surroundings ds)
  | [], w, h => w.eq_after_nil h
  | d :: ds, w, h => by
    simp [visitDeclarators, declaratorsEvents, visitDeclarator_eq d, visitDeclarators_eq ds, h]

theorem visitDecl_eq : ∀ (d : Decl) (w : Walker), w.position = .operand →
    visitDecl d w = w.after (declEvents w.surroundings d)
  | .vars _ vars, w, h => by simp [visitDecl, declEvents, visitDeclarators_eq vars, h]
  | .function _ function, w, h => by simp [visitDecl, declEvents, visitFunction_eq function, h]
  | .classNamed _ members heritage, w, h => by
    simp [visitDecl, declEvents, visitMembers_eq members, visitOperands_eq heritage, h]
  | .space items, w, h => by simp [visitDecl, declEvents, visitModuleItems_eq items, h]
  | .typeLevel parts, w, h => by simp [visitDecl, declEvents, visitOperands_eq parts, h]

theorem visitModuleItem_eq : ∀ (item : ModuleItem) (followsAnother : Bool) (w : Walker),
    w.position = .operand →
      visitModuleItem followsAnother item w =
        w.after (moduleItemEvents w.surroundings followsAnother item)
  | .stmt stmt, followsAnother, w, h => by
    simp [visitModuleItem, moduleItemEvents, visitStmt_eq stmt, h]
  | .importing _ attributes, _, w, h => by
    simp [visitModuleItem, moduleItemEvents, visitProperties_eq attributes, h]
  | .exporting decl, _, w, h => by simp [visitModuleItem, moduleItemEvents, visitDecl_eq decl, h]
  | .exportDefault value, _, w, h => by
    simp [visitModuleItem, moduleItemEvents, visitExpr_eq value, h]
  | .exportNames attributes, _, w, h => by
    simp [visitModuleItem, moduleItemEvents, visitProperties_eq attributes, h]
  | .exportOther parts, _, w, h => by
    simp [visitModuleItem, moduleItemEvents, visitOperands_eq parts, h]

theorem visitModuleItems_eq : ∀ (items : List ModuleItem) (followsAnother : Bool) (w : Walker),
    w.position = .operand →
      visitModuleItems followsAnother items w =
        w.after (moduleItemsEvents w.surroundings followsAnother items)
  | [], _, w, h => w.eq_after_nil h
  | item :: items, followsAnother, w, h => by
    simp [visitModuleItems, moduleItemsEvents, visitModuleItem_eq item, visitModuleItems_eq items, h]

end

/-! ## What a visit adds -/

/-- Visiting a fragment adds its events and does nothing else. -/
theorem Fragment.visit_eq_after (f : Fragment) {w : Walker} (h : w.position = .operand ∨ f.isExpr = true) :
    f.visit w = w.after (f.events w.surroundings w.position) := by
  rcases h with h | h
  · cases f with
    | expr e => exact visitExpr_eq e w
    | item i => exact visitItem_eq i w h
    | inset i => exact visitInset_eq i w h
    | property p => exact visitProperty_eq p w h
    | pattern p => exact visitPattern_eq p w h
    | field f => exact visitField_eq f w h
    | function f => exact visitFunction_eq f w h
    | arrowBody b => exact visitArrowBody_eq b w h
    | member m => exact visitMember_eq m w h
    | stmt s => exact visitStmt_eq s w h
    | stmts followsAnother list => exact visitStmts_eq list followsAnother w h
    | loopStart head => exact visitLoopStart_eq head w h
    | loopTarget head => exact visitLoopTarget_eq head w h
    | clause c => exact visitCase_eq c w h
    | declarator d => exact visitDeclarator_eq d w h
    | decl d => exact visitDecl_eq d w h
    | moduleItem followsAnother item => exact visitModuleItem_eq item followsAnother w h
  · cases f with
    | expr e => exact visitExpr_eq e w
    | _ => cases h

theorem events_walkProgram (p : Program) : (walkProgram p).events = programEvents p := by
  rw [walkProgram, visitModuleItems_eq p.items false _ rfl]
  rfl

/-- The events of a statement stand between those of the statements around it. -/
theorem stmtsEvents_append (s : Surroundings) (followsAnother : Bool) (before after : List Stmt)
    (stmt : Stmt) :
    stmtsEvents s followsAnother (before ++ stmt :: after) =
      stmtsEvents s followsAnother before ++
        stmtEvents (s.listed (followsAnother || !before.isEmpty) stmt) stmt ++
        stmtsEvents s true after := by
  induction before generalizing followsAnother with
  | nil => simp [stmtsEvents]
  | cons first before ih => simp [stmtsEvents, ih]

/-- Visits are local. Visiting a fragment leaves the scopes and the head of the statement as they were
and nothing noted, and adds events that depend on the fragment and on the scopes, the head and the
position before it, and not on the events that are there. Gone through in this way, a program has the
events that it has; and what a statement of a block adds depends on the other statements only through
the names that they declare in the block, and on whether there is one before it. -/
theorem visit_local :
    (∀ (f : Fragment) (w : Walker), w.position = .operand ∨ f.isExpr = true →
      f.visit w =
        { scopes := w.scopes
          head := w.head
          position := .operand
          events := w.events ++ f.events w.surroundings w.position }) ∧
    (∀ p : Program, (walkProgram p).events = programEvents p) ∧
    ∀ stmt : Stmt, ∃ own : Surroundings → Bool → List Event,
      ∀ (before after : List Stmt) (w : Walker), w.position = .operand →
        ∀ inner, inner = w.surroundings.inside (stmtsBindings (before ++ stmt :: after)) →
          (visitStmt (.block (before ++ stmt :: after)) w).events =
            w.events ++ (stmtsEvents inner false before ++ own inner (!before.isEmpty) ++
              stmtsEvents inner true after) := by
  refine ⟨fun f w h => f.visit_eq_after h, events_walkProgram, fun stmt => ?_⟩
  refine ⟨fun s followsAnother => stmtEvents (s.listed followsAnother stmt) stmt, ?_⟩
  rintro before after w h inner rfl
  rw [visitStmt_eq _ w h, stmtEvents, stmtsEvents_append, Bool.false_or]
  rfl

/-- A walk through `_ = g; _.map([0], f) ? a : b` that has come to the call. -/
def beforeTest : Walker :=
  ⟨.global, some 7, .condition, [.receiverAssigned ⟨0, 5⟩]⟩

def testCall : Expr :=
  .call ⟨7, 20⟩ (.member ⟨7, 12⟩ (.ident ⟨7, 8⟩ "_") "map" ⟨9, 12⟩)
    [.plain (.array ⟨13, 16⟩ [.plain (.literal ⟨14, 15⟩ false)]), .plain (.ident ⟨18, 19⟩ "f")] []

/-- The call takes up that it is a condition, and leaves nothing else behind. In a block, what it adds
stands behind what the statement before it adds. -/
theorem visit_local_test :
    (∃ site, visitExpr testCall beforeTest =
        ⟨.global, some 7, .operand, [.receiverAssigned ⟨0, 5⟩, .call site]⟩ ∧
      site.position = .condition ∧ site.opensStatement = true) ∧
    ∃ own : Surroundings → Bool → List Event,
      (visitStmt (.block [.expr 0 testCall, .returning (some testCall)]) beforeTest.taking).events =
        [.receiverAssigned ⟨0, 5⟩] ++
          (stmtsEvents (beforeTest.surroundings.inside []) false [.expr 0 testCall] ++
            own (beforeTest.surroundings.inside []) true) := by
  obtain ⟨hvisit, -, hblock⟩ := visit_local
  refine ⟨⟨_, hvisit (.expr testCall) beforeTest (.inr rfl), rfl, rfl⟩, ?_⟩
  obtain ⟨own, hown⟩ := hblock (.returning (some testCall))
  refine ⟨own, ?_⟩
  have hevents := hown [.expr 0 testCall] [] beforeTest.taking rfl _ rfl
  rw [stmtsEvents, List.append_nil] at hevents
  exact hevents

end MapLint.Lint
