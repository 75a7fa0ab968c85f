import MapLint.Proofs.ScopeLookup
import MapLint.Lint.Analysis

/-!
# What hides an outer declaration

A parameter hides what is declared outside its function, and a declaration hides what is declared
outside its list of statements, for every call between them and whatever else stands in the program.
Both are the same fact about trails: the way to the call leads through a part that opens the scope
in question, and no scope that is opened further on declares the name again.

There are constructs that open no such scope. The parameters of a constructor and of a setter in an
object, and the declarations in the clauses of a `switch`, are not seen at all: their names mean
what they mean outside. Neither is a class that is exported by default, nor what `import xs = require(..)`
declares. And a `var` is a declaration of the list that it stands in, like any other
one, not of the whole function.

## Architecture

- `Plain` says of parts that no scope is opened around them;
- `opened_of_mem_parts` is the scope that a construct opens for its parameters, and
  `parameter_hides_outer` the theorem about them; `constructor_parameter_unseen` is where it ends;
- `Declares` are the constructs that open a scope for declarations, and `declaration_hides_outer` is
  the theorem about them; `nested_var_unseen` is where it ends.
-/

namespace MapLint.Lint

open MapLint.Script

/-! ## Scopes around parts -/

/-- No scope is opened around any of the parts. -/
def Plain (parts : List Part) : Prop := ∀ part ∈ parts, part.opened = []

section Plain

variable {ps qs : List Part}

@[simp]
theorem plain_nil : Plain [] := by simp [Plain]

@[simp]
theorem plain_cons {part : Part} : Plain (part :: ps) ↔ part.opened = [] ∧ Plain ps := by
  simp [Plain]

@[simp]
theorem plain_append : Plain (ps ++ qs) ↔ Plain ps ∧ Plain qs := by
  simp only [Plain, List.mem_append, or_imp, forall_and]

@[simp]
theorem plain_operandParts (es : List Expr) : Plain (operandParts es) := by
  simp [Plain, operandParts]

@[simp]
theorem plain_optionParts (position : Position) (e : Option Expr) :
    Plain (optionParts position e) := by
  cases e <;> simp [optionParts]

@[simp]
theorem plain_patternsParts (patterns : List Pattern) : Plain (patternsParts patterns) := by
  simp [Plain, patternsParts]

@[simp]
theorem plain_stmtsParts (followsAnother : Bool) (stmts : List Stmt) :
    Plain (stmtsParts followsAnother stmts) := by
  induction stmts generalizing followsAnother with
  | nil => simp [stmtsParts]
  | cons stmt stmts ih => simp [stmtsParts, ih]

@[simp]
theorem plain_forHeadParts (position : Position) (head : ForHead) :
    Plain (forHeadParts position head) := by
  cases head with
  | vars kind vars =>
    induction vars with
    | nil => simp [forHeadParts]
    | cons var vars ih =>
      obtain ⟨target, value⟩ := var
      simpa [forHeadParts, declaratorParts] using ih
  | _ => simp [forHeadParts]

@[simp]
theorem plain_caseParts (cases : List Case) : Plain (cases.flatMap caseParts) := by
  induction cases with
  | nil => simp
  | cons c cs ih =>
    obtain ⟨test, body⟩ := c
    simp [caseParts, ih]

@[simp]
theorem plain_arrowBodyPart (body : ArrowBody) : (arrowBodyPart body).opened = [] := by
  cases body <;> rfl

theorem Plain.opened_of_mem_map (h : Plain ps) {scope : Scope} {part : Part}
    (hpart : part ∈ ps.map (Part.inside scope)) : part.opened = [scope] := by
  obtain ⟨inner, hinner, rfl⟩ := List.mem_map.mp hpart
  rw [Part.opened_inside, h inner hinner]

end Plain

/-! ## Parameters -/

/-- The parameters of a construct. A class declares its methods, getters and setters as functions,
and an object its methods; a setter of an object and a constructor are constructs of their own. -/
def Node.params : Node → List Pattern
  | .function (.mk params _ _) => params
  | .expr (.arrow _ params _) => params
  | .member (.constructor params _) => params
  | .property (.setter _ _ params _) => params
  | _ => []

/-- The construct opens a scope for its parameters. -/
def Node.scopesParams : Node → Bool
  | .member (.constructor _ _) => false
  | .property (.setter _ _ _ _) => false
  | _ => true

/-- What a construct opens around its parts for its parameters. -/
theorem opened_of_mem_parts {construct entry : Part} {name : String}
    (hentry : entry ∈ construct.parts) (hname : name ∈ patternsNames construct.node.params) :
    entry.opened = if construct.node.scopesParams then
      [patternsBindings .parameter construct.node.params] else [] := by
  obtain ⟨node, position, opened, listed⟩ := construct
  unfold Node.params at hname ⊢
  dsimp only at hname ⊢
  split at hname
  case h_1 params body types =>
    refine Plain.opened_of_mem_map ?_ hentry
    simp
  case h_2 span params body =>
    refine Plain.opened_of_mem_map ?_ hentry
    simp
  case h_3 params body =>
    refine (?_ : Plain (memberParts (.constructor params body))) entry hentry
    simp [memberParts]
  case h_4 span key params body =>
    refine (?_ : Plain (propertyParts (.setter span key params body))) entry hentry
    simp [propertyParts]
  case h_5 => cases hname

/-- A parameter has no initial value, whatever it is taken out of. -/
theorem lookup_patternsBindings {name : String} {params : List Pattern} {b : Binding}
    (h : List.lookup name (patternsBindings .parameter params) = some b) :
    (name, b) ∈ patternsBindings .parameter params ∧ b.init = none := by
  obtain ⟨before, after, heq, -⟩ := List.lookup_eq_some_iff.mp h
  have hmem : (name, b) ∈ patternsBindings .parameter params := by simp [heq]
  exact ⟨hmem, init_patternsBindings .parameter params _ hmem⟩

/-- An array that is not seen leads to no unconditional replacement. -/
theorem classify_action_of_init_none {argument : Argument} {name : String} {origin : Origin}
    (h : argument.operand = .bound ⟨name, none, origin⟩) (strictness : Strictness)
    (callback : Argument) : (classify strictness argument callback).action ≠ .unconditional := by
  have hgrade : sequenceEvidence strictness argument = .objectLike ∨
      sequenceEvidence strictness argument = .unknown := by
    -- the origin may still tell that it is an object
    unfold sequenceEvidence
    rw [h]
    dsimp only
    split
    · exact .inl rfl
    · exact .inr rfl
  have haction : ∀ invocable, decide strictness .objectLike invocable ≠ .unconditional ∧
      decide strictness .unknown invocable ≠ .unconditional := by
    intro invocable
    cases strictness <;> cases invocable <;> simp [decide]
  rcases hgrade with hgrade | hgrade
  · simpa [classify, hgrade] using (haction _).1
  · simpa [classify, hgrade] using (haction _).2

/-- What is recorded of a variable whose name is bound by a parameter of a function, a method or an
arrow around the call, and by no scope between the two: the parameter, which has no initial value.
So no declaration outside counts, and no array that one of them holds leads to an unconditional
replacement. -/
theorem parameter_hides_outer (p : Program) {outer inner : List Part} {construct entry : Part}
    {e : Expr} {site : CallSite} {name : String}
    (hcall : Recorded p (outer ++ construct :: entry :: inner) e site)
    (hscopes : construct.node.scopesParams = true)
    (hname : name ∈ patternsNames construct.node.params)
    (hfree : ∀ scope ∈ openedAlong inner, name ∉ Scope.names scope) :
    Event.call site ∈ programEvents p ∧
    List.Forall₂ (fun arg argument => shapeOf arg = .reference name →
        ∃ origin, (name, ⟨none, origin⟩) ∈ patternsBindings .parameter construct.node.params ∧
          argument.operand = .bound ⟨name, none, origin⟩ ∧
          ∀ strictness callback, (classify strictness argument callback).action ≠ .unconditional)
      (callArguments e) site.arguments := by
  refine ⟨call_mem_programEvents_iff.mpr ⟨_, e, hcall⟩, ?_⟩
  -- the trail enters the construct through a part that is in the scope of the parameters
  have hentry : entry ∈ construct.parts := (isTrail_append_cons.mp hcall.isTrail).2.1
  have hopened := opened_of_mem_parts hentry hname
  rw [if_pos hscopes] at hopened
  have hinside : openedAlong (entry :: inner) =
      [] ++ patternsBindings .parameter construct.node.params :: openedAlong inner := by
    simp [openedAlong, hopened]
  have hdeclared : name ∈ Scope.names (patternsBindings .parameter construct.node.params) := by
    rw [names_patternsBindings]
    exact hname
  -- of several parameters with the name the first one is found, but none has an initial value
  obtain ⟨b, hb⟩ := mem_names_iff.mp hdeclared
  obtain ⟨hmem, hinit⟩ := lookup_patternsBindings hb
  obtain ⟨init, origin⟩ := b
  obtain rfl : init = none := hinit
  refine hcall.arguments.imp fun arg argument hargument harg => ?_
  have hoperand : argument.operand = .bound ⟨name, none, origin⟩ := by
    rw [hargument.2, List.append_cons, along_append]
    exact operandOf_along hinside hb hfree _ harg
  exact ⟨origin, hmem, hoperand, classify_action_of_init_none hoperand⟩

/-- The call `_.map(xs, f)`. -/
def mapOfXs : Expr :=
  .call ⟨33, 45⟩ (.member ⟨33, 38⟩ (.ident ⟨33, 34⟩ "_") "map" ⟨35, 38⟩)
    [.plain (.ident ⟨39, 41⟩ "xs"), .plain (.ident ⟨43, 44⟩ "f")] []

/-- The function in `function g(xs) { _.map(xs, f); }`. -/
def mapOfParameter : Function := .mk [.ident ⟨27, 29⟩ "xs" []] [.expr 33 mapOfXs] []

/-- The script `const xs = [1]; function g(xs) { _.map(xs, f); }`. -/
def arrayBehindParameter : Program :=
  ⟨false, [.stmt (.declaration (.vars .const [.mk (.ident ⟨6, 8⟩ "xs" [])
      (some (.array ⟨11, 14⟩ [.plain (.literal ⟨12, 13⟩ false)]))])),
    .stmt (.declaration (.function "g" mapOfParameter))]⟩

/-- The array is not seen: the parameter is what is recorded. -/
theorem parameter_hides_array :
    ∃ site argument, Event.call site ∈ programEvents arrayBehindParameter ∧
      site.arguments.head? = some argument ∧
      argument.operand = .bound ⟨"xs", none, .parameter⟩ ∧
      ∀ callback, (classify .loose argument callback).action ≠ .unconditional := by
  have htrail : IsTrail arrayBehindParameter.parts
      ([.statement true (.declaration (.function "g" mapOfParameter)),
        .of (.decl (.function "g" mapOfParameter))] ++ .of (.function mapOfParameter) ::
        (Part.of (.block [.expr 33 mapOfXs])).inside [("xs", ⟨none, .parameter⟩)] ::
        [(Part.statement false (.expr 33 mapOfXs)).inside [], .expr .standalone mapOfXs]) := by
    simp [IsTrail, arrayBehindParameter, mapOfParameter, Program.parts, moduleItemsParts,
      moduleItemParts, Part.parts, Node.parts, stmtParts, declParts, functionParts, patternsParts,
      stmtsParts, patternsBindings, patternBindings, stmtsBindings]
  obtain ⟨hmem, hargs⟩ := parameter_hides_outer arrayBehindParameter
    ⟨htrail, _, rfl, rfl, List.mem_singleton_self _⟩ rfl (List.mem_singleton_self "xs")
    (by simp [openedAlong, Scope.names])
  cases hargs with
  | cons hfirst hrest =>
    obtain ⟨origin, horigin, hoperand, haction⟩ := hfirst rfl
    obtain rfl : origin = .parameter := by
      simpa [Node.params, mapOfParameter, patternsBindings, patternBindings] using horigin
    exact ⟨_, _, hmem, rfl, hoperand, haction .loose⟩

/-- What is recorded of a variable where nothing between an outer place and the call declares its
name is what it would be at that place. -/
theorem Recorded.arguments_of_not_mem {p : Program} {outer inner : List Part} {e : Expr}
    {site : CallSite} {name : String} (hcall : Recorded p (outer ++ inner) e site)
    (hfree : ∀ scope ∈ openedAlong inner, name ∉ Scope.names scope) :
    List.Forall₂ (fun arg argument => shapeOf arg = .reference name →
        argument.operand = operandOf (p.surroundings.along outer).scopes arg)
      (callArguments e) site.arguments := by
  refine hcall.arguments.imp fun arg argument hargument harg => ?_
  rw [hargument.2, along_append]
  exact operandOf_along_of_not_mem hfree _ harg

/-- The parameters of a constructor, and of a setter in an object, hide nothing: their names come to
what they come to outside. -/
theorem unscoped_parameter_hides_nothing {p : Program} {outer inner : List Part}
    {construct entry : Part} {e : Expr} {site : CallSite} {name : String}
    (hcall : Recorded p (outer ++ construct :: entry :: inner) e site)
    (hscopes : construct.node.scopesParams = false)
    (hname : name ∈ patternsNames construct.node.params)
    (hfree : ∀ scope ∈ openedAlong inner, name ∉ Scope.names scope) :
    List.Forall₂ (fun arg argument => shapeOf arg = .reference name →
        argument.operand = operandOf (p.surroundings.along (outer ++ [construct])).scopes arg)
      (callArguments e) site.arguments := by
  have hentry : entry ∈ construct.parts := (isTrail_append_cons.mp hcall.isTrail).2.1
  have hopened := opened_of_mem_parts hentry hname
  rw [hscopes, if_neg Bool.false_ne_true] at hopened
  rw [List.append_cons] at hcall
  refine hcall.arguments_of_not_mem ?_
  simpa [openedAlong, hopened] using hfree

/-- The arguments of the calls in a file, as they are recorded. -/
def operandsAt (path : Path) (text : String) : Option (List (List Operand)) :=
  (parseSource path text.toList).toOption.map fun source =>
    (programEvents source.program).map fun
      | .call site => site.arguments.map Argument.operand
      | .receiverAssigned _ => []

/-- The arguments of the calls in a script without types. -/
def operandsIn (text : String) : Option (List (List Operand)) := operandsAt "a.js" text

set_option maxRecDepth 100000 in
/-- The parameter of a constructor, and of a setter in an object, is not seen: the array outside is
taken for it, and the call is replaced on the strength of that. -/
theorem constructor_parameter_unseen :
    operandsIn "const xs = [1]; class A { constructor(xs) { _.map(xs, f); } }" =
      some [[.bound ⟨"xs", some .sequence, .variable⟩, .unbound "f"]] ∧
    operandsIn "const xs = [1]; const o = { set a(xs) { _.map(xs, f); } };" =
      some [[.bound ⟨"xs", some .sequence, .variable⟩, .unbound "f"]] ∧
    ((parseSource "a.js"
        "const xs = [1]; class A { constructor(xs) { _.map(xs, f); } }".toList).toOption.map
        fun source => (source.findings .loose).map Finding.edit) =
      some [⟨⟨44, 56⟩, "xs.map(f)".toList⟩] := by
  decide +kernel

/-! ## Declarations -/

/-- The construct opens a scope for declarations around all of its parts. The names that are declared
there, and what is known of them. -/
inductive Declares : Node → List String → Scope → Prop where
  /-- The statements of a block declare names for the block. -/
  | block (body : List Stmt) :
      Declares (.block body) (body.flatMap stmtNames) (stmtsBindings body)
  /-- The head of a loop declares names for the loop. -/
  | forLoop (kind : VarKind) (vars : List Declarator) (test update : Option Expr) (body : Stmt) :
      Declares (.stmt (.forLoop (.vars kind vars) test update body)) (declNames (.vars kind vars))
        (forHeadBindings (.vars kind vars))
  | forEach (kind : VarKind) (vars : List Declarator) (subject : Expr) (body : Stmt) :
      Declares (.stmt (.forEach (.vars kind vars) subject body)) (declNames (.vars kind vars))
        (forEachBindings (.vars kind vars))

/-- A scope for declarations around the end of a trail: that of the program, or one that a construct
on the way opens. The names that are declared there, what is known of them, and the trail up to where
the scope is entered and from there on. -/
inductive EnclosingScope (p : Program) :
    List Part → List String → Scope → List Part → List Part → Prop where
  | program (trail : List Part) :
      EnclosingScope p trail (p.items.flatMap moduleItemNames) (itemsBindings p.items) [] trail
  | construct {outer inner : List Part} {construct entry : Part} {names : List String}
      {declared : Scope} (h : Declares construct.node names declared) :
      EnclosingScope p (outer ++ construct :: entry :: inner) names declared
        (outer ++ [construct, entry]) inner

section Declarations

variable {p : Program} {trail outer inner : List Part} {names : List String} {declared : Scope}

theorem Declares.names_eq {node : Node} (h : Declares node names declared) :
    Scope.names declared = names := by
  cases h with
  | block body => exact names_stmtsBindings body
  | forLoop kind vars => exact names_forHeadBindings vars kind
  | forEach kind vars => exact names_forEachBindings vars kind

/-- The scope of a construct is the only one that it opens around its parts. -/
theorem Declares.opened_of_mem_parts {construct entry : Part}
    (h : Declares construct.node names declared) (hentry : entry ∈ construct.parts) :
    entry.opened = [declared] := by
  obtain ⟨node, position, opened, listed⟩ := construct
  cases h with
  | block body =>
    refine Plain.opened_of_mem_map ?_ hentry
    simp
  | forLoop kind vars test update body =>
    refine Plain.opened_of_mem_map ?_ hentry
    simp
  | forEach kind vars subject body =>
    refine Plain.opened_of_mem_map ?_ hentry
    simp

theorem EnclosingScope.eq_append (h : EnclosingScope p trail names declared outer inner) :
    trail = outer ++ inner := by
  cases h with
  | program => rfl
  | construct => simp

theorem EnclosingScope.names_eq (h : EnclosingScope p trail names declared outer inner) :
    Scope.names declared = names := by
  cases h with
  | program => exact names_itemsBindings p.items
  | construct h => exact h.names_eq

/-- Where the scope is entered, it is the innermost one. -/
theorem EnclosingScope.lookup_eq (h : EnclosingScope p trail names declared outer inner)
    (htrail : IsTrail p.parts trail) {name : String} {b : Binding}
    (hb : List.lookup name declared = some b) :
    lookup name (p.surroundings.along outer).scopes.chain =
      some (b, (p.surroundings.along outer).scopes.chain) := by
  cases h with
  | program =>
    obtain ⟨-, hfind⟩ := Scopes.global.declareAll_spec (itemsBindings p.items)
    have hcurrent : p.surroundings.scopes.current.find? name = some b := (hfind name).trans hb
    simp only [Surroundings.along, List.foldl_nil, Scopes.chain, lookup, hcurrent]
  | @construct outer _ construct entry _ _ hdeclares =>
    have hopened : entry.opened = [declared] :=
      hdeclares.opened_of_mem_parts (isTrail_append_cons.mp htrail).2.1
    have hscopes : (p.surroundings.along (outer ++ [construct, entry])).scopes =
        ((p.surroundings.along (outer ++ [construct])).inside declared).scopes := by
      rw [List.append_cons, along_append, scopes_along, openedAlong, List.flatMap_singleton, hopened]
      rfl
    rw [hscopes]
    exact lookup_inside_of_lookup hb

/-- What is recorded of a variable that is declared around the call, in the body of the program, in a
block or in the head of a loop: it is bound to the first declaration of the name there or, if some
scope further in declares the name too, in the innermost of these. So it is never unbound, and no
declaration further out counts. -/
theorem declaration_hides_outer (p : Program) {trail outer inner : List Part} {names : List String}
    {declared : Scope} {e : Expr} {site : CallSite} {name : String}
    (hcall : Recorded p trail e site) (hscope : EnclosingScope p trail names declared outer inner)
    (hname : name ∈ names) :
    Event.call site ∈ programEvents p ∧
    ∃ before scope after b, declared :: openedAlong inner = before ++ scope :: after ∧
      (∀ further ∈ after, name ∉ Scope.names further) ∧ List.lookup name scope = some b ∧
      List.Forall₂ (fun arg argument => shapeOf arg = .reference name →
          argument.operand = .bound ⟨name, settle maxHops b.init
            ((before ++ [scope]).tail.foldl Surroundings.inside
              (p.surroundings.along outer)).scopes.chain, b.origin⟩)
        (callArguments e) site.arguments := by
  refine ⟨call_mem_programEvents_iff.mpr ⟨trail, e, hcall⟩, ?_⟩
  rw [← hscope.names_eq] at hname
  obtain ⟨before, scope, after, b, hsplit, hafter, hb⟩ :=
    exists_innermost ⟨declared, List.mem_cons_self, hname⟩
  refine ⟨before, scope, after, b, hsplit, hafter, hb, ?_⟩
  refine hcall.arguments.imp fun arg argument hargument harg => ?_
  rw [hargument.2, hscope.eq_append, along_append]
  cases before with
  | nil =>
    -- nothing further in declares the name, so it is looked up from the list itself
    obtain ⟨rfl, rfl⟩ := List.cons.inj hsplit
    rw [operandOf_along_of_not_mem hafter _ harg, operandOf_reference harg,
      hscope.lookup_eq hcall.isTrail hb]
    rfl
  | cons first before =>
    -- the innermost scope is one that is opened between the list and the call
    obtain ⟨-, hopened⟩ := List.cons.inj hsplit
    exact operandOf_along hopened hb hafter _ harg

/-- The body `_.map(xs, f); const xs = [1];` of a function. -/
def mapBeforeArray : List Stmt :=
  [.expr 33 mapOfXs, .declaration (.vars .const [.mk (.ident ⟨53, 55⟩ "xs" [])
    (some (.array ⟨58, 61⟩ [.plain (.literal ⟨59, 60⟩ false)]))])]

/-- The script `const xs = {}; function fill() { _.map(xs, f); const xs = [1]; }`. -/
def objectBehindArray : Program :=
  ⟨false, [.stmt (.declaration (.vars .const [.mk (.ident ⟨6, 8⟩ "xs" [])
      (some (.object ⟨11, 13⟩ []))])),
    .stmt (.declaration (.function "fill" (.mk [] mapBeforeArray [])))]⟩

/-- The object is not seen: what is recorded is the array, which is declared later in the body. -/
theorem array_hides_object :
    ∃ site argument, Event.call site ∈ programEvents objectBehindArray ∧
      site.arguments.head? = some argument ∧
      argument.operand = .bound ⟨"xs", some .sequence, .variable⟩ := by
  have htrail : IsTrail objectBehindArray.parts
      ([.statement true (.declaration (.function "fill" (.mk [] mapBeforeArray []))),
        .of (.decl (.function "fill" (.mk [] mapBeforeArray []))),
        .of (.function (.mk [] mapBeforeArray []))] ++
        (Part.of (.block mapBeforeArray)).inside [] ::
        (Part.statement false (.expr 33 mapOfXs)).inside (stmtsBindings mapBeforeArray) ::
        [.expr .standalone mapOfXs]) := by
    simp [IsTrail, objectBehindArray, mapBeforeArray, Program.parts, moduleItemsParts,
      moduleItemParts, Part.parts, Node.parts, stmtParts, declParts, functionParts, patternsParts,
      stmtsParts, patternsBindings, stmtsBindings]
  obtain ⟨hmem, before, scope, after, b, hsplit, hafter, hb, hargs⟩ :=
    declaration_hides_outer objectBehindArray ⟨htrail, _, rfl, rfl, List.mem_singleton_self _⟩
      (.construct (.block mapBeforeArray)) (List.mem_singleton_self "xs")
  -- no scope is opened between the body and the call
  obtain ⟨rfl, hrest⟩ | ⟨_, _, hnil⟩ := List.cons_eq_append_iff.mp hsplit
  · obtain ⟨rfl, rfl⟩ := List.cons.inj hrest
    obtain rfl := Option.some.inj hb
    cases hargs with
    | cons hfirst _ => exact ⟨_, _, hmem, rfl, hfirst rfl⟩
  · simp [openedAlong] at hnil

set_option maxRecDepth 100000 in
/-- A `var` in a block is not seen behind the block, and the declarations in the clauses of a `switch`
are not seen at all: in both texts the array outside is taken for the object that hides it. A class that is
exported by default and a name for what `require` returns are not seen either. -/
theorem nested_var_unseen :
    operandsIn "const xs = [1]; function g() { if (c) { var xs = {}; } _.map(xs, f); }" =
      some [[.bound ⟨"xs", some .sequence, .variable⟩, .unbound "f"]] ∧
    operandsIn "const xs = [1]; switch (k) { case 0: let xs = {}; _.map(xs, f); }" =
      some [[.bound ⟨"xs", some .sequence, .variable⟩, .unbound "f"]] ∧
    operandsIn "export default class xs {} _.map(xs, f);" = some [[.unbound "xs", .unbound "f"]] ∧
    operandsAt "a.ts" "import xs = require('y'); _.map(xs, f);" = some [[.unbound "xs", .unbound "f"]] := by
  decide +kernel

/-- The declarations in the clauses of a `switch` hide nothing: their names come to what they come to
outside. -/
theorem clause_hides_nothing {switch entry : Part} {subject : Expr} {cases : List Case} {e : Expr}
    {site : CallSite} {name : String}
    (hcall : Recorded p (outer ++ switch :: entry :: inner) e site)
    (hswitch : switch.node = .stmt (.switch subject cases))
    (hfree : ∀ scope ∈ openedAlong inner, name ∉ Scope.names scope) :
    List.Forall₂ (fun arg argument => shapeOf arg = .reference name →
        argument.operand = operandOf (p.surroundings.along (outer ++ [switch])).scopes arg)
      (callArguments e) site.arguments := by
  have hentry : entry ∈ switch.parts := (isTrail_append_cons.mp hcall.isTrail).2.1
  have hopened : entry.opened = [] := by
    rw [Part.parts, hswitch] at hentry
    refine (?_ : Plain (stmtParts (.switch subject cases))) entry hentry
    simp [stmtParts]
  rw [List.append_cons] at hcall
  refine hcall.arguments_of_not_mem ?_
  simpa [openedAlong, hopened] using hfree

end Declarations

end MapLint.Lint
