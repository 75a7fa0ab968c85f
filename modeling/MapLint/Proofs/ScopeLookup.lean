import MapLint.Proofs.EventTrails

/-!
# Which declaration a name resolves to

A chain of scopes is built up on the way down a tree and never changed, so what a name resolves to at
the end of a trail is decided by the scopes that the trail opens: it is the first declaration of the
name in the innermost of them that has one.

## Architecture

- `patternNames` are the names that a pattern binds, said without what is known of them, and
  `names_patternBindings` that these are the names it declares;
- `declNames`, `stmtNames` and `moduleItemNames` are the names that a declaration makes for the list
  it stands in;
- `lookup_inside_of_lookup` and `lookup_inside_of_not_mem` are one step of a look-up,
  `lookup_foldl_inside` is the way out through several scopes;
- `scopes_along` are the scopes around the end of a trail, `operandOf_along` and
  `operandOf_along_of_not_mem` what a variable comes to there.
-/

namespace MapLint.Lint

open MapLint.Script

/-- The names that a scope declares. -/
def Scope.names (scope : Scope) : List String := scope.map Prod.fst

/-! ## The names that a pattern binds -/

mutual

/-- The names that a pattern binds. -/
def patternNames : Pattern → List String
  | .ident _ name _ => [name]
  | .array _ elements _ => patternsNames elements
  | .object _ fields _ => fieldsNames fields
  | .rest _ inner _ => patternNames inner
  | .withDefault _ inner _ => patternNames inner
  | .place _ => []

def patternsNames : List Pattern → List String
  | [] => []
  | p :: ps => patternNames p ++ patternsNames ps

def fieldNames : Field → List String
  | .keyed _ value => patternNames value
  | .shorthand name _ _ => [name]
  | .rest inner => patternNames inner

def fieldsNames : List Field → List String
  | [] => []
  | f :: fs => fieldNames f ++ fieldsNames fs

end

mutual

/-- A pattern declares the names that it binds. -/
theorem names_patternBindings (init : Option Shape) (origin : Origin) :
    ∀ p : Pattern, Scope.names (patternBindings init origin p) = patternNames p
  | .ident _ _ _ => rfl
  | .array _ elements _ => names_patternsBindings .pattern elements
  | .object _ fields _ => names_fieldsBindings fields
  | .rest _ inner _ => names_patternBindings none .pattern inner
  | .withDefault _ inner _ => names_patternBindings none _ inner
  | .place _ => rfl

theorem names_patternsBindings (origin : Origin) :
    ∀ ps : List Pattern, Scope.names (patternsBindings origin ps) = patternsNames ps
  | [] => rfl
  | p :: ps => by
    have hp := names_patternBindings none origin p
    have hps := names_patternsBindings origin ps
    simp only [Scope.names] at hp hps
    simp only [Scope.names, patternsBindings, patternsNames, List.map_append, hp, hps]

theorem names_fieldBindings : ∀ f : Field, Scope.names (fieldBindings f) = fieldNames f
  | .keyed _ value => names_patternBindings none .objectPattern value
  | .shorthand _ _ _ => rfl
  | .rest inner => names_patternBindings none .objectPattern inner

theorem names_fieldsBindings :
    ∀ fs : List Field, Scope.names (fieldsBindings fs) = fieldsNames fs
  | [] => rfl
  | f :: fs => by
    have hf := names_fieldBindings f
    have hfs := names_fieldsBindings fs
    simp only [Scope.names] at hf hfs
    simp only [Scope.names, fieldsBindings, fieldsNames, List.map_append, hf, hfs]

end

mutual

/-- What a pattern declares without an initial value has none. -/
theorem init_patternBindings (origin : Origin) :
    ∀ p : Pattern, ∀ b ∈ patternBindings none origin p, b.2.init = none
  | .ident _ _ _ => by simp [patternBindings]
  | .array _ elements _ => init_patternsBindings .pattern elements
  | .object _ fields _ => init_fieldsBindings fields
  | .rest _ inner _ => init_patternBindings .pattern inner
  | .withDefault _ inner _ => init_patternBindings _ inner
  | .place _ => by simp [patternBindings]

theorem init_patternsBindings (origin : Origin) :
    ∀ ps : List Pattern, ∀ b ∈ patternsBindings origin ps, b.2.init = none
  | [] => by simp [patternsBindings]
  | p :: ps => by
    intro b hb
    rcases List.mem_append.mp hb with hp | hps
    · exact init_patternBindings origin p b hp
    · exact init_patternsBindings origin ps b hps

theorem init_fieldBindings : ∀ f : Field, ∀ b ∈ fieldBindings f, b.2.init = none
  | .keyed _ value => init_patternBindings .objectPattern value
  | .shorthand _ _ _ => by simp [fieldBindings]
  | .rest inner => init_patternBindings .objectPattern inner

theorem init_fieldsBindings : ∀ fs : List Field, ∀ b ∈ fieldsBindings fs, b.2.init = none
  | [] => by simp [fieldsBindings]
  | f :: fs => by
    intro b hb
    rcases List.mem_append.mp hb with hf | hfs
    · exact init_fieldBindings f b hf
    · exact init_fieldsBindings fs b hfs

end

/-! ## The names that a list declares -/

/-- The names that a declaration by `var`, `let`, `const`, `function` or `class` declares. -/
def declNames : Decl → List String
  | .vars .using _ => []
  | .vars _ vars => vars.flatMap fun | .mk target _ => patternNames target
  | .function name _ => [name]
  | .classNamed name _ _ => [name]
  | .space _ => []
  | .typeLevel _ => []

/-- The names that a statement declares in the list it stands in. -/
def stmtNames : Stmt → List String
  | .declaration decl => declNames decl
  | _ => []

/-- The names that an item declares in its module. -/
def moduleItemNames : ModuleItem → List String
  | .stmt stmt => stmtNames stmt
  | .importing names _ => names
  | .exporting decl => declNames decl
  | .exportDefault (.function _ (some name) _) => [name]
  | .exportDefault _ => []
  | .exportNames _ => []
  | .exportOther _ => []

/-- Variables declare the names that their patterns bind, whatever their initial values are. -/
theorem names_variableBindings (init : Option Expr → Option Shape) (vars : List Declarator) :
    Scope.names (vars.flatMap fun
      | .mk target value => patternBindings (init value) .variable target) =
        vars.flatMap fun | .mk target _ => patternNames target := by
  simp only [Scope.names, List.map_flatMap]
  refine congrArg (vars.flatMap ·) (funext fun | .mk target value => ?_)
  exact names_patternBindings (init value) .variable target

theorem names_declaratorsBindings (vars : List Declarator) :
    Scope.names (declaratorsBindings vars) =
      vars.flatMap fun | .mk target _ => patternNames target :=
  names_variableBindings (Option.map shapeOf) vars

theorem names_declBindings : ∀ d : Decl, Scope.names (declBindings d) = declNames d
  | .vars .using _ => rfl
  | .vars .var vars | .vars .letKind vars | .vars .const vars => names_declaratorsBindings vars
  | .function _ _ => rfl
  | .classNamed _ _ _ => rfl
  | .space _ => rfl
  | .typeLevel _ => rfl

theorem names_forHeadBindings (vars : List Declarator) :
    ∀ kind, Scope.names (forHeadBindings (.vars kind vars)) = declNames (.vars kind vars)
  | .using => rfl
  | .var | .letKind | .const => names_declaratorsBindings vars

theorem names_forEachBindings (vars : List Declarator) :
    ∀ kind, Scope.names (forEachBindings (.vars kind vars)) = declNames (.vars kind vars)
  | .using => rfl
  | .var | .letKind | .const => names_variableBindings (fun _ => none) vars

theorem names_stmtsBindings (body : List Stmt) :
    Scope.names (stmtsBindings body) = body.flatMap stmtNames := by
  simp only [Scope.names, stmtsBindings, List.map_flatMap]
  refine congrArg (body.flatMap ·) (funext fun stmt => ?_)
  cases stmt with
  | declaration decl => exact names_declBindings decl
  | _ => rfl

theorem names_itemsBindings (items : List ModuleItem) :
    Scope.names (itemsBindings items) = items.flatMap moduleItemNames := by
  simp only [Scope.names, itemsBindings, List.map_flatMap]
  refine congrArg (items.flatMap ·) (funext fun item => ?_)
  cases item with
  | stmt stmt =>
    cases stmt with
    | declaration decl => exact names_declBindings decl
    | _ => rfl
  | importing names attributes => simp [moduleItemNames, Function.comp_def]
  | exporting decl => exact names_declBindings decl
  | exportDefault value =>
    cases value with
    | function span name function => cases name <;> rfl
    | _ => rfl
  | exportNames attributes => rfl
  | exportOther parts => rfl

/-! ## Looking a name up -/

/-- A name is declared in a scope exactly when it is found there. -/
theorem mem_names_iff {scope : Scope} {name : String} :
    name ∈ Scope.names scope ↔ ∃ b, List.lookup name scope = some b := by
  constructor
  · intro h
    apply Option.isSome_iff_exists.mp
    rw [Option.isSome_iff_ne_none]
    intro hnone
    obtain ⟨b, hb, rfl⟩ := List.mem_map.mp h
    simpa using List.lookup_eq_none_iff.mp hnone b hb
  · rintro ⟨b, hb⟩
    obtain ⟨before, after, rfl, -⟩ := List.lookup_eq_some_iff.mp hb
    simp [Scope.names]

theorem Scope.find?_eq_none_iff {scope : Scope} {name : String} :
    scope.find? name = none ↔ name ∉ Scope.names scope := by
  rw [mem_names_iff, ← Option.isSome_iff_exists, Option.not_isSome_iff_eq_none]
  rfl

/-- A declaration is found unless its name was declared before. -/
theorem Scope.find?_declare (scope : Scope) (other name : String) (b : Binding) :
    (scope.declare other b).find? name =
      (scope.find? name).or (List.lookup name [(other, b)]) := by
  unfold Scope.declare
  split
  case isFalse => exact List.lookup_append
  case isTrue hsome =>
    -- nothing is declared, because `other` is there already
    by_cases hname : name = other
    · subst hname
      obtain ⟨found, hfound⟩ := Option.isSome_iff_exists.mp hsome
      simp [hfound]
    · have hne : (name == other) = false := by simpa using hname
      simp [List.lookup_cons, hne]

/-- Declarations leave the scopes around the current one as they are, and each is found there unless
its name was declared before. -/
theorem Scopes.declareAll_spec (s : Scopes) (bs : Scope) :
    (s.declareAll bs).outer = s.outer ∧
      ∀ name, (s.declareAll bs).current.find? name =
        (s.current.find? name).or (List.lookup name bs) := by
  induction bs generalizing s with
  | nil => simp [declareAll]
  | cons b bs ih =>
    obtain ⟨houter, hfind⟩ := ih (s.declare b.1 b.2)
    refine ⟨houter, fun name => ?_⟩
    have hcons : List.lookup name ([(b.1, b.2)] ++ bs) =
        (List.lookup name [(b.1, b.2)]).or (List.lookup name bs) := List.lookup_append
    -- the first declaration is looked up before the others, and what was there before both
    rw [← List.singleton_append, hcons, ← Option.or_assoc, ← Scope.find?_declare]
    exact hfind name

theorem find?_current_inside (s : Surroundings) (scope : Scope) (name : String) :
    (s.inside scope).scopes.current.find? name = List.lookup name scope := by
  obtain ⟨-, hfind⟩ := s.scopes.enter.declareAll_spec scope
  rw [Surroundings.inside, hfind]
  rfl

theorem chain_inside (s : Surroundings) (scope : Scope) :
    (s.inside scope).scopes.chain = (s.inside scope).scopes.current :: s.scopes.chain := by
  obtain ⟨houter, -⟩ := s.scopes.enter.declareAll_spec scope
  exact congrArg (List.cons _) houter

/-- A name that the innermost scope declares is found in it. -/
theorem lookup_inside_of_lookup {s : Surroundings} {scope : Scope} {name : String} {b : Binding}
    (h : List.lookup name scope = some b) :
    lookup name (s.inside scope).scopes.chain = some (b, (s.inside scope).scopes.chain) := by
  rw [chain_inside, lookup, find?_current_inside, h]

/-- A name that the innermost scope does not declare is looked up in the others. -/
theorem lookup_inside_of_not_mem {s : Surroundings} {scope : Scope} {name : String}
    (h : name ∉ Scope.names scope) :
    lookup name (s.inside scope).scopes.chain = lookup name s.scopes.chain := by
  have hnone : List.lookup name scope = none := Scope.find?_eq_none_iff.mpr h
  rw [chain_inside, lookup, find?_current_inside, hnone]

/-- Of several scopes that are opened one inside the other, there is an innermost one that declares a
name, if any of them does. -/
theorem exists_innermost {name : String} {scopes : List Scope}
    (h : ∃ scope ∈ scopes, name ∈ Scope.names scope) :
    ∃ before scope after b, scopes = before ++ scope :: after ∧
      (∀ inner ∈ after, name ∉ Scope.names inner) ∧ List.lookup name scope = some b := by
  induction scopes with
  | nil => simp at h
  | cons first scopes ih =>
    -- a scope further in comes before the first one
    by_cases hrest : ∃ scope ∈ scopes, name ∈ Scope.names scope
    · obtain ⟨before, scope, after, b, rfl, hafter, hb⟩ := ih hrest
      exact ⟨first :: before, scope, after, b, rfl, hafter, hb⟩
    · have hnone : ∀ scope ∈ scopes, name ∉ Scope.names scope :=
        fun scope hscope hname => hrest ⟨scope, hscope, hname⟩
      have hfirst : name ∈ Scope.names first := by
        obtain ⟨scope, hscope, hname⟩ := h
        rcases List.mem_cons.mp hscope with rfl | hscope
        · exact hname
        · exact absurd hname (hnone scope hscope)
      obtain ⟨b, hb⟩ := mem_names_iff.mp hfirst
      exact ⟨[], first, scopes, b, rfl, hnone, hb⟩

/-- A name that none of several scopes declares is looked up outside of them. -/
theorem lookup_foldl_inside_of_not_mem {name : String} {scopes : List Scope}
    (h : ∀ scope ∈ scopes, name ∉ Scope.names scope) (s : Surroundings) :
    lookup name (scopes.foldl Surroundings.inside s).scopes.chain = lookup name s.scopes.chain := by
  induction scopes generalizing s with
  | nil => rfl
  | cons scope scopes ih =>
    rw [List.forall_mem_cons] at h
    rw [List.foldl_cons, ih h.2, lookup_inside_of_not_mem h.1]

/-- A name is found in the innermost of several scopes that declares it. -/
theorem lookup_foldl_inside {name : String} {before after : List Scope} {scope : Scope} {b : Binding}
    (hb : List.lookup name scope = some b) (hafter : ∀ inner ∈ after, name ∉ Scope.names inner)
    (s : Surroundings) :
    lookup name ((before ++ scope :: after).foldl Surroundings.inside s).scopes.chain =
      some (b, ((before ++ [scope]).foldl Surroundings.inside s).scopes.chain) := by
  rw [List.append_cons, List.foldl_append, lookup_foldl_inside_of_not_mem hafter, List.foldl_append]
  exact lookup_inside_of_lookup hb

/-! ## Looking a name up from the end of a trail -/

/-- The scopes that are opened along a trail, the outermost first. -/
def openedAlong (trail : List Part) : List Scope := trail.flatMap Part.opened

/-- Where a statement begins does not matter to the scopes in it. -/
theorem scopes_foldl_inside {s s' : Surroundings} (h : s.scopes = s'.scopes) (scopes : List Scope) :
    (scopes.foldl Surroundings.inside s).scopes = (scopes.foldl Surroundings.inside s').scopes := by
  induction scopes generalizing s s' with
  | nil => exact h
  | cons scope scopes ih => exact ih (by simp only [Surroundings.inside, h])

theorem scopes_toward (s : Surroundings) (part : Part) :
    (s.toward part).scopes = (part.opened.foldl Surroundings.inside s).scopes := by
  unfold Surroundings.toward
  dsimp only
  split
  case h_1 followsAnother stmt _ _ => cases stmt <;> rfl
  case h_2 => rfl

/-- The end of a trail is in the scopes that are opened along it. -/
theorem scopes_along (s : Surroundings) (trail : List Part) :
    (s.along trail).scopes = ((openedAlong trail).foldl Surroundings.inside s).scopes := by
  induction trail generalizing s with
  | nil => rfl
  | cons part trail ih =>
    have hstep : (s.along (part :: trail)).scopes =
        ((openedAlong trail).foldl Surroundings.inside (s.toward part)).scopes :=
      ih (s.toward part)
    have hopened : openedAlong (part :: trail) = part.opened ++ openedAlong trail :=
      List.flatMap_cons
    rw [hstep, hopened, List.foldl_append]
    exact scopes_foldl_inside (scopes_toward s part) (openedAlong trail)

theorem along_append (s : Surroundings) (outer inner : List Part) :
    s.along (outer ++ inner) = (s.along outer).along inner :=
  List.foldl_append

/-! ## Operands -/

/-- What an argument that is a variable comes to depends on the look-up of its name alone. -/
theorem operandOf_reference {scopes : Scopes} {e : Expr} {name : String}
    (h : shapeOf e = .reference name) :
    operandOf scopes e =
      match lookup name scopes.chain with
      | some (b, from_) => .bound ⟨name, settle maxHops b.init from_, b.origin⟩
      | none => .unbound name := by
  unfold operandOf Scopes.resolve
  rw [h]
  dsimp only
  cases lookup name scopes.chain <;> rfl

/-- A variable is bound in the innermost scope along the trail that declares it. -/
theorem operandOf_along {name : String} {trail : List Part} {before after : List Scope}
    {scope : Scope} {b : Binding} (hopened : openedAlong trail = before ++ scope :: after)
    (hb : List.lookup name scope = some b) (hafter : ∀ inner ∈ after, name ∉ Scope.names inner)
    (s : Surroundings) {e : Expr} (he : shapeOf e = .reference name) :
    operandOf (s.along trail).scopes e =
      .bound ⟨name, settle maxHops b.init
        ((before ++ [scope]).foldl Surroundings.inside s).scopes.chain, b.origin⟩ := by
  rw [operandOf_reference he, scopes_along, hopened, lookup_foldl_inside hb hafter]

/-- A variable that no scope along the trail declares is what it is where the trail begins. -/
theorem operandOf_along_of_not_mem {name : String} {trail : List Part}
    (h : ∀ scope ∈ openedAlong trail, name ∉ Scope.names scope) (s : Surroundings) {e : Expr}
    (he : shapeOf e = .reference name) :
    operandOf (s.along trail).scopes e = operandOf s.scopes e := by
  rw [operandOf_reference he, operandOf_reference he, scopes_along,
    lookup_foldl_inside_of_not_mem h s]

end MapLint.Lint
