import MapLint.Proofs.ScopeSegments

/-!
# What a pattern declares

A pattern takes a value apart and binds names to its parts. The walk that declares them hands an origin down,
which some kinds of pattern replace and others pass on. Here the names of a pattern are listed with all that is
around each of them, and the origin of a name is read off that list: the innermost object, array or rest pattern
decides, and only where there is none does it matter how the whole pattern is declared.

## Architecture

- `boundNames` lists the names of a pattern with their `Enclosure`s, `originAmong` is the rule for their origin;
- `patternBindings_eq` says that a pattern declares these names with these origins, and an initial value only
  where the pattern is a name itself;
- `Scopes.declareAll_eq` tells which of several declarations a scope takes on;
- `pattern_declares_bound_names` puts the two together.
-/

namespace MapLint.Lint

open MapLint.Script

/-! ## Names and what is around them -/

/-- What a pattern is to the patterns inside it. -/
inductive Enclosure where
  /-- An object pattern, around its fields and around what collects the rest of them. -/
  | object
  | array
  /-- What collects the rest of an array or of the arguments. -/
  | rest
  /-- A default value stands behind the pattern. -/
  | default
deriving DecidableEq

/-- A name that a pattern binds, with all that is around it, the innermost first. -/
structure BoundName where
  name : String
  around : List Enclosure
deriving DecidableEq

mutual

/-- The names that a pattern binds, in the order of the text. What is around the pattern itself is around each
of them. -/
def boundNames (around : List Enclosure) : Pattern → List BoundName
  | .ident _ name _ => [⟨name, around⟩]
  | .array _ elements _ => boundNamesOfAll (.array :: around) elements
  | .object _ fields _ => boundNamesOfFields (.object :: around) fields
  | .rest _ inner _ => boundNames (.rest :: around) inner
  | .withDefault _ inner _ => boundNames (.default :: around) inner
  | .place _ => []

def boundNamesOfAll (around : List Enclosure) : List Pattern → List BoundName
  | [] => []
  | p :: ps => boundNames around p ++ boundNamesOfAll around ps

/-- The names of a field. One that stands for itself may have a default value. -/
def boundNamesOfField (around : List Enclosure) : Field → List BoundName
  | .keyed _ value => boundNames around value
  | .shorthand name _ none => [⟨name, around⟩]
  | .shorthand name _ (some _) => [⟨name, .default :: around⟩]
  | .rest inner => boundNames around inner

def boundNamesOfFields (around : List Enclosure) : List Field → List BoundName
  | [] => []
  | f :: fs => boundNamesOfField around f ++ boundNamesOfFields around fs

end

/-- The origin of a name among what is around it, in a pattern that is declared as `origin`. The innermost
object, array or rest pattern decides. Without one the name is declared as the pattern is, but a default value
makes a variable part of a pattern. -/
def originAmong (origin : Origin) (around : List Enclosure) : Origin :=
  match around.find? (· ≠ .default) with
  | some .object => .objectPattern
  | some _ => .pattern
  | none => if origin = .variable ∧ .default ∈ around then .pattern else origin

/-- The declaration of a name that a pattern binds. -/
def BoundName.declared (init : Option Shape) (origin : Origin) (b : BoundName) : String × Binding :=
  (b.name, ⟨init, originAmong origin b.around⟩)

/-- The pattern is nothing but a name. -/
def isName : Pattern → Bool
  | .ident _ _ _ => true
  | _ => false

section Origins

variable (origin : Origin) (around : List Enclosure)

@[simp] theorem originAmong_nil : originAmong origin [] = origin := by simp [originAmong]

/-- A default value changes the origin of a variable and of nothing else. -/
theorem originAmong_default :
    originAmong origin (.default :: around) =
      if originAmong origin around = .variable then .pattern else originAmong origin around := by
  have hskip : (Enclosure.default :: around).find? (· ≠ .default) = around.find? (· ≠ .default) := rfl
  rw [originAmong, originAmong, hskip]
  cases around.find? (· ≠ .default) with
  | some enclosure => cases enclosure <;> rfl
  | none =>
    -- nothing but default values is around the name, so it is declared as the pattern is
    by_cases hvariable : origin = .variable
    · by_cases hdefault : Enclosure.default ∈ around <;> simp [hvariable, hdefault]
    · simp [hvariable]

end Origins

mutual

/-- A pattern without an initial value declares the names that it binds. -/
theorem patternBindings_none_eq (origin : Origin) (around : List Enclosure) : ∀ p : Pattern,
    patternBindings none (originAmong origin around) p =
      (boundNames around p).map (BoundName.declared none origin)
  | .ident _ _ _ => rfl
  -- the innermost enclosure decides, so what is handed down from here does not depend on `around`
  | .array _ elements _ => patternsBindings_eq origin (.array :: around) elements
  | .object _ fields _ => fieldsBindings_eq origin around fields
  | .rest _ inner _ => patternBindings_none_eq origin (.rest :: around) inner
  | .withDefault _ inner _ => by
    have hinner := patternBindings_none_eq origin (.default :: around) inner
    rw [originAmong_default] at hinner
    exact hinner
  | .place _ => rfl

theorem patternsBindings_eq (origin : Origin) (around : List Enclosure) : ∀ ps : List Pattern,
    patternsBindings (originAmong origin around) ps =
      (boundNamesOfAll around ps).map (BoundName.declared none origin)
  | [] => rfl
  | p :: ps => by
    rw [patternsBindings, boundNamesOfAll, List.map_append, patternBindings_none_eq origin around p,
      patternsBindings_eq origin around ps]

theorem fieldBindings_eq (origin : Origin) (around : List Enclosure) : ∀ f : Field,
    fieldBindings f = (boundNamesOfField (.object :: around) f).map (BoundName.declared none origin)
  | .keyed _ value => patternBindings_none_eq origin (.object :: around) value
  | .shorthand _ _ none => rfl
  | .shorthand _ _ (some _) => rfl
  | .rest inner => patternBindings_none_eq origin (.object :: around) inner

theorem fieldsBindings_eq (origin : Origin) (around : List Enclosure) : ∀ fs : List Field,
    fieldsBindings fs = (boundNamesOfFields (.object :: around) fs).map (BoundName.declared none origin)
  | [] => rfl
  | f :: fs => by
    rw [fieldsBindings, boundNamesOfFields, List.map_append, fieldBindings_eq origin around f,
      fieldsBindings_eq origin around fs]

end

/-- A pattern declares the names that it binds. Of an initial value something is kept only where the pattern is
a name itself. -/
theorem patternBindings_eq (init : Option Shape) (origin : Origin) (p : Pattern) :
    patternBindings init origin p =
      (boundNames [] p).map (BoundName.declared (if isName p then init else none) origin) := by
  have hnone := patternBindings_none_eq origin [] p
  rw [originAmong_nil] at hnone
  cases p with
  | ident span name types => simp [patternBindings, boundNames, isName, BoundName.declared]
  | _ => exact hnone

/-! ## Several declarations in one scope -/

namespace Scope

variable (scope other : Scope) (entry : String × Binding)

@[simp] theorem names_nil : names [] = [] := rfl
@[simp] theorem names_cons : names (entry :: scope) = entry.1 :: names scope := rfl
@[simp] theorem names_append : names (scope ++ other) = names scope ++ names other := List.map_append

end Scope

/-- A new name is added to the current scope. -/
theorem Scopes.declare_of_not_mem {s : Scopes} {name : String} (h : name ∉ Scope.names s.current)
    (binding : Binding) : s.declare name binding = ⟨s.current ++ [(name, binding)], s.outer⟩ := by
  have hfree : (s.current.find? name).isSome = false := by
    rw [Scope.find?_eq_none_iff.mpr h]
    rfl
  rw [declare, Scope.declare, hfree]
  rfl

/-- A scope takes on the names that it does not declare yet, each once and as it comes first. The scopes around
it stay as they are. -/
theorem Scopes.declareAll_eq (s : Scopes) (bs : Scope) :
    ∃ added, s.declareAll bs = ⟨s.current ++ added, s.outer⟩ ∧ (Scope.names added).Nodup ∧
      (∀ name, name ∈ Scope.names added ↔ name ∈ Scope.names bs ∧ name ∉ Scope.names s.current) ∧
      ∀ entry ∈ added, List.lookup entry.1 bs = some entry.2 := by
  induction bs generalizing s with
  | nil => exact ⟨[], by simp [declareAll], List.nodup_nil, by simp, by simp⟩
  | cons b bs ih =>
    obtain ⟨name, binding⟩ := b
    have hbehind : ∀ other, other ≠ name →
        List.lookup other ((name, binding) :: bs) = List.lookup other bs := by
      intro other hne
      rw [List.lookup_cons, beq_eq_false_iff_ne.mpr hne]
    by_cases hknown : name ∈ Scope.names s.current
    · -- the scope stays as it is, and none of the names that are added later is this one
      obtain ⟨added, hadded, hnodup, hnames, hlookup⟩ := ih s
      have hne : ∀ other ∈ Scope.names added, other ≠ name :=
        fun other hother h => ((hnames other).mp hother).2 (h ▸ hknown)
      refine ⟨added, ?_, hnodup, fun other => ?_, fun entry hentry => ?_⟩
      · rw [declareAll, List.foldl_cons, declare_of_mem hknown]
        exact hadded
      · have hother : other = name → other ∈ Scope.names s.current := fun h => h ▸ hknown
        rw [hnames, Scope.names_cons, List.mem_cons]
        tauto
      · rw [hbehind entry.1 (hne entry.1 (List.mem_map_of_mem hentry))]
        exact hlookup entry hentry
    · obtain ⟨added, hadded, hnodup, hnames, hlookup⟩ := ih ⟨s.current ++ [(name, binding)], s.outer⟩
      simp only [Scope.names_append, Scope.names_cons, Scope.names_nil, List.mem_append,
        List.mem_singleton, not_or] at hnames
      have hne : ∀ other ∈ Scope.names added, other ≠ name :=
        fun other hother => ((hnames other).mp hother).2.2
      refine ⟨(name, binding) :: added, ?_, ?_, fun other => ?_, ?_⟩
      · rw [declareAll, List.foldl_cons, declare_of_not_mem hknown]
        exact hadded.trans (by simp)
      · exact List.nodup_cons.mpr ⟨fun hmem => hne name hmem rfl, hnodup⟩
      · have hother : other = name → other ∉ Scope.names s.current := fun h => h ▸ hknown
        rw [Scope.names_cons, Scope.names_cons, List.mem_cons, List.mem_cons, hnames]
        tauto
      · refine List.forall_mem_cons.mpr ⟨by simp, fun entry hentry => ?_⟩
        rw [hbehind entry.1 (hne entry.1 (List.mem_map_of_mem hentry))]
        exact hlookup entry hentry

/-- Declaring a pattern adds to the current scope the names that the pattern binds and the scope does not declare
already, and changes no other scope. The initial value is kept only where the pattern is a name itself. The
origin of a name is that of its innermost object, array or rest pattern; a name in none of these has the origin
of the declaration, except that a variable with a default value is part of a pattern. Where a pattern binds a
name more than once, the first place counts. -/
theorem pattern_declares_bound_names (s : Scopes) (p : Pattern) (value : Option Expr) (origin : Origin) :
    ∃ added, s.declareAll (patternBindings (value.map shapeOf) origin p) = ⟨s.current ++ added, s.outer⟩ ∧
      (Scope.names added).Nodup ∧
      (∀ name, name ∈ Scope.names added ↔
        (∃ b ∈ boundNames [] p, b.name = name) ∧ name ∉ Scope.names s.current) ∧
      ∀ entry ∈ added, ∃ before b after, boundNames [] p = before ++ b :: after ∧
        (∀ earlier ∈ before, earlier.name ≠ entry.1) ∧
        entry = (b.name, ⟨if isName p then value.map shapeOf else none, originAmong origin b.around⟩) := by
  obtain ⟨added, hadded, hnodup, hnames, hlookup⟩ :=
    s.declareAll_eq (patternBindings (value.map shapeOf) origin p)
  refine ⟨added, hadded, hnodup, fun name => ?_, fun entry hentry => ?_⟩
  · rw [hnames, patternBindings_eq, Scope.names, List.map_map, List.mem_map]
    rfl
  · have hfirst := hlookup entry hentry
    rw [patternBindings_eq] at hfirst
    obtain ⟨before, after, heq, hbefore⟩ := List.lookup_eq_some_iff.mp hfirst
    obtain ⟨front, rest, hsplit, rfl, hrest⟩ := List.map_eq_append_iff.mp heq
    obtain ⟨b, back, rfl, hb, rfl⟩ := List.map_eq_cons_iff.mp hrest
    refine ⟨front, b, back, hsplit, fun earlier hearlier => ?_, hb.symm⟩
    have hne : ¬ entry.1 = earlier.name := by
      simpa [BoundName.declared] using hbefore _ (List.mem_map_of_mem hearlier)
    exact fun h => hne h.symm

/-- The names of `{ a, b: [c = 1, { d }], ...e }`. -/
example :
    (boundNames [] (.object ⟨0, 31⟩ [.shorthand "a" [] none,
      .keyed none (.array ⟨8, 22⟩ [.withDefault ⟨9, 14⟩ (.ident ⟨9, 10⟩ "c" []) (.literal ⟨13, 14⟩ false),
        .object ⟨16, 21⟩ [.shorthand "d" [] none] []] []),
      .rest (.ident ⟨27, 28⟩ "e" [])] [])).map (fun b => (b.name, originAmong .variable b.around)) =
        [("a", .objectPattern), ("c", .pattern), ("d", .objectPattern), ("e", .objectPattern)] := by
  decide

end MapLint.Lint
