import MapLint.Proofs.ScopeLookup

/-!
# How chains of scopes come about

Chains of scopes are made by opening and closing scopes and by declaring names in the innermost one.
Whatever the order of these steps, no scope declares a name twice: a second declaration of the name is
dropped. So a place in the scopes sees at most one declaration of a name, the one in the innermost
scope that has one, and this is the declaration that a look-up finds.

## Architecture

- `ScopeStep` is one of the three steps and `Scopes.after` what a list of them comes to;
- `Scopes.Distinct` is what every step keeps, `Scopes.distinct_after` what follows for a run;
- `Declaration` is a declaration with the scopes it is made in, and `Scopes.Sees` says which
  declaration a name has at a place, without looking it up;
- `Scopes.Sees.lookup_eq` and `lookup_eq_none` are the two outcomes of a look-up.
-/

namespace MapLint.Lint

/-- What can be done to a chain of scopes. -/
inductive ScopeStep where
  | enter
  | exit
  | declare (name : String) (binding : Binding)
deriving DecidableEq

namespace Scopes

/-- One step. -/
def perform (s : Scopes) : ScopeStep → Scopes
  | .enter => s.enter
  | .exit => s.exit
  | .declare name binding => s.declare name binding

/-- The scopes that are left behind several steps from the global scope. -/
def after (steps : List ScopeStep) : Scopes := steps.foldl perform global

/-- No scope declares a name twice. -/
def Distinct (s : Scopes) : Prop := ∀ scope ∈ s.chain, (Scope.names scope).Nodup

end Scopes

/-! ## No name is declared twice -/

/-- The first declaration of a name in a scope stays the only one. -/
theorem Scope.nodup_names_declare {scope : Scope} (h : (Scope.names scope).Nodup) (name : String)
    (binding : Binding) : (Scope.names (scope.declare name binding)).Nodup := by
  unfold Scope.declare
  split
  case isTrue => exact h
  case isFalse hnew =>
    have hname : name ∉ Scope.names scope :=
      Scope.find?_eq_none_iff.mp (Option.not_isSome_iff_eq_none.mp hnew)
    simp only [Scope.names, List.map_append, List.map_cons, List.map_nil]
    refine List.nodup_append.mpr ⟨h, by simp, fun other hother last hlast => ?_⟩
    rw [List.mem_singleton.mp hlast]
    exact fun heq => hname (heq ▸ hother)

namespace Scopes

variable {s : Scopes}

theorem Distinct.enter (h : s.Distinct) : s.enter.Distinct := by
  intro scope hscope
  rcases List.mem_cons.mp hscope with rfl | hscope
  · exact List.nodup_nil
  · exact h scope hscope

theorem Distinct.exit (h : s.Distinct) : s.exit.Distinct := by
  obtain ⟨current, outer⟩ := s
  cases outer with
  | nil => exact h
  | cons scope outer => exact fun x hx => h x (List.mem_cons_of_mem _ hx)

theorem Distinct.declare (h : s.Distinct) (name : String) (binding : Binding) :
    (s.declare name binding).Distinct := by
  intro scope hscope
  rcases List.mem_cons.mp hscope with rfl | hscope
  · exact Scope.nodup_names_declare (h s.current List.mem_cons_self) name binding
  · exact h scope (List.mem_cons_of_mem _ hscope)

/-- One step keeps the names of each scope distinct. -/
theorem Distinct.perform (h : s.Distinct) : ∀ step, (s.perform step).Distinct
  | .enter => h.enter
  | .exit => h.exit
  | .declare name binding => h.declare name binding

/-- Behind any run of steps the names of each scope are distinct. -/
theorem distinct_after (steps : List ScopeStep) : (after steps).Distinct := by
  have hrun : ∀ s : Scopes, s.Distinct → (steps.foldl Scopes.perform s).Distinct := by
    induction steps with
    | nil => exact fun _ h => h
    | cons step steps ih => exact fun s h => ih (s.perform step) (h.perform step)
  refine hrun global fun scope hscope => ?_
  rw [List.mem_singleton.mp hscope]
  exact List.nodup_nil

end Scopes

/-! ## The declaration that a place sees -/

/-- A declaration, with the scope it is made in and those around that one. -/
structure Declaration where
  name : String
  binding : Binding
  home : Scopes
deriving DecidableEq

/-- The declaration of a name in the innermost scope that has one. -/
structure Scopes.Sees (s : Scopes) (name : String) (d : Declaration) : Prop where
  named : d.name = name
  made : (name, d.binding) ∈ d.home.current
  innermost : ∃ inner, s.chain = inner ++ d.home.chain ∧ ∀ scope ∈ inner, name ∉ Scope.names scope

/-- A scope in which no name is declared twice has what is found in it. -/
theorem Scope.find?_eq_some_of_mem {scope : Scope} {name : String} {b : Binding}
    (h : (Scope.names scope).Nodup) (hmem : (name, b) ∈ scope) : scope.find? name = some b := by
  obtain ⟨before, after, rfl⟩ := List.append_of_mem hmem
  refine List.lookup_eq_some_iff.mpr ⟨before, after, rfl, fun other hother => ?_⟩
  -- the name of an entry before it is another one
  simp only [Scope.names, List.map_append, List.map_cons] at h
  have hne : other.1 ≠ name :=
    (List.nodup_append.mp h).2.2 other.1 (List.mem_map_of_mem hother) name List.mem_cons_self
  simpa using hne.symm

theorem lookup_append_of_not_mem {name : String} {inner : List Scope}
    (h : ∀ scope ∈ inner, name ∉ Scope.names scope) (outer : List Scope) :
    lookup name (inner ++ outer) = lookup name outer := by
  induction inner with
  | nil => rfl
  | cons scope inner ih =>
    rw [List.forall_mem_cons] at h
    rw [List.cons_append, lookup, Scope.find?_eq_none_iff.mpr h.1]
    exact ih h.2

/-- A name that no scope declares is not found. -/
theorem lookup_eq_none {name : String} {chain : List Scope}
    (h : ∀ scope ∈ chain, name ∉ Scope.names scope) : lookup name chain = none := by
  have hall := lookup_append_of_not_mem h []
  rwa [List.append_nil] at hall

namespace Scopes

variable {s : Scopes} {name : String} {d d' : Declaration}

theorem chain_inj {s s' : Scopes} (h : s.chain = s'.chain) : s = s' := by
  obtain ⟨hcurrent, houter⟩ := List.cons.inj h
  cases s
  cases s'
  exact congrArg₂ Scopes.mk hcurrent houter

/-- The scopes around a declaration that is seen are among those it is seen from. -/
theorem Sees.distinct (h : s.Sees name d) (hs : s.Distinct) : d.home.Distinct := by
  obtain ⟨inner, hchain, -⟩ := h.innermost
  intro scope hscope
  exact hs scope (hchain ▸ List.mem_append_right inner hscope)

theorem Sees.mem_names (h : s.Sees name d) : ∃ scope ∈ s.chain, name ∈ Scope.names scope := by
  obtain ⟨inner, hchain, -⟩ := h.innermost
  exact ⟨d.home.current, hchain ▸ List.mem_append_right inner List.mem_cons_self,
    List.mem_map_of_mem h.made⟩

/-- A look-up finds the declaration that is seen. -/
theorem Sees.lookup_eq (h : s.Sees name d) (hs : s.Distinct) :
    lookup name s.chain = some (d.binding, d.home.chain) := by
  obtain ⟨inner, hchain, hinner⟩ := h.innermost
  have hfound : d.home.current.find? name = some d.binding :=
    Scope.find?_eq_some_of_mem (h.distinct hs d.home.current List.mem_cons_self) h.made
  rw [hchain, lookup_append_of_not_mem hinner, chain, lookup, hfound]

/-- At most one declaration of a name is seen from a place. -/
theorem Sees.unique (h : s.Sees name d) (h' : s.Sees name d') (hs : s.Distinct) : d = d' := by
  have hboth : some (d.binding, d.home.chain) = some (d'.binding, d'.home.chain) :=
    (h.lookup_eq hs).symm.trans (h'.lookup_eq hs)
  obtain ⟨hbinding, hchain⟩ := Prod.mk.inj (Option.some.inj hboth)
  have hname : d.name = d'.name := h.named.trans h'.named.symm
  have hhome : d.home = d'.home := chain_inj hchain
  cases d
  cases d'
  simp_all

/-- A name that some scope declares is seen. Induction on the scopes, from the innermost outward. -/
theorem exists_sees (h : ∃ scope ∈ s.chain, name ∈ Scope.names scope) : ∃ d, s.Sees name d := by
  obtain ⟨current, outer⟩ := s
  induction outer generalizing current with
  | nil =>
    obtain ⟨scope, hscope, hname⟩ := h
    obtain rfl := List.mem_singleton.mp hscope
    obtain ⟨⟨_, b⟩, hb, rfl⟩ := List.mem_map.mp hname
    exact ⟨⟨_, b, ⟨scope, []⟩⟩, rfl, hb, [], rfl, by simp⟩
  | cons next outer ih =>
    by_cases hcurrent : name ∈ Scope.names current
    · obtain ⟨⟨_, b⟩, hb, rfl⟩ := List.mem_map.mp hcurrent
      exact ⟨⟨_, b, ⟨current, next :: outer⟩⟩, rfl, hb, [], rfl, by simp⟩
    · -- the current scope hides nothing
      have houter : ∃ scope ∈ (⟨next, outer⟩ : Scopes).chain, name ∈ Scope.names scope := by
        obtain ⟨scope, hscope, hname⟩ := h
        rcases List.mem_cons.mp hscope with rfl | hscope
        · exact absurd hname hcurrent
        · exact ⟨scope, hscope, hname⟩
      obtain ⟨d, hnamed, hmade, inner, hchain, hinner⟩ := ih next houter
      refine ⟨d, hnamed, hmade, current :: inner, congrArg (current :: ·) hchain, ?_⟩
      exact List.forall_mem_cons.mpr ⟨hcurrent, hinner⟩

end Scopes

end MapLint.Lint
