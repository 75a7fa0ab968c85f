import Mathlib.Data.List.Infix
import MapLint.Proofs.ScopeSteps

/-!
# What a scope leaves behind

Scopes are opened and closed around every function and block of a script. What was declared in between is gone
afterwards, because closing a scope takes away what stands above the scopes around it and those were never
touched. This holds for any steps that come back to the depth at which they began, whether or not each opening
has its own closing next to it.

## Architecture

- `performOn` makes the steps on a bare list, where nothing but the steps keeps the last scope there, and
  `stackAfter_eq` says that this list is never empty;
- `Scopes.Undisturbed` is a segment of steps that comes back to its depth, does not go below it, and declares
  nothing there;
- `exists_chain_perform` is one step of such a segment and `Undisturbed.exists_chain_run` a run of them: the
  scopes at its beginning stay at the outer end of the chain;
- `scope_discipline` adds that a second declaration of a name in one scope is no step at all.
-/

namespace MapLint.Lint

/-! ## The scopes as a list -/

/-- One step on a list of scopes, the innermost first. -/
def performOn (stack : List Scope) : ScopeStep → List Scope
  | .enter => [] :: stack
  | .exit => if 1 < stack.length then stack.tail else stack
  | .declare name binding =>
    match stack with
    | [] => []
    | scope :: outer => scope.declare name binding :: outer

/-- The list behind several steps from the global scope. -/
def stackAfter (steps : List ScopeStep) : List Scope := steps.foldl performOn [[]]

/-- The step makes a declaration. -/
def ScopeStep.declares : ScopeStep → Bool
  | .declare _ _ => true
  | _ => false

namespace Scopes

variable {s t : Scopes}

theorem length_chain (s : Scopes) : s.chain.length = s.depth := rfl

/-- Closing a scope uncovers those around it, if there are any. -/
theorem chain_exit (h : s.outer ≠ []) : s.exit.chain = s.outer := by
  obtain ⟨current, outer⟩ := s
  cases outer with
  | nil => exact absurd rfl h
  | cons scope outer => rfl

theorem exit_of_outer_eq_nil (h : s.outer = []) : s.exit = s := by
  rw [exit, h]

theorem performOn_chain (s : Scopes) (step : ScopeStep) :
    performOn s.chain step = (s.perform step).chain := by
  cases step with
  | enter => rfl
  | declare name binding => rfl
  | exit =>
    show (if 1 < s.chain.length then s.chain.tail else s.chain) = s.exit.chain
    by_cases houter : s.outer = []
    · have hlast : ¬ 1 < s.chain.length := by simp [chain, houter]
      rw [if_neg hlast, exit_of_outer_eq_nil houter]
    · have hmore : 1 < s.chain.length := by
        have := List.length_pos_iff.mpr houter
        simp only [chain, List.length_cons]
        omega
      rw [if_pos hmore, chain_exit houter]
      rfl

end Scopes

/-- The list always holds the scopes of the chain, of which there is one at least. -/
theorem stackAfter_eq (steps : List ScopeStep) : stackAfter steps = (Scopes.after steps).chain := by
  have hrun : ∀ s : Scopes, steps.foldl performOn s.chain = (steps.foldl Scopes.perform s).chain := by
    induction steps with
    | nil => exact fun _ => rfl
    | cons step steps ih =>
      intro s
      rw [List.foldl_cons, List.foldl_cons, Scopes.performOn_chain]
      exact ih (s.perform step)
  exact hrun Scopes.global

/-! ## Segments -/

namespace Scopes

variable {s t : Scopes} {segment : List ScopeStep}

/-- The scopes that are left behind a segment of steps. -/
def run (s : Scopes) (segment : List ScopeStep) : Scopes := segment.foldl perform s

theorem after_append (steps segment : List ScopeStep) :
    after (steps ++ segment) = (after steps).run segment :=
  List.foldl_append

/-- A segment of steps that ends at the depth at which it begins, goes nowhere below, and makes no declaration
at that depth. A declaration does not change the depth, so it is looked at behind it. -/
structure Undisturbed (s : Scopes) (segment : List ScopeStep) : Prop where
  back : (s.run segment).depth = s.depth
  above : ∀ front ∈ segment.inits, s.depth ≤ (s.run front).depth
  silent : ∀ front ∈ segment.inits, front.getLast?.any ScopeStep.declares = true →
    (s.run front).depth ≠ s.depth

instance (s : Scopes) (segment : List ScopeStep) : Decidable (s.Undisturbed segment) :=
  decidable_of_iff ((s.run segment).depth = s.depth ∧
      (∀ front ∈ segment.inits, s.depth ≤ (s.run front).depth) ∧
      ∀ front ∈ segment.inits, front.getLast?.any ScopeStep.declares = true →
        (s.run front).depth ≠ s.depth)
    ⟨fun ⟨hback, habove, hsilent⟩ => ⟨hback, habove, hsilent⟩, fun h => ⟨h.back, h.above, h.silent⟩⟩

/-- One step within a segment. The scopes at the beginning of the segment stay under those that were opened
since: the only steps that could change them close one of them or declare a name in the innermost. -/
theorem exists_chain_perform {inner : List Scope} (h : t.chain = inner ++ s.chain) (step : ScopeStep)
    (habove : s.depth ≤ (t.perform step).depth)
    (hsilent : step.declares = true → (t.perform step).depth ≠ s.depth) :
    ∃ inner', (t.perform step).chain = inner' ++ s.chain := by
  cases step with
  | enter => exact ⟨[] :: inner, congrArg ([] :: ·) h⟩
  | declare name binding =>
    cases inner with
    | nil =>
      have hsame : t = s := chain_inj h
      exact absurd (congrArg depth hsame) (hsilent rfl)
    | cons scope inner =>
      obtain ⟨-, houter⟩ := List.cons.inj h
      exact ⟨t.current.declare name binding :: inner, congrArg (t.current.declare name binding :: ·) houter⟩
  | exit =>
    cases inner with
    | nil =>
      obtain rfl : t = s := chain_inj h
      -- the scope is closed only if there is one around it, and that would be too low
      have houter : t.outer = [] := by
        by_contra hne
        have hlow : t.exit.depth = t.outer.length := by
          rw [← length_chain, chain_exit hne]
        have hdepth : t.depth ≤ t.exit.depth := habove
        rw [hlow, depth] at hdepth
        omega
      exact ⟨[], congrArg chain (exit_of_outer_eq_nil houter)⟩
    | cons scope inner =>
      obtain ⟨-, houter⟩ := List.cons.inj h
      have hne : t.outer ≠ [] := by
        rw [houter]
        exact List.append_ne_nil_of_right_ne_nil _ (List.cons_ne_nil _ _)
      exact ⟨inner, (chain_exit hne).trans houter⟩

/-- Within a segment the scopes at its beginning stay where they are. Induction on the steps made so far, the
last one being the one that counts. -/
theorem Undisturbed.exists_chain_run (h : s.Undisturbed segment) {front : List ScopeStep}
    (hfront : front <+: segment) : ∃ inner, (s.run front).chain = inner ++ s.chain := by
  induction front using List.reverseRecOn with
  | nil => exact ⟨[], rfl⟩
  | append_singleton front step ih =>
    obtain ⟨inner, hinner⟩ := ih ((List.prefix_append front [step]).trans hfront)
    have hmem : front ++ [step] ∈ segment.inits := (List.mem_inits _ _).mpr hfront
    have hrun : s.run (front ++ [step]) = (s.run front).perform step := by
      rw [run, List.foldl_append]
      rfl
    have habove := h.above _ hmem
    have hsilent := h.silent _ hmem
    rw [List.getLast?_concat] at hsilent
    rw [hrun] at habove hsilent ⊢
    exact exists_chain_perform hinner step habove hsilent

/-- A segment that comes back leaves the scopes as they were. -/
theorem Undisturbed.run_eq (h : s.Undisturbed segment) : s.run segment = s := by
  obtain ⟨inner, hinner⟩ := h.exists_chain_run (List.prefix_refl segment)
  -- nothing is left above them at that depth
  have hlength : (inner ++ s.chain).length = s.chain.length := by
    rw [← hinner, length_chain, length_chain]
    exact h.back
  have hnil : inner = [] := by
    rw [List.length_append] at hlength
    exact List.length_eq_zero_iff.mp (by omega)
  rw [hnil, List.nil_append] at hinner
  exact chain_inj hinner

/-- A second declaration of a name in a scope is dropped. -/
theorem declare_of_mem {name : String} (h : name ∈ Scope.names s.current) (binding : Binding) :
    s.declare name binding = s := by
  have hfound : (s.current.find? name).isSome = true := by
    rw [Option.isSome_iff_ne_none]
    exact fun hnone => Scope.find?_eq_none_iff.mp hnone h
  rw [declare, Scope.declare, if_pos hfound]

/-- Scopes behave as the text suggests. The list of them is never empty, whatever is closed. Any segment of
steps that comes back to the depth at which it began, without going below and without a declaration at that
depth, changes no answer. And declaring a name that the current scope declares already changes no answer that is
given later on. -/
theorem scope_discipline (steps : List ScopeStep) :
    (stackAfter steps = (after steps).chain ∧ (stackAfter steps).length = (after steps).depth ∧
      1 ≤ (stackAfter steps).length) ∧
    (∀ segment, (after steps).Undisturbed segment →
      ∀ name, (after (steps ++ segment)).resolve name = (after steps).resolve name) ∧
    ∀ name binding, name ∈ Scope.names (after steps).current →
      ∀ rest other, (after (steps ++ .declare name binding :: rest)).resolve other =
        (after (steps ++ rest)).resolve other := by
  have hstack := stackAfter_eq steps
  refine ⟨⟨hstack, ?_, ?_⟩, fun segment hsegment name => ?_, fun name binding hname rest other => ?_⟩
  · rw [hstack, length_chain]
  · rw [hstack, length_chain, depth]
    omega
  · rw [after_append, hsegment.run_eq]
  · have hdropped : (after steps).perform (.declare name binding) = after steps :=
      declare_of_mem hname binding
    rw [after_append, after_append, run, List.foldl_cons, hdropped, run]

/-- Two scopes are opened and closed, with another `xs` in between, and then `xs` is declared again. -/
theorem scope_discipline_shadowed :
    let xs : ScopeStep := .declare "xs" ⟨some .sequence, .variable⟩
    let steps : List ScopeStep := [.exit, xs, .enter, .declare "ys" ⟨some (.reference "xs"), .variable⟩]
    let segment : List ScopeStep :=
      [.enter, .declare "xs" ⟨some .object, .parameter⟩, .enter, .exit, .exit]
    (after steps).Undisturbed segment ∧ "ys" ∈ Scope.names (after steps).current ∧
      (after (steps ++ segment)).resolve "ys" = some ⟨"ys", some .sequence, .variable⟩ ∧
      (after (steps ++ [.declare "ys" ⟨none, .parameter⟩, .exit, .enter])).resolve "xs" =
        some ⟨"xs", some .sequence, .variable⟩ := by
  intro xs steps segment
  have hsegment : (after steps).Undisturbed segment := by decide
  have hname : "ys" ∈ Scope.names (after steps).current := by decide
  obtain ⟨-, hback, hagain⟩ := scope_discipline steps
  refine ⟨hsegment, hname, (hback segment hsegment "ys").trans ?_, (hagain "ys" _ hname _ "xs").trans ?_⟩
  · decide
  · decide

end Scopes

end MapLint.Lint
