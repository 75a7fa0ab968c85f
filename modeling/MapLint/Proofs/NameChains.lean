import MapLint.Proofs.ScopeSteps

/-!
# What a name comes to

The initial value of a declaration may be a variable, which has a declaration of its own, and so on.
Resolving a name walks along these declarations and gives up after eight of them. Here the walk is
compared with the chain itself, which knows no limit.

## Architecture

- `Declaration.Mentions` is one link of a chain: the variable is looked for from the scope of the
  declaration that mentions it, and never in a scope inside that one;
- `Declaration.Leads` is a chain of several links, `Declaration.EndsIn` a chain that has a last
  declaration whose initial value is no variable;
- `Declaration.settle_eq_some_iff`: the walk finds exactly the ends of short chains;
- `Declaration.Leads.unique`: a declaration has one chain, so a chain that goes on for longer than it
  takes to an end has no end (`Declaration.Leads.le_of_stops`);
- `resolve_follows_declarations` joins them.
-/

namespace MapLint.Lint

/-! ## Chains of declarations -/

namespace Declaration

/-- The initial value of `d` is a variable, and `next` is its declaration as the scopes of `d` see
it. -/
def Mentions (d next : Declaration) : Prop :=
  ∃ name, d.binding.init = some (.reference name) ∧ d.home.Sees name next

/-- A chain of so many links from one declaration to another. -/
inductive Leads : Nat → Declaration → Declaration → Prop
  | stay (d : Declaration) : Leads 0 d d
  | hop {d next last : Declaration} {hops : Nat} (link : d.Mentions next)
      (rest : Leads hops next last) : Leads (hops + 1) d last

/-- The chain from `d` has so many links, and the last declaration has an initial value of this shape
and not a variable. -/
def EndsIn (d : Declaration) (hops : Nat) (shape : Shape) : Prop :=
  ∃ last, Leads hops d last ∧ last.binding.init = some shape ∧ ∀ name, shape ≠ .reference name

/-- No chain goes on from here. -/
def Stops (d : Declaration) : Prop := ∀ next, ¬ d.Mentions next

/-- The chain comes back to a declaration that it has passed. -/
def Cyclic (d : Declaration) : Prop :=
  ∃ hops again turn, Leads hops d again ∧ Leads (turn + 1) again again

/-- The chain comes to a variable that is declared nowhere around it. -/
def Dangling (d : Declaration) : Prop :=
  ∃ hops last name, Leads hops d last ∧ last.binding.init = some (.reference name) ∧
    ∀ scope ∈ last.home.chain, name ∉ Scope.names scope

/-- The chain has more links than that. -/
def LeadsBeyond (d : Declaration) (hops : Nat) : Prop := ∃ more last, hops < more ∧ Leads more d last

variable {d next last other : Declaration} {hops more : Nat} {shape : Shape}

theorem stops_of_init (h : ∀ name, d.binding.init ≠ some (.reference name)) : d.Stops :=
  fun _ ⟨name, hinit, _⟩ => h name hinit

/-- What is mentioned is the declaration of the variable. -/
theorem Mentions.sees {name : String} (h : d.Mentions next)
    (hinit : d.binding.init = some (.reference name)) : d.home.Sees name next := by
  obtain ⟨name', hinit', hsees⟩ := h
  obtain rfl : name = name' := by simpa [hinit] using hinit'
  exact hsees

theorem stops_of_not_mem {name : String} (hinit : d.binding.init = some (.reference name))
    (h : ∀ scope ∈ d.home.chain, name ∉ Scope.names scope) : d.Stops := by
  intro next link
  obtain ⟨scope, hscope, hname⟩ := (link.sees hinit).mem_names
  exact h scope hscope hname

theorem Mentions.unique (h : d.Mentions next) (h' : d.Mentions other) (hd : d.home.Distinct) :
    next = other := by
  obtain ⟨name, hinit, hsees⟩ := h
  exact hsees.unique (h'.sees hinit) hd

theorem Mentions.distinct (h : d.Mentions next) (hd : d.home.Distinct) : next.home.Distinct := by
  obtain ⟨name, -, hsees⟩ := h
  exact hsees.distinct hd

theorem Leads.trans (h : Leads hops d next) (h' : Leads more next last) :
    Leads (hops + more) d last := by
  induction h with
  | stay d => simpa using h'
  | @hop d between next hops link rest ih =>
    have hall := Leads.hop link (ih h')
    rwa [Nat.add_right_comm] at hall

/-- A chain that comes back goes round as often as one likes. -/
theorem Leads.repeat (h : Leads hops d d) (times : Nat) : Leads (times * hops) d d := by
  induction times with
  | zero => simpa using Leads.stay d
  | succ times ih =>
    rw [Nat.succ_mul]
    exact ih.trans h

/-- No chain is longer than one that has stopped. Induction on the chain that has; a declaration has
one link at most, so the other chain takes the same way. -/
theorem Leads.le_of_stops (h : Leads hops d last) (hlast : last.Stops) (h' : Leads more d other)
    (hd : d.home.Distinct) : more ≤ hops := by
  induction h generalizing more with
  | stay d =>
    cases h' with
    | stay => exact Nat.le_refl 0
    | hop link _ => exact absurd link (hlast _)
  | hop link rest ih =>
    cases h' with
    | stay => exact Nat.zero_le _
    | hop link' rest' =>
      obtain rfl := link.unique link' hd
      exact Nat.succ_le_succ (ih hlast rest' (link.distinct hd))

/-- Chains of the same length from one declaration end in the same one. -/
theorem Leads.unique (h : Leads hops d last) (h' : Leads hops d other) (hd : d.home.Distinct) :
    last = other := by
  induction h with
  | stay d =>
    cases h'
    rfl
  | hop link rest ih =>
    cases h' with
    | hop link' rest' =>
      obtain rfl := link.unique link' hd
      exact ih rest' (link.distinct hd)

/-- Only one declaration along a chain can be the one where it stops. -/
theorem Leads.eq_of_stops (h : Leads hops d last) (hlast : last.Stops) (h' : Leads more d other)
    (hother : other.Stops) (hd : d.home.Distinct) : hops = more ∧ last = other := by
  have hlength : hops = more :=
    Nat.le_antisymm (h'.le_of_stops hother h hd) (h.le_of_stops hlast h' hd)
  subst hlength
  exact ⟨rfl, h.unique h' hd⟩

/-! ## Chains with an end -/

theorem stops_of_init_eq (h : last.binding.init = some shape)
    (hshape : ∀ name, shape ≠ .reference name) : last.Stops :=
  stops_of_init fun name hinit => hshape name (Option.some.inj (h.symm.trans hinit))

theorem endsIn_zero_iff :
    d.EndsIn 0 shape ↔ d.binding.init = some shape ∧ ∀ name, shape ≠ .reference name := by
  constructor
  · rintro ⟨last, hleads, hend⟩
    cases hleads
    exact hend
  · exact fun hend => ⟨d, .stay d, hend⟩

theorem endsIn_succ_iff :
    d.EndsIn (hops + 1) shape ↔ ∃ next, d.Mentions next ∧ next.EndsIn hops shape := by
  constructor
  · rintro ⟨last, hleads, hend⟩
    cases hleads with
    | hop link rest => exact ⟨_, link, last, rest, hend⟩
  · rintro ⟨next, link, last, rest, hend⟩
    exact ⟨last, .hop link rest, hend⟩

/-- A declaration that mentions nothing has the end of its chain in itself. -/
theorem EndsIn.of_stops (h : d.EndsIn hops shape) (hstops : d.Stops) :
    d.binding.init = some shape ∧ ∀ name, shape ≠ .reference name := by
  cases hops with
  | zero => exact endsIn_zero_iff.mp h
  | succ hops =>
    obtain ⟨next, link, -⟩ := endsIn_succ_iff.mp h
    exact absurd link (hstops next)

/-- A chain has at most one end. -/
theorem EndsIn.unique {shape' : Shape} (h : d.EndsIn hops shape) (h' : d.EndsIn more shape')
    (hd : d.home.Distinct) : hops = more ∧ shape = shape' := by
  obtain ⟨last, hleads, hinit, hshape⟩ := h
  obtain ⟨last', hleads', hinit', hshape'⟩ := h'
  obtain ⟨rfl, rfl⟩ := hleads.eq_of_stops (stops_of_init_eq hinit hshape) hleads'
    (stops_of_init_eq hinit' hshape') hd
  exact ⟨rfl, Option.some.inj (hinit.symm.trans hinit')⟩

/-- A chain with an end has no link behind it. -/
theorem EndsIn.le (h : d.EndsIn hops shape) (h' : Leads more d other) (hd : d.home.Distinct) :
    more ≤ hops := by
  obtain ⟨last, hleads, hinit, hshape⟩ := h
  exact hleads.le_of_stops (stops_of_init_eq hinit hshape) h' hd

theorem Cyclic.not_endsIn (h : d.Cyclic) (hd : d.home.Distinct) : ¬ d.EndsIn hops shape := by
  intro hend
  obtain ⟨lead, again, turn, hlead, hturn⟩ := h
  -- once round more often than the chain has links
  have hle := hend.le (hlead.trans (hturn.repeat (hops + 1))) hd
  have hmore : hops + 1 ≤ (hops + 1) * (turn + 1) := Nat.le_mul_of_pos_right _ (Nat.succ_pos turn)
  omega

theorem Dangling.not_endsIn (h : d.Dangling) (hd : d.home.Distinct) : ¬ d.EndsIn hops shape := by
  rintro ⟨last, hleads, hinit, hshape⟩
  obtain ⟨lead, dangling, name, hlead, hreference, hnone⟩ := h
  obtain ⟨-, rfl⟩ := hleads.eq_of_stops (stops_of_init_eq hinit hshape) hlead
    (stops_of_not_mem hreference hnone) hd
  exact hshape name (Option.some.inj (hinit.symm.trans hreference))

/-- Where the initial value is a variable, the end is behind its declaration. -/
theorem endsIn_iff_of_reference {name : String} (hinit : d.binding.init = some (.reference name)) :
    d.EndsIn hops shape ↔
      ∃ links next, hops = links + 1 ∧ d.home.Sees name next ∧ next.EndsIn links shape := by
  cases hops with
  | zero =>
    constructor
    · intro hend
      obtain ⟨hshape, hnot⟩ := endsIn_zero_iff.mp hend
      exact absurd (Option.some.inj (hshape.symm.trans hinit)) (hnot name)
    · rintro ⟨links, next, hzero, -⟩
      cases hzero
  | succ hops =>
    rw [endsIn_succ_iff]
    constructor
    · rintro ⟨next, link, hend⟩
      exact ⟨hops, next, rfl, link.sees hinit, hend⟩
    · rintro ⟨links, next, heq, hsees, hend⟩
      obtain rfl := Nat.succ.inj heq
      exact ⟨next, ⟨name, hinit, hsees⟩, hend⟩

/-! ## The walk along a chain -/

theorem settle_of_not_reference {init : Option Shape} (h : ∀ name, init ≠ some (.reference name))
    (hops : Nat) (chain : List Scope) : settle hops init chain = init := by
  unfold settle
  split
  · exact absurd rfl (h _)
  · exact absurd rfl (h _)
  · rfl

/-- An initial value that is no variable is the end of the chain already. -/
theorem settle_iff_of_not_reference (h : ∀ name, d.binding.init ≠ some (.reference name)) :
    settle hops d.binding.init d.home.chain = some shape ↔
      ∃ links ≤ hops, d.EndsIn links shape := by
  rw [settle_of_not_reference h]
  constructor
  · intro hshape
    have hnot : ∀ name, shape ≠ .reference name := fun name heq => h name (heq ▸ hshape)
    exact ⟨0, Nat.zero_le _, endsIn_zero_iff.mpr ⟨hshape, hnot⟩⟩
  · rintro ⟨links, -, hend⟩
    exact (hend.of_stops (stops_of_init h)).1

/-- The walk finds exactly the ends of chains that have no more links than it may follow. Induction on
the number of links that it may still follow. -/
theorem settle_eq_some_iff (hd : d.home.Distinct) :
    settle hops d.binding.init d.home.chain = some shape ↔
      ∃ links ≤ hops, d.EndsIn links shape := by
  induction hops generalizing d with
  | zero =>
    by_cases hinit : ∃ name, d.binding.init = some (.reference name)
    · obtain ⟨name, hinit⟩ := hinit
      rw [hinit, settle]
      constructor
      · intro hnone
        cases hnone
      · rintro ⟨links, hle, hend⟩
        obtain ⟨links, next, rfl, -, -⟩ := (endsIn_iff_of_reference hinit).mp hend
        cases hle
    · exact settle_iff_of_not_reference fun name h => hinit ⟨name, h⟩
  | succ hops ih =>
    by_cases hinit : ∃ name, d.binding.init = some (.reference name)
    · obtain ⟨name, hinit⟩ := hinit
      by_cases hname : ∃ scope ∈ d.home.chain, name ∈ Scope.names scope
      · obtain ⟨next, hsees⟩ := Scopes.exists_sees hname
        rw [hinit, settle, hsees.lookup_eq hd]
        refine (ih (hsees.distinct hd)).trans ⟨?_, ?_⟩
        · rintro ⟨links, hle, hend⟩
          exact ⟨links + 1, Nat.succ_le_succ hle,
            (endsIn_iff_of_reference hinit).mpr ⟨links, next, rfl, hsees, hend⟩⟩
        · rintro ⟨links, hle, hend⟩
          obtain ⟨links, next', rfl, hsees', hend⟩ := (endsIn_iff_of_reference hinit).mp hend
          obtain rfl := hsees.unique hsees' hd
          exact ⟨links, Nat.le_of_succ_le_succ hle, hend⟩
      · -- the variable is declared nowhere
        have hnone : ∀ scope ∈ d.home.chain, name ∉ Scope.names scope :=
          fun scope hscope h => hname ⟨scope, hscope, h⟩
        rw [hinit, settle, lookup_eq_none hnone]
        constructor
        · intro hfound
          cases hfound
        · rintro ⟨links, -, hend⟩
          obtain ⟨links, next, -, hsees, -⟩ := (endsIn_iff_of_reference hinit).mp hend
          exact absurd hsees.mem_names hname
    · exact settle_iff_of_not_reference fun name h => hinit ⟨name, h⟩

end Declaration

/-! ## What a name resolves to -/

/-- A name resolves to what the walk from its declaration finds. -/
theorem Scopes.Sees.resolve_eq {s : Scopes} {name : String} {d : Declaration} (h : s.Sees name d)
    (hs : s.Distinct) :
    s.resolve name =
      some ⟨name, settle maxHops d.binding.init d.home.chain, d.binding.origin⟩ := by
  rw [resolve, h.lookup_eq hs]

theorem Scopes.resolve_eq_none_iff {s : Scopes} (hs : s.Distinct) (name : String) :
    s.resolve name = none ↔ ∀ scope ∈ s.chain, name ∉ Scope.names scope := by
  constructor
  · intro hnone scope hscope hname
    obtain ⟨d, hd⟩ := Scopes.exists_sees ⟨scope, hscope, hname⟩
    rw [hd.resolve_eq hs] at hnone
    cases hnone
  · intro hnone
    rw [resolve, lookup_eq_none hnone]

/-- What a name comes to in any chain of scopes. It is unresolved exactly when no scope declares it.
Otherwise there is one innermost declaration of it, and the answer has the origin of that declaration
and an initial value that is no variable: the one at the end of the chain of declarations that starts
there, if the chain has an end behind at most eight links. So there is no initial value where the chain
runs in a circle, comes to a variable that is declared nowhere, or has more than eight links; and where
there is one, it is the end that the chain has when its links are not counted. -/
theorem resolve_follows_declarations (steps : List ScopeStep) (name : String) :
    let s := Scopes.after steps
    (s.resolve name = none ↔ ∀ scope ∈ s.chain, name ∉ Scope.names scope) ∧
    ((∃ scope ∈ s.chain, name ∈ Scope.names scope) →
      ∃ d r, s.Sees name d ∧ (∀ other, s.Sees name other → other = d) ∧
        s.resolve name = some r ∧ r.name = name ∧ r.origin = d.binding.origin ∧
        (∀ target, r.init ≠ some (.reference target)) ∧
        (∀ shape, r.init = some shape ↔ ∃ hops ≤ 8, d.EndsIn hops shape) ∧
        (d.Cyclic ∨ d.Dangling ∨ d.LeadsBeyond 8 → r.init = none) ∧
        ∀ shape, r.init = some shape → ∀ shape', (∃ hops, d.EndsIn hops shape') ↔ shape' = shape) := by
  intro s
  have hs : s.Distinct := Scopes.distinct_after steps
  refine ⟨Scopes.resolve_eq_none_iff hs name, fun hname => ?_⟩
  obtain ⟨d, hsees⟩ := Scopes.exists_sees hname
  have hd : d.home.Distinct := hsees.distinct hs
  have hinit : ∀ shape, settle maxHops d.binding.init d.home.chain = some shape ↔
      ∃ hops ≤ 8, d.EndsIn hops shape := fun shape => Declaration.settle_eq_some_iff hd
  refine ⟨d, _, hsees, fun other hother => hother.unique hsees hs, hsees.resolve_eq hs, rfl, rfl,
    fun target htarget => ?_, hinit, fun hcase => ?_, fun shape hshape shape' => ?_⟩
  · obtain ⟨hops, -, last, -, -, hshape⟩ := (hinit _).mp htarget
    exact hshape target rfl
  · rw [Option.eq_none_iff_forall_not_mem]
    intro shape hshape
    obtain ⟨hops, hle, hend⟩ := (hinit shape).mp hshape
    rcases hcase with hcyclic | hdangling | ⟨more, last, hmore, hleads⟩
    · exact hcyclic.not_endsIn hd hend
    · exact hdangling.not_endsIn hd hend
    · have := hend.le hleads hd
      omega
  · obtain ⟨hops, -, hend⟩ := (hinit shape).mp hshape
    constructor
    · rintro ⟨more, hother⟩
      exact (hother.unique hend hd).2
    · rintro rfl
      exact ⟨hops, hend⟩

end MapLint.Lint
