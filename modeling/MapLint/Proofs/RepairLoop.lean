import MapLint.Lint.Repair

/-!
# What the repair loop returns

The loop parses what a pass has made only in the round behind it, so for one round it holds a text
that nobody has looked at. These theorems say, for every parser and every choice of edits, that no
such text is ever returned and that a pass that is taken back leaves nothing behind.

## Architecture

- `IsPass` is one pass that made at least one edit, and `Passes` a number of them in a row; they are
  said of texts and counts alone, without the loop;
- `Loop.round_cases` is all that a round can do;
- `Loop.Undoable` is the invariant: what the loop holds was reached by passes, and what it would go
  back to is exactly one pass behind. `Undoable.goOn` is the step and `Rounds.undoable` the run;
- `Repaired.Settled` is what the end of a round gives, and `repairFrom_settled` carries it through
  the rounds.
-/

namespace MapLint.Lint

variable {α ε : Type} {parse : List Char → Except ε α} {editsFor : Nat → α → List Edit}
  {text : List Char}

/-! ## Passes, said without the loop -/

/-- One pass: the text parses, and the edits chosen for it change it in at least one place. -/
def IsPass (parse : List Char → Except ε α) (editsFor : Nat → α → List Edit)
    (p next : Progress) : Prop :=
  ∃ parsed, parse p.text = .ok parsed ∧
    0 < (applyEdits p.text (editsFor p.passes parsed)).applied ∧
    next =
      { text := (applyEdits p.text (editsFor p.passes parsed)).text
        applied := p.applied + (applyEdits p.text (editsFor p.passes parsed)).applied
        passes := p.passes + 1 }

/-- What is reached from a text by passes alone. Both counts begin at zero. -/
inductive Passes (parse : List Char → Except ε α) (editsFor : Nat → α → List Edit)
    (text : List Char) : Progress → Prop where
  | start : Passes parse editsFor text ⟨text, 0, 0⟩
  | pass {p next : Progress} (before : Passes parse editsFor text p)
      (step : IsPass parse editsFor p next) : Passes parse editsFor text next

/-- What the loop holds between two rounds. -/
inductive Rounds (parse : List Char → Except ε α) (editsFor : Nat → α → List Edit)
    (text : List Char) : Loop → Prop where
  | start : Rounds parse editsFor text { text }
  | goOn {s next : Loop} (before : Rounds parse editsFor text s)
      (step : s.round parse editsFor = .goOn next) : Rounds parse editsFor text next

/-- A pass counts itself. -/
theorem IsPass.passes_eq {p next : Progress} (h : IsPass parse editsFor p next) :
    next.passes = p.passes + 1 := by
  obtain ⟨parsed, -, -, rfl⟩ := h
  rfl

/-- Only a text that parses is passed over. -/
theorem IsPass.parses {p next : Progress} (h : IsPass parse editsFor p next) :
    ∃ parsed, parse p.text = .ok parsed := by
  obtain ⟨parsed, hparse, -⟩ := h
  exact ⟨parsed, hparse⟩

/-- There is at most one next pass. -/
theorem IsPass.unique {p next next' : Progress} (h : IsPass parse editsFor p next)
    (h' : IsPass parse editsFor p next') : next = next' := by
  obtain ⟨parsed, hparse, -, rfl⟩ := h
  obtain ⟨parsed', hparse', -, rfl⟩ := h'
  rw [hparse] at hparse'
  cases hparse'
  rfl

/-! ## One round -/

/-- All that a round can do: give up, take the last pass back, stop, or go on. -/
theorem Loop.round_cases (parse : List Char → Except ε α) (editsFor : Nat → α → List Edit)
    (s : Loop) :
    (∃ e, parse s.text = .error e ∧ s.lastGood = none ∧ s.round parse editsFor = .failed e) ∨
    (∃ e before applied, parse s.text = .error e ∧ s.lastGood = some (before, applied) ∧
      s.round parse editsFor =
        .done { text := before, applied, passes := s.passes - 1, reverted := some e }) ∨
    (∃ parsed, parse s.text = .ok parsed ∧
      (s.passes = maxPasses ∨ ∀ next, ¬ IsPass parse editsFor s.toProgress next) ∧
      s.round parse editsFor = .done { s with }) ∨
    (∃ next : Loop, s.passes ≠ maxPasses ∧ IsPass parse editsFor s.toProgress next.toProgress ∧
      next.lastGood = some (s.text, s.applied) ∧ s.round parse editsFor = .goOn next) := by
  unfold Loop.round
  cases hparse : parse s.text with
  | error e =>
    cases hgood : s.lastGood with
    | none => exact .inl ⟨e, rfl, rfl, rfl⟩
    | some good => exact .inr (.inl ⟨e, good.1, good.2, rfl, rfl, rfl⟩)
  | ok parsed =>
    by_cases hlast : s.passes = maxPasses
    · exact .inr (.inr (.inl ⟨parsed, rfl, .inl hlast, by simp [hlast]⟩))
    by_cases hnone : (applyEdits s.text (editsFor s.passes parsed)).applied = 0
    · refine .inr (.inr (.inl ⟨parsed, rfl, .inr ?_, by simp [hlast, hnone]⟩))
      rintro next ⟨parsed', hparse', hsome, -⟩
      rw [hparse] at hparse'
      cases hparse'
      omega
    · refine .inr (.inr (.inr ⟨_, hlast, ?_, rfl, by simp only [if_neg hlast, if_neg hnone]; rfl⟩))
      exact ⟨parsed, hparse, Nat.pos_of_ne_zero hnone, rfl⟩

/-! ## The invariant -/

/-- What the loop holds was reached by passes, not too many of them, and what it would go back to is
the progress before the last one. -/
structure Loop.Undoable (parse : List Char → Except ε α) (editsFor : Nat → α → List Edit)
    (text : List Char) (s : Loop) : Prop where
  passes : Passes parse editsFor text s.toProgress
  bounded : s.passes ≤ maxPasses
  lastGood : (s.lastGood = none ∧ s.text = text) ∨
    ∃ p : Progress, s.lastGood = some (p.text, p.applied) ∧ Passes parse editsFor text p ∧
      IsPass parse editsFor p s.toProgress

/-- At the start there is nothing to go back to. -/
theorem Loop.undoable_start : Loop.Undoable parse editsFor text { text } where
  passes := .start
  bounded := Nat.zero_le _
  lastGood := .inl ⟨rfl, rfl⟩

/-- A round that goes on keeps the invariant. -/
theorem Loop.Undoable.goOn {s next : Loop} (h : s.Undoable parse editsFor text)
    (hround : s.round parse editsFor = .goOn next) : next.Undoable parse editsFor text := by
  obtain ⟨e, -, -, hr⟩ | ⟨e, before, applied, -, -, hr⟩ | ⟨parsed, -, -, hr⟩ |
      ⟨next', hlast, hpass, hgood, hr⟩ := s.round_cases parse editsFor
  · rw [hr] at hround
    cases hround
  · rw [hr] at hround
    cases hround
  · rw [hr] at hround
    cases hround
  · rw [hr] at hround
    cases hround
    refine ⟨.pass h.passes hpass, ?_, .inr ⟨s.toProgress, hgood, h.passes, hpass⟩⟩
    have hcount := hpass.passes_eq
    have hbound := h.bounded
    omega

/-- The invariant holds between any two rounds. -/
theorem Rounds.undoable {s : Loop} (h : Rounds parse editsFor text s) :
    s.Undoable parse editsFor text := by
  induction h with
  | start => exact Loop.undoable_start
  | goOn _ step ih => exact ih.goOn step

/-- There is a pass to take back whenever the loop can go back. -/
theorem Loop.Undoable.passes_pos {s : Loop} (h : s.Undoable parse editsFor text)
    (hsome : s.lastGood.isSome) : 0 < s.passes := by
  rcases h.lastGood with ⟨hnone, -⟩ | ⟨p, -, -, hpass⟩
  · rw [hnone] at hsome
    cases hsome
  · have hcount := hpass.passes_eq
    omega

/-! ## The result -/

/-- What is returned: a text that parses, reached by its passes. Where the limit was not the reason
to stop, there is no next pass, or it was made and taken back because its text did not parse. -/
structure Repaired.Settled (parse : List Char → Except ε α) (editsFor : Nat → α → List Edit)
    (text : List Char) (r : Repaired ε) : Prop where
  parses : ∃ parsed, parse r.text = .ok parsed
  passes : Passes parse editsFor text r.toProgress
  bounded : r.passes ≤ maxPasses
  revoked : ∀ e, r.reverted = some e → r.passes < maxPasses ∧
    ∃ next, IsPass parse editsFor r.toProgress next ∧ parse next.text = .error e
  halted : r.passes < maxPasses → ∀ next, IsPass parse editsFor r.toProgress next →
    ∃ e, parse next.text = .error e ∧ r.reverted = some e

/-- A settled text names a fault exactly when one more pass was made and did not parse. -/
theorem Repaired.Settled.reverted_eq_some_iff {r : Repaired ε} (h : r.Settled parse editsFor text)
    (e : ε) :
    r.reverted = some e ↔ r.passes < maxPasses ∧
      ∃ next, IsPass parse editsFor r.toProgress next ∧ parse next.text = .error e := by
  constructor
  · exact h.revoked e
  · rintro ⟨hlt, next, hnext, herror⟩
    obtain ⟨e', herror', hreverted⟩ := h.halted hlt next hnext
    rw [herror] at herror'
    cases herror'
    exact hreverted

/-- Without a fault, and short of the limit, there is no further pass. -/
theorem Repaired.Settled.not_isPass {r : Repaired ε} (h : r.Settled parse editsFor text)
    (hnone : r.reverted = none) (hlt : r.passes < maxPasses) (next : Progress) :
    ¬ IsPass parse editsFor r.toProgress next := by
  intro hnext
  obtain ⟨e, -, hreverted⟩ := h.halted hlt next hnext
  rw [hnone] at hreverted
  cases hreverted

/-- Taking a pass back restores the progress before it. -/
theorem Loop.Undoable.settled_of_error {s : Loop} (h : s.Undoable parse editsFor text) {e : ε}
    {before : List Char} {applied : Nat} (herror : parse s.text = .error e)
    (hgood : s.lastGood = some (before, applied)) :
    Repaired.Settled parse editsFor text
      { text := before, applied, passes := s.passes - 1, reverted := some e } := by
  rcases h.lastGood with ⟨hnone, -⟩ | ⟨p, hp, hpasses, hpass⟩
  · rw [hnone] at hgood
    cases hgood
  rw [hp] at hgood
  cases hgood
  have hcount : s.passes = p.passes + 1 := hpass.passes_eq
  have hback : s.passes - 1 = p.passes := by omega
  have hbound := h.bounded
  rw [hback]
  refine ⟨hpass.parses, hpasses, by dsimp only; omega, ?_, ?_⟩
  · rintro e' he'
    cases he'
    exact ⟨by dsimp only; omega, s.toProgress, hpass, herror⟩
  · intro _ next hnext
    have hsame : next = s.toProgress := IsPass.unique hnext hpass
    rw [hsame]
    exact ⟨e, herror, rfl⟩

/-- The round that ends the repair returns a settled text. -/
theorem Loop.Undoable.settled {s : Loop} (h : s.Undoable parse editsFor text) {r : Repaired ε}
    (hround : s.round parse editsFor = .done r) : r.Settled parse editsFor text := by
  obtain ⟨e, -, -, hr⟩ | ⟨e, before, applied, herror, hgood, hr⟩ | ⟨parsed, hparse, hstop, hr⟩ |
      ⟨next, -, -, -, hr⟩ := s.round_cases parse editsFor
  · rw [hr] at hround
    cases hround
  · rw [hr] at hround
    cases hround
    exact h.settled_of_error herror hgood
  · rw [hr] at hround
    cases hround
    refine ⟨⟨parsed, hparse⟩, h.passes, h.bounded, (fun e he => nomatch he), ?_⟩
    intro hlt next hnext
    rcases hstop with hmax | hnone
    · exact absurd hmax (Nat.ne_of_lt hlt)
    · exact absurd hnext (hnone next)
  · rw [hr] at hround
    cases hround

/-- A round fails only on the text that the repair began with. -/
theorem Loop.Undoable.error_of_failed {s : Loop} (h : s.Undoable parse editsFor text) {e : ε}
    (hround : s.round parse editsFor = .failed e) : parse text = .error e := by
  obtain ⟨e', herror, hgood, hr⟩ | ⟨e', before, applied, -, -, hr⟩ | ⟨parsed, -, -, hr⟩ |
      ⟨next, -, -, -, hr⟩ := s.round_cases parse editsFor
  · rw [hr] at hround
    cases hround
    rcases h.lastGood with ⟨-, htext⟩ | ⟨p, hp, -, -⟩
    · rwa [htext] at herror
    · rw [hp] at hgood
      cases hgood
  all_goals
    rw [hr] at hround
    cases hround

/-- What the rounds come to, from any state that the loop can hold. Induction on the rounds that are
left: they never run out, because the last of them finds that all passes are made. -/
theorem repairFrom_settled (n : Nat) : ∀ s : Loop, s.Undoable parse editsFor text →
    s.passes + n = maxPasses + 1 →
    match repairFrom parse editsFor n s with
    | .error e => parse text = .error e
    | .ok r => r.Settled parse editsFor text := by
  induction n with
  | zero =>
    intro s h hn
    have hbound := h.bounded
    omega
  | succ n ih =>
    intro s h hn
    unfold repairFrom
    cases hround : s.round parse editsFor with
    | failed e => exact h.error_of_failed hround
    | done r => exact h.settled hround
    | goOn next =>
      have hnext := h.goOn hround
      refine ih next hnext ?_
      -- the next state is one pass further on
      obtain ⟨e, -, -, hr⟩ | ⟨e, _, _, -, -, hr⟩ | ⟨_, -, -, hr⟩ | ⟨next', -, hpass, -, hr⟩ :=
        s.round_cases parse editsFor
      all_goals
        rw [hr] at hround
        cases hround
      have hcount : next.passes = s.passes + 1 := hpass.passes_eq
      omega

/-- A text that parses is repaired, and the result is settled. -/
theorem repair_settled (parse : List Char → Except ε α) (editsFor : Nat → α → List Edit)
    (text : List Char) :
    match repair parse editsFor text with
    | .error e => parse text = .error e
    | .ok r => r.Settled parse editsFor text :=
  repairFrom_settled (maxPasses + 1) { text } Loop.undoable_start (by simp)

/-- What passes lead to comes from a text that parses, unless it is the text itself. -/
theorem Passes.eq_or_parses {p : Progress} (h : Passes parse editsFor text p) :
    p.text = text ∨ ∃ parsed, parse text = .ok parsed := by
  induction h with
  | start => exact .inl rfl
  | pass _ step ih =>
    rcases ih with heq | hparses
    · rw [← heq]
      exact .inr step.parses
    · exact .inr hparses

/-- A settled text comes from a text that parses. -/
theorem Repaired.Settled.origin_parses {r : Repaired ε} (h : r.Settled parse editsFor text) :
    ∃ parsed, parse text = .ok parsed := by
  rcases h.passes.eq_or_parses with heq | hparses
  · rw [← heq]
    exact h.parses
  · exact hparses

/-- Whatever the parser accepts and whatever edits are chosen pass by pass: a text is refused exactly
when it does not parse itself. Otherwise the result parses, is reached by its passes, of which there
are at most `maxPasses` and each of which made an edit; it names a fault exactly when one more pass
was made and did not parse; without a fault, and short of the limit, there is no further pass. And
the loop never goes back before its first pass. -/
theorem repair_returns_last_parsed (parse : List Char → Except ε α)
    (editsFor : Nat → α → List Edit) (text : List Char) :
    (match repair parse editsFor text with
      | .error e => parse text = .error e
      | .ok r =>
        (∃ parsed, parse text = .ok parsed) ∧ (∃ parsed, parse r.text = .ok parsed) ∧
        r.passes ≤ 10 ∧ Passes parse editsFor text r.toProgress ∧
        (∀ e, r.reverted = some e ↔ r.passes < 10 ∧
          ∃ next, IsPass parse editsFor r.toProgress next ∧ parse next.text = .error e) ∧
        (r.reverted = none ∧ r.passes < 10 → ∀ next, ¬ IsPass parse editsFor r.toProgress next)) ∧
    ∀ s, Rounds parse editsFor text s → s.lastGood.isSome → 0 < s.passes := by
  refine ⟨?_, fun s hs hsome => hs.undoable.passes_pos hsome⟩
  have h := repair_settled parse editsFor text
  cases hrepair : repair parse editsFor text with
  | error e =>
    rw [hrepair] at h
    exact h
  | ok r =>
    rw [hrepair] at h
    exact ⟨h.origin_parses, h.parses, h.bounded, h.passes, h.reverted_eq_some_iff,
      fun hend next => h.not_isPass hend.1 hend.2 next⟩

end MapLint.Lint
