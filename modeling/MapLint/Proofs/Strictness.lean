import MapLint.Proofs.FindingSpec

/-!
# The loose lint keeps what the strict one finds

The strictness is read in two places: the grade of a first argument depends on it, and so does the
table that joins the grades. Both move the same way. A grade is raised or stays, and at equal grades
the loose table never does less, so a call that the strict lint finds is found by the loose one too.

## Architecture

- `Finding.KeptAs` is what may become of a finding of the strict lint;
- `sequenceEvidence_loose` and `decide_loose` compare the two places, and `classify_loose` joins them;
- `judge_loose_of_strict` is the step, one call judged twice. A replacement without a choice needs
  fewer texts than one with it, so no text can be missing that was there before;
- `strict_findings_kept` is the run.
-/

namespace MapLint.Lint

/-- A finding of the strict lint and what the loose lint finds there: the same finding, or a
replacement that does without the choice. -/
structure Finding.KeptAs (strict loose : Finding) : Prop where
  anchor : loose.anchor = strict.anchor
  span : loose.edit.span = strict.edit.span
  outcome :
    (strict.classification.action = .unconditional ∧ loose = strict) ∨
    (strict.classification.action = .guarded ∧
      ((loose.classification.action = .guarded ∧
          loose.edit.replacement = strict.edit.replacement) ∨
        loose.classification.action = .unconditional))

/-- Where a finding stands: its anchor and what its edit covers. -/
def Finding.place (finding : Finding) : Span × Span := (finding.anchor, finding.edit.span)

variable {source : List Char} {state : PassState} {site : CallSite} {sequence callback : Argument}

/-! ## The two places that read the strictness -/

theorem sequenceEvidence_loose (arg : Argument) :
    sequenceEvidence .loose arg = sequenceEvidence .strict arg ∨
      sequenceEvidence .strict arg = .unlikely := by
  obtain ⟨span, operand, spread, memberSafe⟩ := arg
  cases operand with
  | bound binding => exact .inl rfl
  | unbound name => exact .inl rfl
  | direct shape =>
    cases shape with
    | path => exact .inr rfl
    | _ => exact .inl rfl

theorem decide_loose (first : SequenceEvidence) (second : InvocableEvidence)
    (h : decide .strict first second ≠ .none) :
    decide .loose first second = decide .strict first second ∨
      (decide .strict first second = .guarded ∧ decide .loose first second = .unconditional) := by
  revert h
  cases first <;> cases second <;> decide

theorem decide_unlikely (strictness : Strictness) (second : InvocableEvidence) :
    decide strictness .unlikely second = .none := by
  cases second <;> rfl

theorem classify_loose (h : (classify .strict sequence callback).action ≠ .none) :
    classify .loose sequence callback = classify .strict sequence callback ∨
      ((classify .strict sequence callback).action = .guarded ∧
        (classify .loose sequence callback).action = .unconditional) := by
  -- an argument that the strict lint grades down carries no strict replacement
  have hgrade : sequenceEvidence .loose sequence = sequenceEvidence .strict sequence := by
    refine (sequenceEvidence_loose sequence).resolve_right fun hunlikely => h ?_
    show decide .strict (sequenceEvidence .strict sequence) _ = .none
    rw [hunlikely, decide_unlikely]
  unfold classify at h ⊢
  rw [hgrade]
  dsimp only at h ⊢
  rcases decide_loose _ _ h with hsame | hbolder
  · rw [hsame]
    exact .inl rfl
  · exact .inr hbolder

/-! ## One call -/

/-- A replacement without a choice is made of texts that one with a choice needs too. -/
theorem exists_unconditional_of_guarded {text : List Char}
    (h : replacementFor source site sequence callback .guarded = some text) :
    ∃ direct, replacementFor source site sequence callback .unconditional = some direct := by
  rw [replacementFor_eq_some_iff (by decide)] at h
  cases h with
  | guarded hfirst hsecond hcall =>
    exact ⟨_, (replacementFor_eq_some_iff (by decide)).mpr (.unconditional hfirst hsecond)⟩

theorem judge_loose_of_strict {strict : Finding}
    (h : judge .strict source state site = .ok strict) :
    ∃ loose, judge .loose source state site = .ok loose ∧ strict.KeptAs loose := by
  obtain ⟨hcandidate, hstate, hposition, sequence, callback, text, hargs, hspread, haction, htext,
    rfl⟩ := judge_eq_ok_iff.mp h
  rcases classify_loose haction with hsame | ⟨hguarded, hunconditional⟩
  · -- the same grades and the same decision, so the same text
    rw [← hsame] at haction htext
    refine ⟨_, judge_eq_ok_iff.mpr ⟨hcandidate, hstate, hposition, sequence, callback, text, hargs,
      hspread, haction, htext, rfl⟩, rfl, rfl, ?_⟩
    rw [hsame] at haction ⊢
    cases hact : (classify .strict sequence callback).action with
    | none => exact absurd hact haction
    | unconditional => exact .inl ⟨rfl, rfl⟩
    | guarded => exact .inr ⟨rfl, .inl ⟨rfl, rfl⟩⟩
  · rw [hguarded] at htext
    obtain ⟨direct, hdirect⟩ := exists_unconditional_of_guarded htext
    rw [← hunconditional] at hdirect
    have hsome : (classify .loose sequence callback).action ≠ .none := by
      rw [hunconditional]
      decide
    exact ⟨_, judge_eq_ok_iff.mpr ⟨hcandidate, hstate, hposition, sequence, callback, direct, hargs,
      hspread, hsome, hdirect, rfl⟩, rfl, rfl, .inr ⟨hguarded, .inr hunconditional⟩⟩

/-! ## The whole run -/

/-- What one selection answers, another one answers too, in the same order. -/
theorem sublistForall₂_filterMap {α β : Type} {f g : α → Option β} {R : β → β → Prop}
    (h : ∀ a b, f a = some b → ∃ c, g a = some c ∧ R b c) (xs : List α) :
    List.SublistForall₂ R (xs.filterMap f) (xs.filterMap g) := by
  induction xs with
  | nil => exact .nil
  | cons x xs ih =>
    cases hf : f x with
    | some b =>
      obtain ⟨c, hg, hR⟩ := h x b hf
      rw [List.filterMap_cons_some hf, List.filterMap_cons_some hg]
      exact .cons hR ih
    | none =>
      rw [List.filterMap_cons_none hf]
      cases hg : g x with
      | none => rwa [List.filterMap_cons_none hg]
      | some c =>
        rw [List.filterMap_cons_some hg]
        exact .cons_right ih

theorem sublistForall₂_findings (source : List Char) (events : List Event) :
    List.SublistForall₂ Finding.KeptAs (findings .strict source events)
      (findings .loose source events) := by
  rw [findings_eq_filterMap, findings_eq_filterMap]
  refine sublistForall₂_filterMap (fun site strict hstrict => ?_) _
  -- only a judgement that is a finding has a value here
  cases hjudge : judge .strict source {} site with
  | error skip =>
    rw [hjudge] at hstrict
    cases hstrict
  | ok found =>
    rw [hjudge] at hstrict
    obtain rfl : found = strict := Option.some.inj hstrict
    obtain ⟨loose, hloose, hkept⟩ := judge_loose_of_strict hjudge
    exact ⟨loose, by rw [hloose]; rfl, hkept⟩

theorem map_place_eq_of_forall₂ {strict loose : List Finding}
    (h : List.Forall₂ Finding.KeptAs strict loose) :
    loose.map Finding.place = strict.map Finding.place := by
  induction h with
  | nil => rfl
  | cons hkept _ ih =>
    rw [List.map_cons, List.map_cons, ih, Finding.place, Finding.place, hkept.anchor, hkept.span]

/-- All that the strict lint finds, the loose one finds in the same order: the places are a
subsequence, each finding is kept or loses only its choice, and no call that is found strictly is
passed over loosely, whatever was read before it. -/
theorem strict_findings_kept (source : List Char) (events : List Event) :
    ((findings .strict source events).map Finding.place).Sublist
        ((findings .loose source events).map Finding.place) ∧
      List.SublistForall₂ Finding.KeptAs (findings .strict source events)
        (findings .loose source events) ∧
      ∀ state site strict, judge .strict source state site = .ok strict →
        ∃ loose, judge .loose source state site = .ok loose ∧ strict.KeptAs loose := by
  have hrun := sublistForall₂_findings source events
  refine ⟨?_, hrun, fun state site strict => judge_loose_of_strict⟩
  obtain ⟨kept, hkept, hsub⟩ := List.sublistForall₂_iff.mp hrun
  rw [← map_place_eq_of_forall₂ hkept]
  exact hsub.map _

end MapLint.Lint
