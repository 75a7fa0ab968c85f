import MapLint.Lint.Analysis

/-!
# Where a finding comes from and how its replacement begins

A finding is a call that passed every test of `judge`. What the call was, and what text takes its
place, can be read off the finding; the lemmas here do it once.

## Architecture

- `judge_eq_ok_iff` says exactly which calls are findings, and with which edit;
- `exists_call_of_mem_findings`: every finding comes from a call among the events;
- `replacement_eq_cons`: a replacement is never empty, and it begins with one of four fixed
  characters or with the text of the first argument.
-/

namespace MapLint.Lint

variable {strictness : Strictness} {source : List Char} {state : PassState} {site : CallSite}
  {finding : Finding}

/-! ## Calls that are findings -/

/-- A call is a finding exactly when it is the right method on the right variable, is not suppressed
or a condition, has two plain arguments that carry a replacement, and every text needed for it can be
read. -/
theorem judge_eq_ok_iff :
    judge strictness source state site = .ok finding ↔
      (site.receiver = reservedReceiver ∧ site.method = targetMethod) ∧
      state.suppressed = false ∧ site.position ≠ .condition ∧
      ∃ sequence callback replacement, site.arguments = [sequence, callback] ∧
        (sequence.spread = false ∧ callback.spread = false) ∧
        (classify strictness sequence callback).action ≠ .none ∧
        replacementFor source site sequence callback (classify strictness sequence callback).action =
          some replacement ∧
        finding = ⟨site.methodSpan, classify strictness sequence callback,
          ⟨site.span, separated source site replacement⟩⟩ := by
  constructor
  · intro h
    unfold judge at h
    split at h
    case isTrue => cases h
    case isFalse hcandidate =>
      split at h
      case isTrue => cases h
      case isFalse hsuppressed =>
        split at h
        case isTrue => cases h
        case isFalse hposition =>
          split at h
          case h_1 sequence callback hargs =>
            split at h
            case isTrue => cases h
            case isFalse hspread =>
              dsimp only at h
              split at h
              case isTrue => cases h
              case isFalse haction =>
                split at h
                case h_2 => cases h
                case h_1 replacement hreplacement =>
                  cases h
                  refine ⟨by simpa using hcandidate, by simpa using hsuppressed, hposition, ?_⟩
                  exact ⟨sequence, callback, replacement, hargs, by simpa using hspread, haction,
                    hreplacement, rfl⟩
          all_goals cases h
  · rintro ⟨⟨hreceiver, hmethod⟩, hsuppressed, hposition, sequence, callback, replacement, hargs,
      ⟨hspread, hspread'⟩, haction, hreplacement, rfl⟩
    simp [judge, hreceiver, hmethod, hsuppressed, hposition, hargs, hspread, hspread', haction,
      hreplacement]

/-- Every finding comes from one of the calls that were read. -/
theorem exists_call_of_mem_findingsFrom {events : List Event}
    (h : finding ∈ findingsFrom strictness source state events) :
    ∃ site state', Event.call site ∈ events ∧ judge strictness source state' site = .ok finding := by
  induction events generalizing state with
  | nil => cases h
  | cons event events ih =>
    simp only [findingsFrom, List.mem_append] at h
    rcases h with hhere | hlater
    · cases event with
      | receiverAssigned span => simp [step] at hhere
      | call site =>
        refine ⟨site, state, List.mem_cons_self, ?_⟩
        simp only [step] at hhere
        split at hhere
        case h_1 found hjudge =>
          simp only [Option.toList_some, List.mem_singleton] at hhere
          rw [hhere, hjudge]
        case h_2 => cases hhere
    · obtain ⟨site, state', hmem, hjudge⟩ := ih hlater
      exact ⟨site, state', List.mem_cons_of_mem _ hmem, hjudge⟩

/-- Every finding of a file comes from a call in it. -/
theorem exists_call_of_mem_findings {source : Source}
    (h : finding ∈ source.findings strictness) :
    ∃ site state, Event.call site ∈ programEvents source.program ∧
      judge strictness source.code state site = .ok finding :=
  exists_call_of_mem_findingsFrom (List.mem_filter.mp h).1

/-! ## How a replacement begins -/

/-- The method call begins with the sequence, unless that is empty or stands in parentheses. -/
theorem methodCall_eq_cons (memberSafe : Bool) (sequence callback : List Char) :
    ∃ d ds, methodCall memberSafe sequence callback = d :: ds ∧
      (d = '(' ∨ d = '.' ∨ sequence.head? = some d) := by
  unfold methodCall
  cases memberSafe with
  | false => exact ⟨'(', _, rfl, .inl rfl⟩
  | true =>
    cases sequence with
    | nil => exact ⟨'.', _, rfl, .inr (.inl rfl)⟩
    | cons c cs => exact ⟨c, _, rfl, .inr (.inr rfl)⟩

/-- The choice begins with its test or with a parenthesis. -/
theorem guardedCall_eq_cons (position : Position) (sequence direct call : List Char) :
    ∃ d ds, guardedCall position sequence direct call = d :: ds ∧ (d = '(' ∨ d = 'A') := by
  unfold guardedCall
  split
  · exact ⟨'(', _, rfl, .inl rfl⟩
  · exact ⟨'A', _, rfl, .inr rfl⟩

/-- A replacement begins with a character of its own or with the text of the first argument. -/
theorem replacementFor_eq_cons {sequence callback : Argument} {action : FixAction}
    {replacement : List Char}
    (h : replacementFor source site sequence callback action = some replacement) :
    ∃ d ds, replacement = d :: ds ∧ (d = '(' ∨ d = '.' ∨ d = 'A' ∨
      ∃ text, sliceChars? source sequence.span = some text ∧ text.head? = some d) := by
  unfold replacementFor at h
  split at h
  case h_2 => cases h
  case h_1 text callbackText hsequence hcallback =>
    dsimp only at h
    split at h
    case h_1 =>
      split at h
      case h_2 => cases h
      case h_1 call hcall =>
        cases h
        obtain ⟨d, ds, heq, rfl | rfl⟩ := guardedCall_eq_cons site.position text
          (methodCall sequence.memberSafe text callbackText) call
        · exact ⟨_, ds, heq, .inl rfl⟩
        · exact ⟨_, ds, heq, .inr (.inr (.inl rfl))⟩
    case h_2 =>
      cases h
      obtain ⟨d, ds, heq, rfl | rfl | hhead⟩ :=
        methodCall_eq_cons sequence.memberSafe text callbackText
      · exact ⟨_, ds, heq, .inl rfl⟩
      · exact ⟨_, ds, heq, .inr (.inl rfl)⟩
      · exact ⟨d, ds, heq, .inr (.inr (.inr ⟨text, hsequence, hhead⟩))⟩

/-- The text that a finding puts in the place of its call is not empty; unless it begins with a
character of its own, it begins as the text of an argument does. -/
theorem replacement_eq_cons (h : judge strictness source state site = .ok finding) :
    ∃ d ds, finding.edit.replacement = d :: ds ∧ (d ∈ [';', '(', '.', 'A'] ∨
      ∃ argument ∈ site.arguments, ∃ text, sliceChars? source argument.span = some text ∧
        text.head? = some d) := by
  obtain ⟨-, -, -, sequence, callback, replacement, hargs, -, -, hreplacement, rfl⟩ :=
    judge_eq_ok_iff.mp h
  obtain ⟨d, ds, rfl, hd⟩ := replacementFor_eq_cons hreplacement
  dsimp only [separated]
  split
  · exact ⟨';', _, rfl, .inl (by simp)⟩
  · refine ⟨d, ds, rfl, ?_⟩
    rcases hd with rfl | rfl | rfl | ⟨text, htext, hhead⟩
    · exact .inl (by simp)
    · exact .inl (by simp)
    · exact .inl (by simp)
    · exact .inr ⟨sequence, by simp [hargs], text, htext, hhead⟩

end MapLint.Lint
