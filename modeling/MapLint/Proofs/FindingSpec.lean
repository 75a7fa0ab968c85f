import MapLint.Proofs.Replacement
import Mathlib.Data.List.Forall2
import Mathlib.Data.List.TakeWhile

/-!
# What a whole run finds

A run reads the events of a script one by one and carries one bit from each to the next. Here its
outcome is told without the run: which calls are found, and what takes the place of each, is a matter
of the call and of the text alone, and all that the events before a call decide is whether the
reserved receiver was assigned to among them.

## Architecture

- `Covers` is what it means that a span can be read;
- `Replaceable` are the calls that are found, and `FindingOf` is what is found there: `Rewritten` says
  what text takes the place of the call, `NeedsSemicolon` when a semicolon is put in front of it;
- `judge_eq_ok_iff_findingOf` ties both to the judgement on one call;
- `findings_eq_filterMap` takes the state out of the run, and `findings_eq_iff` tells of every list of
  events which findings it has, and that it has no others.
-/

namespace MapLint

/-! ## Reading a span -/

/-- The span covers this text, between what stands before and what stands behind it. -/
def Covers (source : List Char) (span : Span) (text : List Char) : Prop :=
  ∃ before after, source = before ++ text ++ after ∧ byteSize before = span.start ∧
    span.start + byteSize text = span.stop

/-- The span is a range of whole characters of the text. -/
def Readable (source : List Char) (span : Span) : Prop := ∃ text, Covers source span text

theorem sliceChars?_eq_some_iff_covers {source : List Char} {span : Span} {text : List Char} :
    sliceChars? source span = some text ↔ Covers source span text :=
  sliceChars?_eq_some_iff source span text

/-- The last character of a text that is not blank has only blanks behind it. -/
theorem getLast?_trimEnd_eq_some_iff {text : List Char} {c : Char} (hc : isBlank c = false) :
    (trimEnd text).getLast? = some c ↔
      ∃ front blanks, text = front ++ c :: blanks ∧ ∀ b ∈ blanks, isBlank b = true := by
  rw [trimEnd, List.getLast?_reverse, ← List.find?_not_eq_head?_dropWhile,
    List.find?_eq_some_iff_append]
  constructor
  · rintro ⟨-, blanks, front, heq, hblanks⟩
    refine ⟨front.reverse, blanks.reverse, ?_, fun b hb => ?_⟩
    · rw [← List.reverse_reverse text, heq]
      simp
    · simpa using hblanks b (List.mem_reverse.mp hb)
  · rintro ⟨front, blanks, rfl, hblanks⟩
    refine ⟨by simp [hc], blanks.reverse, front.reverse, by simp, fun b hb => ?_⟩
    simpa using hblanks b (List.mem_reverse.mp hb)

end MapLint

namespace MapLint.Lint

/-! ## Which calls are found, and what is found there -/

/-- The calls before the first assignment to the reserved receiver. -/
def openCalls (events : List Event) : List CallSite :=
  (events.takeWhile fun | .call _ => true | .receiverAssigned _ => false).filterMap fun
    | .call site => some site
    | .receiverAssigned _ => none

/-- A call that is found: `_.map` with two plain arguments that carry a replacement, not a condition,
and with every text at hand that the replacement is made of. -/
structure Replaceable (strictness : Strictness) (source : List Char) (site : CallSite) : Prop where
  receiver : site.receiver = "_"
  method : site.method = "map"
  position : site.position ≠ .condition
  arguments : ∃ sequence callback, site.arguments = [sequence, callback] ∧
    (sequence.spread = false ∧ callback.spread = false) ∧
    (classify strictness sequence callback).action ≠ .none ∧
    Readable source sequence.span ∧ Readable source callback.span ∧
    ((classify strictness sequence callback).action = .guarded → Readable source site.span)

/-- A text, in parentheses where they are needed. -/
def parenthesised (needed : Bool) (text : List Char) : List Char :=
  if needed then "(".toList ++ text ++ ")".toList else text

/-- The method call on the first argument, from the texts of both. -/
def nativeCall (sequence : Argument) (first second : List Char) : List Char :=
  parenthesised (!sequence.memberSafe) first ++ ".map(".toList ++ second ++ ")".toList

/-- What takes the place of a call, apart from a semicolon in front, is made of its arguments, and of
the call itself where the replacement leaves a choice, as they are written. -/
inductive Rewritten (source : List Char) (site : CallSite) (sequence callback : Argument) :
    FixAction → List Char → Prop where
  | unconditional {first second : List Char} (hfirst : Covers source sequence.span first)
      (hsecond : Covers source callback.span second) :
      Rewritten source site sequence callback .unconditional (nativeCall sequence first second)
  | guarded {first second call : List Char} (hfirst : Covers source sequence.span first)
      (hsecond : Covers source callback.span second) (hcall : Covers source site.span call) :
      Rewritten source site sequence callback .guarded
        (parenthesised (site.position = .operand) ("Array.isArray(".toList ++ first ++ ") ? ".toList ++
          nativeCall sequence first second ++ " : ".toList ++ call))

/-- A semicolon is put in front of the text: the call opens a statement, the text could be read on from
the statement before, and it is not the case that what stands before the call ends in a semicolon. -/
structure NeedsSemicolon (source : List Char) (site : CallSite) (text : List Char) : Prop where
  opensStatement : site.opensStatement = true
  continues : ∃ c rest, text = c :: rest ∧ c ∈ ['[', '(', '\x60']
  unseparated : ¬ ∃ front blanks, Covers source ⟨0, site.span.start⟩ (front ++ ';' :: blanks) ∧
    ∀ b ∈ blanks, isBlank b = true

/-- What is found at a call. -/
structure FindingOf (strictness : Strictness) (source : List Char) (site : CallSite)
    (finding : Finding) : Prop where
  anchor : finding.anchor = site.methodSpan
  span : finding.edit.span = site.span
  replacement : ∃ sequence callback text, site.arguments = [sequence, callback] ∧
    finding.classification = classify strictness sequence callback ∧
    Rewritten source site sequence callback finding.classification.action text ∧
    (NeedsSemicolon source site text → finding.edit.replacement = ';' :: text) ∧
    (¬ NeedsSemicolon source site text → finding.edit.replacement = text)

/-! ## The replacement of one call -/

variable {strictness : Strictness} {source : List Char} {site : CallSite} {finding : Finding}
  {sequence callback : Argument} {action : FixAction} {text : List Char}

theorem methodCall_eq_nativeCall (sequence : Argument) (first second : List Char) :
    methodCall sequence.memberSafe first second = nativeCall sequence first second := by
  cases hsafe : sequence.memberSafe <;> simp [methodCall, nativeCall, parenthesised, hsafe, targetMethod]

theorem guardedCall_eq_inParens (position : Position) (first direct call : List Char) :
    guardedCall position first direct call = parenthesised (position = .operand)
      ("Array.isArray(".toList ++ first ++ ") ? ".toList ++ direct ++ " : ".toList ++ call) := by
  by_cases h : position = .operand <;> simp [guardedCall, parenthesised, h]

theorem replacementFor_eq_some_iff (haction : action ≠ .none) :
    replacementFor source site sequence callback action = some text ↔
      Rewritten source site sequence callback action text := by
  constructor
  · intro h
    unfold replacementFor at h
    split at h
    case h_2 => cases h
    case h_1 first second hfirst hsecond =>
      rw [sliceChars?_eq_some_iff_covers] at hfirst hsecond
      cases action with
      | none => exact absurd rfl haction
      | unconditional =>
        cases h
        rw [methodCall_eq_nativeCall]
        exact .unconditional hfirst hsecond
      | guarded =>
        dsimp only at h
        split at h
        case h_2 => cases h
        case h_1 call hcall =>
          cases h
          rw [guardedCall_eq_inParens, methodCall_eq_nativeCall]
          exact .guarded hfirst hsecond (sliceChars?_eq_some_iff_covers.mp hcall)
  · rintro (⟨hfirst, hsecond⟩ | ⟨hfirst, hsecond, hcall⟩)
    · rw [← sliceChars?_eq_some_iff_covers] at hfirst hsecond
      simp [replacementFor, hfirst, hsecond, methodCall_eq_nativeCall]
    · rw [← sliceChars?_eq_some_iff_covers] at hfirst hsecond hcall
      simp [replacementFor, hfirst, hsecond, hcall, methodCall_eq_nativeCall,
        guardedCall_eq_inParens]

/-- A call has a replacement as soon as its texts can be read. -/
theorem exists_rewritten_iff (haction : action ≠ .none) :
    (∃ text, Rewritten source site sequence callback action text) ↔
      Readable source sequence.span ∧ Readable source callback.span ∧
        (action = .guarded → Readable source site.span) := by
  constructor
  · rintro ⟨text, ⟨hfirst, hsecond⟩ | ⟨hfirst, hsecond, hcall⟩⟩
    · exact ⟨⟨_, hfirst⟩, ⟨_, hsecond⟩, by simp⟩
    · exact ⟨⟨_, hfirst⟩, ⟨_, hsecond⟩, fun _ => ⟨_, hcall⟩⟩
  · rintro ⟨⟨first, hfirst⟩, ⟨second, hsecond⟩, hcall⟩
    cases action with
    | none => exact absurd rfl haction
    | unconditional => exact ⟨_, .unconditional hfirst hsecond⟩
    | guarded =>
      obtain ⟨call, hcall⟩ := hcall rfl
      exact ⟨_, .guarded hfirst hsecond hcall⟩

theorem followsSemicolon_eq_true_iff {offset : Nat} :
    followsSemicolon source offset = true ↔
      ∃ front blanks, Covers source ⟨0, offset⟩ (front ++ ';' :: blanks) ∧
        ∀ b ∈ blanks, isBlank b = true := by
  have hsemicolon : isBlank ';' = false := by decide
  unfold followsSemicolon
  split
  case h_1 before hbefore =>
    rw [beq_iff_eq, getLast?_trimEnd_eq_some_iff hsemicolon]
    simp only [← sliceChars?_eq_some_iff_covers, hbefore, Option.some.injEq]
  case h_2 hbefore =>
    simp [← sliceChars?_eq_some_iff_covers, hbefore]

theorem continuesStatement_eq_true_iff :
    continuesStatement text = true ↔ ∃ c rest, text = c :: rest ∧ c ∈ ['[', '(', '\x60'] := by
  cases text with
  | nil => simp [continuesStatement]
  | cons c rest => simp [continuesStatement, or_assoc]

theorem needsSemicolon_iff :
    NeedsSemicolon source site text ↔
      (site.opensStatement && continuesStatement text &&
        !followsSemicolon source site.span.start) = true := by
  rw [Bool.and_eq_true, Bool.and_eq_true, Bool.not_eq_true', continuesStatement_eq_true_iff,
    ← Bool.not_eq_true, followsSemicolon_eq_true_iff]
  exact ⟨fun ⟨h₁, h₂, h₃⟩ => ⟨⟨h₁, h₂⟩, h₃⟩, fun ⟨⟨h₁, h₂⟩, h₃⟩ => ⟨h₁, h₂, h₃⟩⟩

theorem eq_separated_iff {replacement : List Char} :
    replacement = separated source site text ↔
      (NeedsSemicolon source site text → replacement = ';' :: text) ∧
        (¬ NeedsSemicolon source site text → replacement = text) := by
  rw [needsSemicolon_iff, separated]
  split
  case isTrue h => simp [h]
  case isFalse h => simp [h]

/-! ## The judgement on one call -/

/-- A call that is judged before any assignment is found if it is replaceable, and what is found there
is the finding of that call. -/
theorem judge_eq_ok_iff_findingOf :
    judge strictness source {} site = .ok finding ↔
      Replaceable strictness source site ∧ FindingOf strictness source site finding := by
  rw [judge_eq_ok_iff]
  constructor
  · rintro ⟨⟨hreceiver, hmethod⟩, -, hposition, sequence, callback, text, hargs, hspread, haction,
      htext, rfl⟩
    rw [replacementFor_eq_some_iff haction] at htext
    refine ⟨⟨hreceiver, hmethod, hposition, sequence, callback, hargs, hspread, haction, ?_⟩,
      rfl, rfl, sequence, callback, text, hargs, rfl, htext, ?_⟩
    · exact (exists_rewritten_iff haction).mp ⟨text, htext⟩
    · exact eq_separated_iff.mp rfl
  · rintro ⟨⟨hreceiver, hmethod, hposition, sequence, callback, hargs, hspread, haction, -⟩,
      hanchor, hspan, sequence', callback', text, hargs', hclass, htext, hsemicolon⟩
    obtain ⟨rfl, rfl⟩ : sequence' = sequence ∧ callback' = callback := by
      simpa [hargs] using hargs'.symm
    refine ⟨⟨hreceiver, hmethod⟩, rfl, hposition, sequence', callback', text, hargs, hspread,
      haction, ?_, ?_⟩
    · rw [replacementFor_eq_some_iff haction, ← hclass]
      exact htext
    · obtain ⟨anchor, classification, span, replacement⟩ := finding
      rw [← eq_separated_iff] at hsemicolon
      dsimp only at hanchor hspan hclass hsemicolon
      rw [hanchor, hspan, hclass, hsemicolon]

/-- Every replaceable call has a finding. -/
theorem Replaceable.exists_judge (h : Replaceable strictness source site) :
    ∃ finding, judge strictness source {} site = .ok finding := by
  obtain ⟨hreceiver, hmethod, hposition, sequence, callback, hargs, hspread, haction, htexts⟩ := h
  obtain ⟨text, htext⟩ := (exists_rewritten_iff haction).mpr htexts
  rw [← replacementFor_eq_some_iff haction] at htext
  exact ⟨_, judge_eq_ok_iff.mpr ⟨⟨hreceiver, hmethod⟩, rfl, hposition, sequence, callback, text,
    hargs, hspread, haction, htext, rfl⟩⟩

theorem isOk_judge_iff :
    (judge strictness source {} site).isOk = true ↔ Replaceable strictness source site := by
  constructor
  · intro h
    cases hjudge : judge strictness source {} site with
    | error skip =>
      rw [hjudge] at h
      cases h
    | ok finding => exact (judge_eq_ok_iff_findingOf.mp hjudge).1
  · intro h
    obtain ⟨finding, hjudge⟩ := h.exists_judge
    rw [hjudge]
    rfl

instance : DecidablePred (Replaceable strictness source) :=
  fun _ => decidable_of_iff _ isOk_judge_iff

/-! ## The whole run -/

/-- Behind an assignment nothing is found. -/
theorem findingsFrom_suppressed (strictness : Strictness) (source : List Char)
    (events : List Event) : findingsFrom strictness source ⟨true⟩ events = [] := by
  induction events with
  | nil => rfl
  | cons event events ih =>
    cases event with
    | receiverAssigned span => exact ih
    | call site =>
      have hskip : ∀ finding, judge strictness source ⟨true⟩ site ≠ .ok finding := by
        intro finding h
        cases (judge_eq_ok_iff.mp h).2.1
      simp only [findingsFrom, step]
      split
      case h_1 finding hjudge => exact absurd hjudge (hskip finding)
      case h_2 => exact ih

/-- Every call before the first assignment is judged by itself, and no other is. -/
theorem findings_eq_filterMap (strictness : Strictness) (source : List Char)
    (events : List Event) :
    findings strictness source events =
      (openCalls events).filterMap fun site => (judge strictness source {} site).toOption := by
  unfold findings
  induction events with
  | nil => rfl
  | cons event events ih =>
    cases event with
    | receiverAssigned span => exact findingsFrom_suppressed strictness source events
    | call site =>
      have hopen : openCalls (.call site :: events) = site :: openCalls events := rfl
      rw [hopen, List.filterMap_cons, findingsFrom, step]
      cases judge strictness source {} site with
      | error skip => exact ih
      | ok finding => exact congrArg (finding :: ·) ih

/-- Selecting and answering in one go is answering what was selected, one by one. -/
theorem filterMap_eq_iff_forall₂ {α β : Type} {f : α → Option β} {P : α → Prop} [DecidablePred P]
    {R : α → β → Prop} (hf : ∀ a b, f a = some b ↔ P a ∧ R a b) (hP : ∀ a, P a → ∃ b, f a = some b)
    {xs : List α} {ys : List β} :
    xs.filterMap f = ys ↔ List.Forall₂ R (xs.filter fun a => P a) ys := by
  induction xs generalizing ys with
  | nil => simp [eq_comm]
  | cons x xs ih =>
    by_cases hx : P x
    · obtain ⟨y, hy⟩ := hP x hx
      have hunique : ∀ z, R x z ↔ y = z := by
        intro z
        rw [← and_iff_right (b := R x z) hx, ← hf, hy, Option.some.injEq]
      cases ys with
      | nil => simp [hx, hy]
      | cons z zs => simp [hx, hy, hunique, ih]
    · have hnone : f x = none := by
        cases hfx : f x with
        | none => rfl
        | some y => exact absurd ((hf x y).mp hfx).1 hx
      simp [hx, hnone, ih]

/-- The findings of a run are those of the replaceable calls before the first assignment, one for
each of them and in their order, and nothing else. -/
theorem findings_eq_iff (strictness : Strictness) (source : List Char) (events : List Event)
    (found : List Finding) :
    findings strictness source events = found ↔
      List.Forall₂ (FindingOf strictness source)
        ((openCalls events).filter fun site => Replaceable strictness source site) found := by
  rw [findings_eq_filterMap]
  refine filterMap_eq_iff_forall₂ (fun site finding => ?_) fun site hsite => ?_
  · rw [← judge_eq_ok_iff_findingOf]
    cases judge strictness source {} site <;> simp [Except.toOption]
  · obtain ⟨finding, hjudge⟩ := hsite.exists_judge
    exact ⟨finding, by rw [hjudge]; rfl⟩

end MapLint.Lint
