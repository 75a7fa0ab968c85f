import MapLint.Proofs.EditBatch
import MapLint.Proofs.RepairLoop
import MapLint.Proofs.Replacement

/-!
# Repairing a file twice

A repair that stopped before its limit has nothing more to do, so a second repair of what it returned
returns the same, and no finding is left in it. The two runs meet only in the text: the second one
takes the mark off again, and it counts its passes from zero.

## Architecture

- `repair_of_settled` is the fact about the loop, for any parser whose edits do not depend on the
  number of the pass;
- `PlacesCalls` is what the rest relies on in the reader of scripts: calls stand in the text that
  was read, and an argument begins with a token;
- `IsPass.unmarked` and `Passes.unmarked`: no pass makes a mark at the start of a text, so the second
  run takes off the mark that the first one put back, and nothing else;
- `findings_eq_nil_of_not_isPass`: where there is no pass to make, there is no finding;
- `repairSourceWith_fixpoint` joins them, for any such reader.
-/

namespace MapLint.Lint

open MapLint.Script

/-! ## The loop -/

section Loop

variable {α ε : Type} {parse : List Char → Except ε α} {editsFor : Nat → α → List Edit}
  {text : List Char}

/-- Where the edits do not depend on the number of the pass, whether there is a next pass and what
it makes depends on the text alone. -/
theorem IsPass.of_text_eq (hedits : ∀ m n parsed, editsFor m parsed = editsFor n parsed)
    {p q next : Progress} (h : IsPass parse editsFor p next) (htext : q.text = p.text) :
    ∃ next', IsPass parse editsFor q next' ∧ next'.text = next.text := by
  obtain ⟨parsed, hparse, hsome, rfl⟩ := h
  rw [← htext] at hparse hsome
  rw [hedits p.passes q.passes] at hsome
  refine ⟨_, ⟨parsed, hparse, hsome, rfl⟩, ?_⟩
  dsimp only
  rw [htext, hedits q.passes p.passes]

/-- Passes that lead somewhere begin with a first one, whose text parses unless it is the last. -/
theorem Passes.eq_start_or_first {p : Progress} (h : Passes parse editsFor text p) :
    p = ⟨text, 0, 0⟩ ∨ ∃ first, IsPass parse editsFor ⟨text, 0, 0⟩ first ∧
      (first = p ∨ ∃ parsed, parse first.text = .ok parsed) := by
  induction h with
  | start => exact .inl rfl
  | pass _ step ih =>
    rcases ih with rfl | ⟨first, hfirst, rfl | hparses⟩
    · exact .inr ⟨_, step, .inl rfl⟩
    · exact .inr ⟨first, hfirst, .inr step.parses⟩
    · exact .inr ⟨first, hfirst, .inr hparses⟩

/-- A fault is named only short of the limit. -/
theorem Repaired.Settled.passes_lt {r : Repaired ε} (h : r.Settled parse editsFor text)
    (hstop : r.reverted.isSome ∨ r.passes < maxPasses) : r.passes < maxPasses := by
  rcases hstop with hsome | hlt
  · obtain ⟨e, he⟩ := Option.isSome_iff_exists.mp hsome
    exact (h.revoked e he).1
  · exact hlt

/-- A second run makes no pass: its first one would be the next pass of the first run, and what that
one makes does not parse. -/
theorem Repaired.Settled.again_eq_start
    (hedits : ∀ m n parsed, editsFor m parsed = editsFor n parsed) {r again : Repaired ε}
    (h : r.Settled parse editsFor text) (hlt : r.passes < maxPasses)
    (hagain : again.Settled parse editsFor r.text) : again.toProgress = ⟨r.text, 0, 0⟩ := by
  rcases hagain.passes.eq_start_or_first with hstart | ⟨first, hfirst, hlast⟩
  · exact hstart
  · obtain ⟨next, hnext, htext⟩ := hfirst.of_text_eq hedits (q := r.toProgress) rfl
    obtain ⟨e, herror, -⟩ := h.halted hlt next hnext
    have hparses : ∃ parsed, parse first.text = .ok parsed := by
      rcases hlast with rfl | hparses
      · exact hagain.parses
      · exact hparses
    obtain ⟨parsed, hparse⟩ := hparses
    rw [htext, hparse] at herror
    cases herror

/-- A second run that makes no pass names the fault that the first run named, since the pass that they
would both make next is the same. -/
theorem Repaired.Settled.again_reverted_eq
    (hedits : ∀ m n parsed, editsFor m parsed = editsFor n parsed) {r again : Repaired ε}
    (h : r.Settled parse editsFor text) (hlt : r.passes < maxPasses)
    (hagain : again.Settled parse editsFor r.text)
    (hstart : again.toProgress = ⟨r.text, 0, 0⟩) : again.reverted = r.reverted := by
  have hpos : 0 < maxPasses := by decide
  apply Option.ext
  intro e
  rw [hagain.reverted_eq_some_iff, h.reverted_eq_some_iff, hstart]
  constructor
  · rintro ⟨-, next, hnext, herror⟩
    obtain ⟨next', hnext', htext⟩ := hnext.of_text_eq hedits (q := r.toProgress) rfl
    exact ⟨hlt, next', hnext', by rw [htext]; exact herror⟩
  · rintro ⟨-, next, hnext, herror⟩
    obtain ⟨next', hnext', htext⟩ := hnext.of_text_eq hedits (q := ⟨r.text, 0, 0⟩) rfl
    exact ⟨hpos, next', hnext', by rw [htext]; exact herror⟩

/-- A repair that did not stop at its limit is not repaired any further. -/
theorem repair_of_settled (hedits : ∀ m n parsed, editsFor m parsed = editsFor n parsed)
    {r : Repaired ε} (h : r.Settled parse editsFor text) (hlt : r.passes < maxPasses) :
    repair parse editsFor r.text = .ok { text := r.text, reverted := r.reverted } := by
  have hagain := repair_settled parse editsFor r.text
  cases hrepair : repair parse editsFor r.text with
  | error e =>
    rw [hrepair] at hagain
    obtain ⟨parsed, hparse⟩ := h.parses
    rw [hparse] at hagain
    cases hagain
  | ok again =>
    rw [hrepair] at hagain
    have hstart := h.again_eq_start hedits hlt hagain
    have hreverted := h.again_reverted_eq hedits hlt hagain hstart
    obtain ⟨progress, reverted⟩ := again
    dsimp only at hstart hreverted
    rw [hstart, hreverted]

end Loop

/-! ## What is relied on in the reader of scripts -/

/-- The call covers a part of the text, and none of its arguments begins with a mark. -/
structure CallSite.Placed (body : List Char) (site : CallSite) : Prop where
  fits : (sliceChars? body site.span).isSome
  unmarked : ∀ argument ∈ site.arguments, ∀ text ∈ sliceChars? body argument.span, Unmarked text

instance (body : List Char) (site : CallSite) : Decidable (site.Placed body) :=
  decidable_of_iff
    ((sliceChars? body site.span).isSome ∧
      ∀ argument ∈ site.arguments, ∀ text ∈ sliceChars? body argument.span, Unmarked text)
    ⟨fun h => ⟨h.1, h.2⟩, fun h => ⟨h.fits, h.unmarked⟩⟩

/-- An event that is a call is placed in the text. -/
def Event.Placed (body : List Char) : Event → Prop
  | .call site => site.Placed body
  | .receiverAssigned _ => True

instance (body : List Char) (event : Event) : Decidable (event.Placed body) :=
  match event with
  | .call site => inferInstanceAs (Decidable (site.Placed body))
  | .receiverAssigned _ => inferInstanceAs (Decidable True)

/-- The reader finds every expression in the text that it reads, from its first token to its last:
all calls in what is read are placed in the text that it was read from. Nothing is asked of it for a text that
begins with a mark, which it may skip without counting it. -/
def PlacesCalls (read : ScriptReader) : Prop :=
  ∀ dialect body parsed, Unmarked body → read dialect body = .ok parsed →
    ∀ event ∈ programEvents parsed.program, event.Placed body

/-- The edits made by a pass over a text. -/
def madeEdits (strictness : Strictness) (text : List Char) (source : Source) : List Edit :=
  Edit.accept text none (Edit.inOrder ((source.findings strictness).map Finding.edit))

section Reader

variable {read : ScriptReader} {path : Path} {strictness : Strictness}

/-- A replacement does not begin with a mark. -/
theorem PlacesCalls.replacement_eq_cons (hread : PlacesCalls read) {text : List Char}
    (htext : Unmarked text) {source : Source} (hsource : parseSourceWith read path text = .ok source)
    {finding : Finding} (h : finding ∈ source.findings strictness) :
    ∃ d ds, finding.edit.replacement = d :: ds ∧ d ≠ byteOrderMark := by
  obtain ⟨parsed, hparsed, rfl⟩ := htext.parseSourceWith_eq read path hsource
  obtain ⟨site, state, hsite, hjudge⟩ := exists_call_of_mem_findings h
  obtain ⟨d, ds, heq, hown | ⟨argument, hargument, slice, hslice, hhead⟩⟩ :=
    Lint.replacement_eq_cons hjudge
  · refine ⟨d, ds, heq, ?_⟩
    rintro rfl
    exact absurd hown (by decide)
  · refine ⟨d, ds, heq, ?_⟩
    rintro rfl
    exact (hread _ _ _ htext hparsed _ hsite).unmarked argument hargument slice hslice hhead

/-- A pass over an unmarked text leaves it unmarked. -/
theorem IsPass.unmarked (hread : PlacesCalls read) {p next : Progress}
    (h : IsPass (parseSourceWith read path) (repairEdits strictness) p next)
    (htext : Unmarked p.text) : Unmarked next.text := by
  obtain ⟨source, hsource, -, rfl⟩ := h
  refine applyEdits_head?_ne htext fun e he => ?_
  obtain ⟨finding, hfinding, rfl⟩ := List.mem_map.mp he
  exact hread.replacement_eq_cons htext hsource hfinding

/-- No passes make a mark at the start of a text. -/
theorem Passes.unmarked (hread : PlacesCalls read) {text : List Char} {p : Progress}
    (h : Passes (parseSourceWith read path) (repairEdits strictness) text p)
    (htext : Unmarked text) : Unmarked p.text := by
  induction h with
  | start => exact htext
  | pass _ step ih => exact step.unmarked hread ih

/-- Where there is no pass to make, there is no finding: every finding's edit fits the text. -/
theorem findings_eq_nil_of_not_isPass (hread : PlacesCalls read) {p : Progress}
    (htext : Unmarked p.text) {source : Source}
    (hsource : parseSourceWith read path p.text = .ok source)
    (hnone : ∀ next, ¬ IsPass (parseSourceWith read path) (repairEdits strictness) p next) :
    source.findings strictness = [] := by
  have hzero : (applyEdits p.text (repairEdits strictness p.passes source)).applied = 0 :=
    Nat.eq_zero_of_not_pos fun hpos => hnone _ ⟨source, hsource, hpos, rfl⟩
  rw [applyEdits_applied_eq_zero_iff] at hzero
  obtain ⟨parsed, hparsed, rfl⟩ := htext.parseSourceWith_eq read path hsource
  apply List.eq_nil_iff_forall_not_mem.mpr
  intro finding hfinding
  have hunfit := hzero finding.edit (List.mem_map_of_mem hfinding)
  obtain ⟨site, state, hsite, hjudge⟩ := exists_call_of_mem_findings hfinding
  have hspan : finding.edit.span = site.span := by
    obtain ⟨-, -, -, _, _, _, -, -, -, -, rfl⟩ := judge_eq_ok_iff.mp hjudge
    rfl
  have hfits := (hread _ _ _ htext hparsed _ hsite).fits
  rw [Edit.fits, hspan, hfits] at hunfit
  cases hunfit

/-! ## Repairing twice -/

/-- What is repaired is the text without its mark; the mark is put back behind the loop. -/
theorem repairSourceWith_eq_ok_iff {text : List Char} {r : Repaired ParseFailure} :
    repairSourceWith read path strictness text = .ok r ↔
      ∃ inner, repair (parseSourceWith read path) (repairEdits strictness) (stripMark text).1 =
          .ok inner ∧
        r = { inner with text := restoreMark (stripMark text).2 inner.text } := by
  have hunfold : repairSourceWith read path strictness text =
      (repair (parseSourceWith read path) (repairEdits strictness) (stripMark text).1).map
        fun inner => { inner with text := restoreMark (stripMark text).2 inner.text } := rfl
  rw [hunfold]
  cases repair (parseSourceWith read path) (repairEdits strictness) (stripMark text).1 with
  | error e => simp [Except.map]
  | ok inner => simp [Except.map, eq_comm]

/-- What comes out of the loop is what is read again: the mark that is put back is the one that the
second run takes off. -/
theorem stripMark_restoreMark (hread : PlacesCalls read) {text : List Char} {p : Progress}
    (h : Passes (parseSourceWith read path) (repairEdits strictness) (stripMark text).1 p) :
    stripMark (restoreMark (stripMark text).2 p.text) = (p.text, (stripMark text).2) := by
  rcases stripMark_cases text with ⟨hunmarked, hstrip⟩ | ⟨code, rfl, hstrip⟩
  · rw [hstrip] at h ⊢
    exact (h.unmarked hread hunmarked).stripMark_eq
  · rw [hstrip]
    rfl

/-- A file that was repaired short of the limit stays as it is when it is repaired again, with the
same fault if there was one. Where there was none, and the file began with one mark at most, no
finding is left. -/
theorem repairSourceWith_fixpoint (hread : PlacesCalls read) (text : List Char)
    (r : Repaired ParseFailure) (h : repairSourceWith read path strictness text = .ok r) :
    (r.reverted.isSome ∨ r.passes < 10 →
      repairSourceWith read path strictness r.text =
        .ok { text := r.text, applied := 0, passes := 0, reverted := r.reverted }) ∧
    (r.reverted = none → r.passes < 10 → ¬ [byteOrderMark, byteOrderMark] <+: text →
      ∃ source, parseSourceWith read path r.text = .ok source ∧
        source.findings strictness = []) := by
  obtain ⟨inner, hinner, rfl⟩ := repairSourceWith_eq_ok_iff.mp h
  have hsettled := repair_settled (parseSourceWith read path) (repairEdits strictness)
    (stripMark text).1
  rw [hinner] at hsettled
  have hstrip := stripMark_restoreMark hread hsettled.passes
  refine ⟨fun hstop => ?_, fun hnone hlt hmarks => ?_⟩
  · have hagain := repair_of_settled (fun _ _ _ => rfl) hsettled (hsettled.passes_lt hstop)
    refine repairSourceWith_eq_ok_iff.mpr ⟨{ text := inner.text, reverted := inner.reverted }, ?_, ?_⟩
    · dsimp only
      rw [hstrip]
      exact hagain
    · dsimp only
      rw [hstrip]
  · have hunmarked := hsettled.passes.unmarked hread (unmarked_stripMark hmarks)
    obtain ⟨source, hsource⟩ := hsettled.parses
    have hfindings : source.findings strictness = [] :=
      findings_eq_nil_of_not_isPass hread hunmarked hsource (hsettled.not_isPass hnone hlt)
    -- what is read differs from it in `marked` alone, and no finding depends on that
    exact ⟨{ source with marked := (stripMark text).2 },
      parseSourceWith_of_stripMark hstrip hunmarked hsource, hfindings⟩

end Reader

/-- Reads these texts as the parser does, and nothing else. -/
def onlyReading (texts : List (List Char)) : ScriptReader := fun dialect body =>
  if dialect = .plain ∧ body ∈ texts then Script.parseChars dialect body
  else .error .identifierExpected

theorem onlyReading_eq_ok_iff {texts : List (List Char)} {dialect : Dialect} {body : List Char}
    {parsed : Parsed} :
    onlyReading texts dialect body = .ok parsed ↔
      dialect = .plain ∧ body ∈ texts ∧ Script.parseChars .plain body = .ok parsed := by
  unfold onlyReading
  split
  case isTrue h =>
    obtain ⟨rfl, hbody⟩ := h
    simp [hbody]
  case isFalse h =>
    simp only [reduceCtorEq, false_iff]
    rintro ⟨hdialect, hbody, -⟩
    exact h ⟨hdialect, hbody⟩

theorem placesCalls_onlyReading {texts : List (List Char)}
    (h : ∀ text ∈ texts, ∀ parsed ∈ (Script.parseChars .plain text).toOption,
      ∀ event ∈ programEvents parsed.program, event.Placed text) :
    PlacesCalls (onlyReading texts) := by
  intro dialect body parsed _ hread
  obtain ⟨-, hbody, hparsed⟩ := onlyReading_eq_ok_iff.mp hread
  exact h body hbody parsed (by rw [hparsed]; rfl)

/-- A call in the callback of another one, and what two passes make of the two. -/
def nestedCalls : List (List Char) :=
  ["_.map([1], x => _.map([x], y => y));\n".toList,
    "[1].map(x => _.map([x], y => y));\n".toList,
    "[1].map(x => [x].map(y => y));\n".toList]

set_option maxRecDepth 100000 in
/-- The repair of nested calls is finished after its two passes. -/
theorem repairSourceWith_fixpoint_nestedCalls :
    PlacesCalls (onlyReading nestedCalls) ∧
    ∃ r, repairSourceWith (onlyReading nestedCalls) "a.js" .strict
        "_.map([1], x => _.map([x], y => y));\n".toList = .ok r ∧
      r.passes = 2 ∧
      repairSourceWith (onlyReading nestedCalls) "a.js" .strict r.text =
        .ok { text := r.text, applied := 0, passes := 0, reverted := r.reverted } ∧
      ∃ source, parseSourceWith (onlyReading nestedCalls) "a.js" r.text = .ok source ∧
        source.findings .strict = [] := by
  have hplaces : PlacesCalls (onlyReading nestedCalls) := placesCalls_onlyReading (by decide +kernel)
  have hcounts : ((repairSourceWith (onlyReading nestedCalls) "a.js" .strict
      "_.map([1], x => _.map([x], y => y));\n".toList).toOption.map fun r =>
        (r.passes, r.reverted.isNone)) = some (2, true) := by decide +kernel
  refine ⟨hplaces, ?_⟩
  cases hrepair : repairSourceWith (onlyReading nestedCalls) "a.js" .strict
      "_.map([1], x => _.map([x], y => y));\n".toList with
  | error failure =>
    rw [hrepair] at hcounts
    cases hcounts
  | ok r =>
    rw [hrepair] at hcounts
    simp only [Except.toOption, Option.map_some, Option.some.injEq, Prod.mk.injEq,
      Option.isNone_iff_eq_none] at hcounts
    obtain ⟨hpasses, hnone⟩ := hcounts
    have hlt : r.passes < 10 := by omega
    obtain ⟨hagain, hclean⟩ := repairSourceWith_fixpoint hplaces _ r hrepair
    exact ⟨r, rfl, hpasses, hagain (.inr hlt), hclean hnone hlt (by decide)⟩

end MapLint.Lint
