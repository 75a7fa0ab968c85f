import MapLint.Text.Edit
import MapLint.Proofs.Sorting

/-!
# What a batch of edits does to a text

A batch is sorted, thinned out and spliced into the text. These lemmas say what is left of it after
the first two steps and what can be told of the text after the third, so that nobody who makes a
batch has to look inside.

## Architecture

- `Edit.mem_inOrder` and `Edit.mem_of_mem_accept`: every edit that is made comes from the batch and
  fits the text;
- `applyEdits_applied_eq_zero_iff`: nothing is made exactly when nothing fits;
- `Edit.InPlace` says of edits that they stand in a text one behind the other, as those that are
  made do (`Edit.inPlace_accept_inOrder`); splicing such edits is then read off the text;
- `applyEdits_head?_ne`: how a text begins after a batch.
-/

namespace MapLint

namespace Edit

variable {text : List Char} {last : Option Span} {edits : List Edit}

/-! ## The edits that are made -/

/-- Sorting keeps the edits. -/
@[simp]
theorem mem_inOrder {e : Edit} : e ∈ inOrder edits ↔ e ∈ edits :=
  (sortBy_perm _ edits).mem_iff

/-- An edit that is made belongs to the batch and fits. -/
theorem mem_of_mem_accept {e : Edit} (h : e ∈ accept text last edits) :
    e ∈ edits ∧ e.fits text = true := by
  induction edits generalizing last with
  | nil => cases h
  | cons first rest ih =>
    unfold accept at h
    split at h
    case isTrue hfits =>
      simp only [Bool.and_eq_true] at hfits
      rcases List.mem_cons.mp h with rfl | hrest
      · exact ⟨List.mem_cons_self, hfits.1⟩
      · exact ⟨List.mem_cons_of_mem _ (ih hrest).1, (ih hrest).2⟩
    case isFalse => exact ⟨List.mem_cons_of_mem _ (ih h).1, (ih h).2⟩

/-- The first edit that fits is made, since there is none before it to overlap. -/
theorem accept_none_eq_nil_iff : accept text none edits = [] ↔ ∀ e ∈ edits, e.fits text = false := by
  induction edits with
  | nil => simp [accept]
  | cons first rest ih =>
    cases hfits : first.fits text with
    | true => simp [accept, hfits]
    | false => simp [accept, hfits, ih]

end Edit

/-- A batch changes nothing exactly when none of its edits fits the text. -/
theorem applyEdits_applied_eq_zero_iff (text : List Char) (edits : List Edit) :
    (applyEdits text edits).applied = 0 ↔ ∀ e ∈ edits, e.fits text = false := by
  simp only [applyEdits, List.length_eq_zero_iff, Edit.accept_none_eq_nil_iff, Edit.mem_inOrder]

/-! ## Edits in place -/

namespace Edit

/-- The edits stand one behind the other in the text that begins at byte `cursor`. -/
def InPlace (cursor : Nat) (text : List Char) : List Edit → Prop
  | [] => True
  | e :: es => ∃ before covered after, text = before ++ covered ++ after ∧
      cursor + byteSize before = e.span.start ∧ e.span.start + byteSize covered = e.span.stop ∧
      InPlace e.span.stop after es

/-- The order of a batch. -/
theorem inOrder_pairwise (edits : List Edit) :
    (inOrder edits).Pairwise fun a b => (a.span.compare b.span).isLE = true :=
  sortBy_pairwise (fun a b => a.span.compare_total b.span)
    (fun a b c => Span.compare_trans a.span b.span c.span) edits

/-- A later span that does not overlap begins where the earlier one has ended. A span that is empty
overlaps nothing, but then it would have come first. -/
theorem stop_le_start_of_not_overlaps {a b : Span} (hb : b.start ≤ b.stop)
    (hle : (a.compare b).isLE = true) (hnot : a.overlaps b = false) : a.stop ≤ b.start := by
  rw [Span.compare_isLE_iff] at hle
  simp only [Span.overlaps, Bool.and_eq_false_iff, decide_eq_false_iff_not] at hnot
  omega

/-- The edits that are made stand in place. Induction on the batch; `done` is the part of the text
up to the end of the last edit accepted, and what is left of the batch comes behind it. -/
theorem accept_inPlace {edits : List Edit}
    (hsorted : edits.Pairwise fun a b => (a.span.compare b.span).isLE = true)
    {done rest : List Char} {last : Option Span}
    (hlast : last = none ∧ done = [] ∨
      ∃ s, last = some s ∧ s.stop = byteSize done ∧
        ∀ e ∈ edits, (s.compare e.span).isLE = true) :
    InPlace (byteSize done) rest (accept (done ++ rest) last edits) := by
  induction edits generalizing done rest last with
  | nil => exact trivial
  | cons e es ih =>
    obtain ⟨he, hes⟩ := List.pairwise_cons.mp hsorted
    unfold accept
    split
    case isFalse =>
      refine ih hes ?_
      rcases hlast with hnone | ⟨s, hs, hstop, hbehind⟩
      · exact .inl hnone
      · exact .inr ⟨s, hs, hstop, fun e' he' => hbehind e' (List.mem_cons_of_mem _ he')⟩
    case isTrue haccept =>
      simp only [Bool.and_eq_true, Bool.not_eq_true'] at haccept
      obtain ⟨covered, hcovered⟩ := Option.isSome_iff_exists.mp haccept.1
      obtain ⟨front, after, htext, hfront, hcover⟩ := (sliceChars?_eq_some_iff ..).mp hcovered
      have hbehind : byteSize done ≤ byteSize front := by
        rcases hlast with ⟨-, rfl⟩ | ⟨s, rfl, hstop, hbehind⟩
        · exact Nat.zero_le _
        · have hnot : s.overlaps e.span = false := by simpa using haccept.2
          have hend := stop_le_start_of_not_overlaps (by omega) (hbehind e List.mem_cons_self) hnot
          omega
      rw [List.append_assoc] at htext
      obtain ⟨before, rfl, rfl⟩ := eq_append_of_byteSize_le htext hbehind
      rw [byteSize_append] at hfront
      refine ⟨before, covered, after, by simp, hfront, hcover, ?_⟩
      have hdone : byteSize (done ++ before ++ covered) = e.span.stop := by
        simp only [byteSize_append]
        omega
      have hrest : InPlace (byteSize (done ++ before ++ covered)) after
          (accept (done ++ before ++ covered ++ after) (some e.span) es) :=
        ih hes (.inr ⟨e.span, rfl, hdone.symm, he⟩)
      rw [hdone] at hrest
      simpa using hrest

/-- The edits of a batch that are made stand in place. -/
theorem inPlace_accept_inOrder (text : List Char) (edits : List Edit) :
    InPlace 0 text (accept text none (inOrder edits)) :=
  accept_inPlace (inOrder_pairwise edits) (.inl ⟨rfl, rfl⟩)

end Edit

/-! ## The text that is made -/

/-- An edit in place is made: what it covers is replaced, and the others are made behind it. -/
theorem Edit.splice_cons {cursor : Nat} {before covered after : List Char} {e : Edit}
    (hstart : cursor + byteSize before = e.span.start)
    (hstop : e.span.start + byteSize covered = e.span.stop) (es : List Edit) :
    splice cursor (before ++ covered ++ after) (e :: es) =
      before ++ e.replacement ++ splice e.span.stop after es := by
  have hcut : splitAtByte? (before ++ covered ++ after) (e.span.start - cursor) =
      some (before, covered ++ after) :=
    (splitAtByte?_eq_some_iff ..).mpr ⟨by simp, by omega⟩
  have hcut' : splitAtByte? (covered ++ after) (e.span.stop - e.span.start) =
      some (covered, after) :=
    (splitAtByte?_eq_some_iff ..).mpr ⟨rfl, by omega⟩
  simp only [splice, hcut, hcut']

/-- The first character comes from the text or from the first replacement. -/
theorem Edit.head?_splice_ne {c : Char} {text : List Char} (edits : List Edit)
    (htext : text.head? ≠ some c)
    (hedits : ∀ e ∈ edits, ∃ d ds, e.replacement = d :: ds ∧ d ≠ c) :
    (splice 0 text edits).head? ≠ some c := by
  cases edits with
  | nil => exact htext
  | cons first rest =>
    unfold splice
    split
    case h_2 => exact htext
    case h_1 before behind hcut =>
      split
      case h_2 => exact htext
      case h_1 covered after hcut' =>
        obtain ⟨rfl, -⟩ := (splitAtByte?_eq_some_iff ..).mp hcut
        obtain ⟨d, ds, hreplacement, hne⟩ := hedits first List.mem_cons_self
        cases before with
        | nil => simp [hreplacement, hne]
        | cons b bs => simpa using htext

/-- A batch puts `c` at the start of a text only if one of its replacements is empty or begins
so. -/
theorem applyEdits_head?_ne {c : Char} {text : List Char} {edits : List Edit}
    (htext : text.head? ≠ some c)
    (hedits : ∀ e ∈ edits, ∃ d ds, e.replacement = d :: ds ∧ d ≠ c) :
    (applyEdits text edits).text.head? ≠ some c := by
  refine Edit.head?_splice_ne _ htext fun e he => hedits e ?_
  exact Edit.mem_inOrder.mp (Edit.mem_of_mem_accept he).1

end MapLint
