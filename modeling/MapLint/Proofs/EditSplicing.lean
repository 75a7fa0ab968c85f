import MapLint.Proofs.EditBatch
import Mathlib.Data.List.Count

/-!
# A batch of edits against any text

Nothing is asked of the edits of a batch: their spans may be empty, equal, nested, reversed, run past
the end of the text or cut through a character. The sweep over the sorted batch remembers one span
only, that of the last edit accepted. Here is what this is enough for.

## Architecture

- `Edit.assemble?` puts a text together from the slices between edits, and has no answer as soon as
  one of them is no slice; `Edit.make?` makes a single edit, and making them from the last to the
  first is the other way to say what a batch should come to;
- both agree with `Edit.splice` for edits that stand in place (`assemble?_eq_some`,
  `foldrM_make?_eq_some`), and the edits accepted do;
- `exists_leftOut` says of the sweep why each edit that it passes over is left out;
- `applyEdits_splices_accepted` joins them.
-/

namespace MapLint.Edit

/-! ## Putting a text together -/

/-- What stands between the edits from byte `cursor` on, with the replacements in between. Every
stretch has to be a slice of the text: begin before it ends, and begin and end between characters. -/
def assemble? (text : List Char) (cursor : Nat) : List Edit → Option (List Char)
  | [] => sliceChars? text ⟨cursor, byteSize text⟩
  | e :: es => do
    let kept ← sliceChars? text ⟨cursor, e.span.start⟩
    let rest ← assemble? text e.span.stop es
    some (kept ++ e.replacement ++ rest)

/-- Makes one edit, if it fits the text. -/
def make? (e : Edit) (text : List Char) : Option (List Char) :=
  if e.fits text then assemble? text 0 [e] else none

variable {text before covered after : List Char} {cursor : Nat} {e : Edit} {edits : List Edit}

/-- A stretch of text between two offsets is a slice. -/
theorem sliceChars?_between (before covered after : List Char) {s : Span}
    (hstart : byteSize before = s.start) (hstop : s.start + byteSize covered = s.stop) :
    sliceChars? (before ++ covered ++ after) s = some covered :=
  (sliceChars?_eq_some_iff ..).mpr ⟨before, after, rfl, hstart, hstop⟩

/-- An edit of a stretch that is there is made. -/
theorem make?_eq_some (hstart : byteSize before = e.span.start)
    (hstop : e.span.start + byteSize covered = e.span.stop) :
    e.make? (before ++ covered ++ after) = some (before ++ e.replacement ++ after) := by
  have hfits : e.fits (before ++ covered ++ after) = true := by
    rw [fits, sliceChars?_between _ _ _ hstart hstop]
    rfl
  have hfront : sliceChars? (before ++ covered ++ after) ⟨0, e.span.start⟩ = some before := by
    have hslice : sliceChars? ([] ++ before ++ (covered ++ after)) ⟨0, e.span.start⟩ = some before :=
      sliceChars?_between [] before (covered ++ after) rfl (by dsimp only; omega)
    simpa using hslice
  have hback : sliceChars? (before ++ covered ++ after)
      ⟨e.span.stop, byteSize (before ++ covered ++ after)⟩ = some after := by
    have hslice : sliceChars? (before ++ covered ++ after ++ [])
        ⟨e.span.stop, byteSize (before ++ covered ++ after)⟩ = some after := by
      refine sliceChars?_between (before ++ covered) after [] ?_ ?_ <;>
        simp only [byteSize_append] <;> omega
    simpa using hslice
  simp only [make?, if_pos hfits, assemble?, hfront, hback, Option.bind_eq_bind, Option.bind_some]

/-- The slices between edits in place are all there, and they come to what splicing makes. Induction
on the edits; `done` is the part of the text up to the cursor. -/
theorem assemble?_eq_some (done : List Char) (h : InPlace cursor text edits)
    (hdone : byteSize done = cursor) :
    assemble? (done ++ text) cursor edits = some (splice cursor text edits) := by
  induction edits generalizing cursor text done with
  | nil =>
    have hslice : sliceChars? (done ++ text ++ []) ⟨cursor, byteSize (done ++ text)⟩ = some text :=
      sliceChars?_between done text [] hdone (by simp only [byteSize_append]; omega)
    simpa [assemble?, splice] using hslice
  | cons e es ih =>
    obtain ⟨before, covered, after, rfl, hstart, hstop, hrest⟩ := h
    have hkept : sliceChars? (done ++ (before ++ covered ++ after)) ⟨cursor, e.span.start⟩ =
        some before := by
      have hslice : sliceChars? (done ++ before ++ (covered ++ after)) ⟨cursor, e.span.start⟩ =
          some before := sliceChars?_between done before (covered ++ after) hdone hstart
      simpa using hslice
    -- what is left of the text begins behind the edit
    have hbehind : byteSize (done ++ before ++ covered) = e.span.stop := by
      simp only [byteSize_append]
      omega
    have hnext := ih (done ++ before ++ covered) hrest hbehind
    rw [show done ++ before ++ covered ++ after = done ++ (before ++ covered ++ after) by simp] at hnext
    rw [splice_cons hstart hstop]
    simp only [assemble?, hkept, hnext, Option.bind_eq_bind, Option.bind_some]

/-- Edits in place can be made one at a time from the last to the first: each of them still fits the
text when its turn comes, because only what is written behind it has changed. -/
theorem foldrM_make?_eq_some (done : List Char) (h : InPlace cursor text edits)
    (hdone : byteSize done = cursor) :
    edits.foldrM make? (done ++ text) = some (done ++ splice cursor text edits) := by
  induction edits generalizing cursor text done with
  | nil => rfl
  | cons e es ih =>
    obtain ⟨before, covered, after, rfl, hstart, hstop, hrest⟩ := h
    have hbehind : byteSize (done ++ before ++ covered) = e.span.stop := by
      simp only [byteSize_append]
      omega
    have hrest' := ih (done ++ before ++ covered) hrest hbehind
    rw [show done ++ before ++ covered ++ after = done ++ (before ++ covered ++ after) by simp] at hrest'
    have hfront : byteSize (done ++ before) = e.span.start := by
      rw [byteSize_append]
      omega
    rw [List.foldrM_cons, hrest', splice_cons hstart hstop]
    show e.make? (done ++ before ++ covered ++ splice e.span.stop after es) = _
    rw [make?_eq_some hfront hstop]
    simp

/-! ## The edits accepted -/

/-- The sweep keeps the order of the batch. -/
theorem accept_sublist (text : List Char) (last : Option Span) (edits : List Edit) :
    (accept text last edits).Sublist edits := by
  induction edits generalizing last with
  | nil => exact .slnil
  | cons e es ih =>
    unfold accept
    split
    · exact (ih _).cons_cons e
    · exact (ih _).cons e

/-- Edits in place begin at the cursor or behind it. -/
theorem InPlace.cursor_le (h : InPlace cursor text edits) (he : e ∈ edits) :
    cursor ≤ e.span.start := by
  induction edits generalizing cursor text with
  | nil => cases he
  | cons first rest ih =>
    obtain ⟨before, covered, after, -, hstart, hstop, hrest⟩ := h
    rcases List.mem_cons.mp he with rfl | he
    · omega
    · have := ih hrest he
      omega

/-- Of two edits in place the one in front ends before the other begins. -/
theorem InPlace.pairwise (h : InPlace cursor text edits) :
    edits.Pairwise fun a b => a.span.stop ≤ b.span.start := by
  induction edits generalizing cursor text with
  | nil => exact .nil
  | cons first rest ih =>
    obtain ⟨before, covered, after, -, -, -, hrest⟩ := h
    exact List.pairwise_cons.mpr ⟨fun e he => hrest.cursor_le he, ih hrest⟩

/-- Besides the edits accepted there are those left out, and each of them has no slice or overlaps an
edit accepted before it: the last one, or the one from which the sweep started. -/
theorem exists_leftOut (text : List Char) (last : Option Span) (edits : List Edit) :
    ∃ leftOut, edits.Perm (accept text last edits ++ leftOut) ∧
      ∀ e ∈ leftOut, e.fits text = false ∨ (∃ s ∈ last, s.overlaps e.span = true) ∨
        ∃ a ∈ accept text last edits, a.span.overlaps e.span = true := by
  induction edits generalizing last with
  | nil => exact ⟨[], .refl _, by simp⟩
  | cons first rest ih =>
    unfold accept
    split
    case isTrue haccept =>
      obtain ⟨leftOut, hperm, hreason⟩ := ih (some first.span)
      refine ⟨leftOut, hperm.cons first, fun e he => ?_⟩
      rcases hreason e he with hunfit | ⟨s, hs, hoverlap⟩ | ⟨a, ha, hoverlap⟩
      · exact .inl hunfit
      · obtain rfl : first.span = s := by simpa using hs
        exact .inr (.inr ⟨first, List.mem_cons_self, hoverlap⟩)
      · exact .inr (.inr ⟨a, List.mem_cons_of_mem _ ha, hoverlap⟩)
    case isFalse hreject =>
      obtain ⟨leftOut, hperm, hreason⟩ := ih last
      refine ⟨first :: leftOut, (hperm.cons first).trans List.perm_middle.symm, fun e he => ?_⟩
      rcases List.mem_cons.mp he with rfl | he
      · cases hfits : e.fits text with
        | false => exact .inl rfl
        | true =>
          have hany : last.any (·.overlaps e.span) = true := by simpa [hfits] using hreject
          exact .inr (.inl ((Option.any_eq_true ..).mp hany))
      · exact hreason e he

/-- The edits made and the rest of the batch are the batch. -/
theorem accept_append_diff_perm (text : List Char) (edits : List Edit) :
    (accept text none (inOrder edits) ++ edits.diff (accept text none (inOrder edits))).Perm edits := by
  have hsubperm : (accept text none (inOrder edits)).Subperm edits :=
    (accept_sublist ..).subperm.trans (sortBy_perm _ edits).subperm
  exact List.subperm_append_diff_self_of_count_le fun e _ => hsubperm.count_le e

/-- With nothing accepted before, an edit is left out for want of a slice or because it overlaps an
edit that is made. Copies count: of two equal edits one may be made and the other left out. -/
theorem unfit_or_overlaps_of_mem_diff (he : e ∈ edits.diff (accept text none (inOrder edits))) :
    e.fits text = false ∨
      ∃ a ∈ accept text none (inOrder edits), a.span.overlaps e.span = true := by
  obtain ⟨leftOut, hperm, hreason⟩ := exists_leftOut text none (inOrder edits)
  have hrest : (edits.diff (accept text none (inOrder edits))).Perm leftOut := by
    have hboth := (accept_append_diff_perm text edits).trans
      ((sortBy_perm _ edits).symm.trans hperm)
    exact (List.perm_append_left_iff _).mp hboth
  rcases hreason e (hrest.mem_iff.mp he) with hunfit | ⟨s, hs, -⟩ | hoverlap
  · exact .inl hunfit
  · cases hs
  · exact .inr hoverlap

end MapLint.Edit

namespace MapLint

/-- What a batch comes to, whatever its edits are. The edits made are those that the sweep accepts, in
the order of their spans, each of them a slice of the text and each ended before the next begins. The
stretches between them are slices too, and the text that is made is put together from these; it is also
what making the edits one at a time from right to left comes to. Every edit is either made or left
out, and one that is left out has no slice or overlaps an edit that is made. Nothing is made exactly
when nothing has a slice, and then the text stays as it is. -/
theorem applyEdits_splices_accepted (text : List Char) (edits : List Edit) :
    let made := Edit.accept text none (Edit.inOrder edits)
    let result := applyEdits text edits
    (made.Sublist (Edit.inOrder edits) ∧ ∀ e ∈ made, e.fits text = true) ∧
    Edit.assemble? text 0 made = some result.text ∧
    made.Pairwise (fun a b => a.span.stop ≤ b.span.start) ∧
    made.foldrM Edit.make? text = some result.text ∧
    (result.applied = made.length ∧ result.skipped = (edits.diff made).length ∧
      result.applied + result.skipped = edits.length) ∧
    (∀ e ∈ edits.diff made, e.fits text = false ∨ ∃ a ∈ made, a.span.overlaps e.span = true) ∧
    (result.applied = 0 ↔ ∀ e ∈ edits, e.fits text = false) ∧
    (result.applied = 0 → result.text = text) := by
  intro made result
  have hplace : Edit.InPlace 0 text made := Edit.inPlace_accept_inOrder text edits
  have hcount : made.length + (edits.diff made).length = edits.length := by
    rw [← List.length_append]
    exact (Edit.accept_append_diff_perm text edits).length_eq
  have happlied : result.applied = made.length := rfl
  have hskipped : result.skipped = edits.length - made.length := rfl
  refine ⟨⟨Edit.accept_sublist .., fun e he => (Edit.mem_of_mem_accept he).2⟩,
    Edit.assemble?_eq_some [] hplace rfl, hplace.pairwise,
    Edit.foldrM_make?_eq_some [] hplace rfl, ⟨happlied, by omega, by omega⟩,
    fun e he => Edit.unfit_or_overlaps_of_mem_diff he, applyEdits_applied_eq_zero_iff text edits, ?_⟩
  intro hzero
  have hnone : made = [] := List.length_eq_zero_iff.mp hzero
  show Edit.splice 0 text made = text
  rw [hnone]
  rfl

end MapLint
