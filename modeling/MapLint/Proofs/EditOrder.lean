import MapLint.Proofs.EditBatch

/-!
# The order in which edits are handed over

A batch of edits is sorted before anything is done with it, and the sort does not tell edits of the
same span apart. So the outcome cannot depend on how edits of different spans are arranged in the
batch, whether they fit the text or not, and it may depend on the order of two edits of the same span:
two insertions at one place are made in the order in which they come.

## Architecture

- `Edit.Reordered` says of two batches that they differ only in the arrangement of different spans;
- `Edit.inOrder_eq_of_reordered`: such batches are sorted alike, by the stability of the sort;
- `applyEdits_eq_of_reordered` is what this means for the outcome.
-/

namespace MapLint

namespace Edit

/-- The same edits in another order, in which edits of the same span have kept theirs. -/
def Reordered (edits edits' : List Edit) : Prop :=
  edits.Perm edits' ∧
    ∀ e ∈ edits, (edits.filter fun x => x.span = e.span) = edits'.filter fun x => x.span = e.span

instance (edits edits' : List Edit) : Decidable (Reordered edits edits') :=
  inferInstanceAs (Decidable (edits.Perm edits' ∧
    ∀ e ∈ edits, (edits.filter fun x => x.span = e.span) = edits'.filter fun x => x.span = e.span))

/-- The sort of a batch does not tell edits of the same span apart. -/
theorem tied_eq (e x : Edit) :
    tied (fun a b : Edit => (a.span.compare b.span).isLE) e x = decide (x.span = e.span) := by
  rw [Bool.eq_iff_iff, tied, Bool.and_eq_true, decide_eq_true_eq, Span.compare_antisymm_iff]
  exact eq_comm

theorem inOrder_eq_of_reordered {edits edits' : List Edit} (h : Reordered edits edits') :
    inOrder edits = inOrder edits' := by
  obtain ⟨hperm, hspans⟩ := h
  refine sortBy_eq_sortBy (fun a b => a.span.compare_total b.span)
    (fun a b c => Span.compare_trans a.span b.span c.span) hperm fun e he => ?_
  have htied : tied (fun a b : Edit => (a.span.compare b.span).isLE) e =
      fun x => decide (x.span = e.span) := funext (tied_eq e)
  rw [htied]
  exact hspans e he

end Edit

/-- The outcome of a batch, its text and both of its counts, does not depend on the order in which the
edits are handed over, as long as edits of the same span keep theirs. Nothing is asked of the edits:
their spans may be empty, overlap, be reversed or lie outside the text. -/
theorem applyEdits_eq_of_reordered (text : List Char) {edits edits' : List Edit}
    (h : Edit.Reordered edits edits') : applyEdits text edits = applyEdits text edits' := by
  have horder : Edit.inOrder edits = Edit.inOrder edits' := Edit.inOrder_eq_of_reordered h
  have hlength : edits.length = edits'.length := h.1.length_eq
  simp only [applyEdits, horder, hlength]

/-- Two insertions at the same byte, a replacement that starts there, one that overlaps it, a reversed
span and one that runs past the end. -/
def mixedEdits : List Edit :=
  [⟨⟨2, 9⟩, "far".toList⟩, ⟨⟨1, 1⟩, "x".toList⟩, ⟨⟨1, 3⟩, "bc".toList⟩, ⟨⟨1, 1⟩, "y".toList⟩,
    ⟨⟨3, 2⟩, "back".toList⟩, ⟨⟨2, 4⟩, "late".toList⟩]

/-- The same edits from the last span to the first. -/
def mixedEditsBackwards : List Edit :=
  [⟨⟨3, 2⟩, "back".toList⟩, ⟨⟨2, 9⟩, "far".toList⟩, ⟨⟨2, 4⟩, "late".toList⟩,
    ⟨⟨1, 3⟩, "bc".toList⟩, ⟨⟨1, 1⟩, "x".toList⟩, ⟨⟨1, 1⟩, "y".toList⟩]

theorem mixedEdits_backwards :
    Edit.Reordered mixedEdits mixedEditsBackwards ∧
    applyEdits "abcd".toList mixedEdits = applyEdits "abcd".toList mixedEditsBackwards ∧
    applyEdits "abcd".toList mixedEdits = ⟨"axybcd".toList, 3, 3⟩ := by
  have hreordered : Edit.Reordered mixedEdits mixedEditsBackwards := by decide
  exact ⟨hreordered, applyEdits_eq_of_reordered "abcd".toList hreordered, by decide⟩

/-- Edits of the same span are made in the order in which they come. -/
example :
    (applyEdits [] [⟨⟨0, 0⟩, ['x']⟩, ⟨⟨0, 0⟩, ['y']⟩]).text = ['x', 'y'] ∧
      (applyEdits [] [⟨⟨0, 0⟩, ['y']⟩, ⟨⟨0, 0⟩, ['x']⟩]).text = ['y', 'x'] := by decide

end MapLint
