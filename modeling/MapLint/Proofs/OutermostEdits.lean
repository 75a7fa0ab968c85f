import MapLint.Proofs.EditBatch

/-!
# One pass makes the outermost edits

The edits of the findings of a script cover calls, and calls stand apart or inside one another, where
an inner call begins behind the name that the outer one begins with. The sweep over such a batch only
looks at the last edit accepted. That is enough: an edit that lies in any other lies in that one.

## Architecture

- `Span.Nests` is what is asked of two spans of the batch, `Edit.Outermost` what makes an edit one to
  be made;
- `Edit.accept_eq_filter_of_last` is the sweep behind an edit accepted, `Edit.accept_eq_filter` the
  whole of it, both over a batch that is sorted;
- `outermost_edits_made` is the same for a batch in any order.
-/

namespace MapLint

namespace Span

/-- All that the inner span covers is covered by the outer one. -/
def Within (inner outer : Span) : Prop := outer.start ≤ inner.start ∧ inner.stop ≤ outer.stop

instance (inner outer : Span) : Decidable (inner.Within outer) :=
  inferInstanceAs (Decidable (outer.start ≤ inner.start ∧ inner.stop ≤ outer.stop))

/-- The spans stand apart, or one lies in the other and begins behind its start. -/
def Nests (a b : Span) : Prop :=
  (a.stop ≤ b.start ∨ b.stop ≤ a.start) ∨
    (a.start < b.start ∧ b.Within a) ∨ (b.start < a.start ∧ a.Within b)

instance (a b : Span) : Decidable (a.Nests b) :=
  inferInstanceAs (Decidable ((a.stop ≤ b.start ∨ b.stop ≤ a.start) ∨
    (a.start < b.start ∧ b.Within a) ∨ (b.start < a.start ∧ a.Within b)))

theorem Nests.symm {a b : Span} (h : a.Nests b) : b.Nests a := by
  rcases h with happart | hinner | houter
  · exact .inl happart.symm
  · exact .inr (.inr hinner)
  · exact .inr (.inl houter)

/-- A span that comes behind one that it nests with begins behind its end or lies in it. -/
theorem Nests.behind {a b : Span} (h : a.Nests b) (hb : b.start < b.stop)
    (hle : (a.compare b).isLE = true) : a.stop ≤ b.start ∨ a.start < b.start ∧ b.Within a := by
  rw [compare_isLE_iff] at hle
  simp only [Nests, Within] at h ⊢
  omega

end Span

namespace Edit

/-- No other edit of the batch covers all that this one does. -/
def Outermost (edits : List Edit) (e : Edit) : Prop :=
  ∀ other ∈ edits, other ≠ e → ¬ e.span.Within other.span

instance (edits : List Edit) (e : Edit) : Decidable (e.Outermost edits) :=
  inferInstanceAs (Decidable (∀ other ∈ edits, other ≠ e → ¬ e.span.Within other.span))

/-- A batch as the sweep needs it: every edit covers something that is there, the edits are sorted, and
any two of them stand apart or one inside the other. -/
structure Nested (text : List Char) (edits : List Edit) : Prop where
  fits : ∀ e ∈ edits, e.fits text = true
  covers : ∀ e ∈ edits, e.span.start < e.span.stop
  sorted : edits.Pairwise fun a b => (a.span.compare b.span).isLE = true
  nests : edits.Pairwise fun a b => a.span.Nests b.span

variable {text : List Char} {e : Edit} {es edits : List Edit}

theorem Nested.tail (h : Nested text (e :: es)) : Nested text es where
  fits := fun x hx => h.fits x (List.mem_cons_of_mem _ hx)
  covers := fun x hx => h.covers x (List.mem_cons_of_mem _ hx)
  sorted := h.sorted.of_cons
  nests := h.nests.of_cons

/-- Every edit behind the first one begins behind its end or lies in it. -/
theorem Nested.behind (h : Nested text (e :: es)) {x : Edit} (hx : x ∈ es) :
    e.span.stop ≤ x.span.start ∨ e.span.start < x.span.start ∧ x.span.Within e.span :=
  (List.rel_of_pairwise_cons h.nests hx).behind (h.covers x (List.mem_cons_of_mem _ hx))
    (List.rel_of_pairwise_cons h.sorted hx)

/-- No edit behind the first one covers it. -/
theorem Nested.not_within (h : Nested text (e :: es)) {x : Edit} (hx : x ∈ es) :
    ¬ e.span.Within x.span := by
  have hcovers := h.covers e List.mem_cons_self
  rcases h.behind hx with happart | ⟨hstart, -⟩
  · rintro ⟨hle, -⟩
    omega
  · rintro ⟨hle, -⟩
    omega

/-- The sweep behind an edit accepted with the span `s`: of the edits that begin behind the end of it
those are made that lie in no other. Induction on the batch. An edit inside `s` is passed over, and no
edit that counts lies in it; an edit behind `s` is made, and takes its place. -/
theorem accept_eq_filter_of_last {s : Span} (h : Nested text es)
    (hbehind : ∀ x ∈ es, s.stop ≤ x.span.start ∨ s.start < x.span.start ∧ x.span.Within s) :
    accept text (some s) es = es.filter fun e => s.stop ≤ e.span.start ∧ e.Outermost es := by
  induction es generalizing s with
  | nil => rfl
  | cons e es ih =>
    have hfits := h.fits e List.mem_cons_self
    have hcovers := h.covers e List.mem_cons_self
    rcases hbehind e List.mem_cons_self with hafter | ⟨hstart, hwithin⟩
    · -- the edit is made, since nothing behind it can cover it
      have hclear : s.overlaps e.span = false := by
        simp only [Span.overlaps, Bool.and_eq_false_iff, decide_eq_false_iff_not]
        omega
      have hhead : s.stop ≤ e.span.start ∧ e.Outermost (e :: es) := by
        refine ⟨hafter, fun other hother hne => ?_⟩
        rcases List.mem_cons.mp hother with rfl | hother
        · exact absurd rfl hne
        · exact h.not_within hother
      rw [List.filter_cons_of_pos (by simpa using hhead)]
      simp only [accept, hfits, Option.any_some, hclear, Bool.not_false, Bool.and_self, if_true]
      rw [ih h.tail fun x hx => h.behind hx]
      refine congrArg (e :: ·) (List.filter_congr fun x hx => ?_)
      have hcoversX := h.covers x (List.mem_cons_of_mem _ hx)
      have hcase := h.behind hx
      have hapart : e.span.stop ≤ x.span.start ↔ s.stop ≤ x.span.start ∧ ¬ x.span.Within e.span := by
        simp only [Span.Within] at hcase ⊢
        omega
      have hne : e ≠ x := by
        rintro rfl
        exact h.not_within hx ⟨Nat.le_refl _, Nat.le_refl _⟩
      simp only [Outermost, List.forall_mem_cons, hapart, ne_eq, hne, not_false_eq_true, forall_const,
        and_assoc]
    · -- the edit lies in the last one
      have hinside : s.overlaps e.span = true := by
        obtain ⟨-, hstop⟩ := hwithin
        simp only [Span.overlaps, Bool.and_eq_true, decide_eq_true_eq]
        omega
      have hhead : ¬ (s.stop ≤ e.span.start ∧ e.Outermost (e :: es)) := by
        rintro ⟨hafter, -⟩
        have := hwithin.2
        omega
      rw [List.filter_cons_of_neg (by simpa using hhead)]
      simp only [accept, Option.any_some, hinside, Bool.not_true, Bool.and_false, Bool.false_eq_true,
        if_false]
      rw [ih h.tail fun x hx => hbehind x (List.mem_cons_of_mem _ hx)]
      refine List.filter_congr fun x hx => ?_
      have hcoversX := h.covers x (List.mem_cons_of_mem _ hx)
      have hfree : s.stop ≤ x.span.start → ¬ x.span.Within e.span := by
        rintro hafter ⟨-, hstop⟩
        have := hwithin.2
        omega
      rw [decide_eq_decide, Outermost, Outermost, List.forall_mem_cons]
      exact ⟨fun hx => ⟨hx.1, fun _ => hfree hx.1, hx.2⟩, fun hx => ⟨hx.1, hx.2.2⟩⟩

/-- The first edit is made in any case, and from there on the sweep is the one behind it. -/
theorem accept_eq_filter (h : Nested text es) :
    accept text none es = es.filter fun e => e.Outermost es := by
  cases es with
  | nil => rfl
  | cons e es =>
    have hfits := h.fits e List.mem_cons_self
    -- it is as if an empty edit had been made at the start of the text
    have hstart : accept text none (e :: es) = accept text (some ⟨0, 0⟩) (e :: es) := by
      simp [accept, Span.overlaps, hfits]
    rw [hstart, accept_eq_filter_of_last h fun x _ => .inl (Nat.zero_le _)]
    simp

end Edit

/-- Of a batch whose edits cover slices of the text, any two of which stand apart or one inside the
other behind its start, those are made that lie in no other, and no more: in whatever order the batch
comes, they are made in the order of the text. -/
theorem outermost_edits_made {text : List Char} {edits : List Edit}
    (hfits : ∀ e ∈ edits, e.fits text = true ∧ e.span.isEmpty = false)
    (hnests : edits.Pairwise fun a b => a.span.Nests b.span) :
    Edit.accept text none (Edit.inOrder edits) =
        (Edit.inOrder edits).filter (fun e => e.Outermost edits) ∧
      (∀ e, e ∈ Edit.accept text none (Edit.inOrder edits) ↔ e ∈ edits ∧ e.Outermost edits) ∧
      (applyEdits text edits).applied = edits.countP (fun e => e.Outermost edits) := by
  have hperm : (Edit.inOrder edits).Perm edits := sortBy_perm _ edits
  have hnested : Edit.Nested text (Edit.inOrder edits) := by
    refine ⟨fun e he => (hfits e (hperm.mem_iff.mp he)).1, fun e he => ?_, Edit.inOrder_pairwise edits,
      hperm.symm.pairwise hnests fun h => h.symm⟩
    have hsize := (hfits e (hperm.mem_iff.mp he)).2
    simp only [Span.isEmpty, Span.length, beq_eq_false_iff_ne] at hsize
    omega
  have hsame : ∀ e : Edit, e.Outermost (Edit.inOrder edits) ↔ e.Outermost edits := by
    intro e
    simp only [Edit.Outermost, Edit.mem_inOrder]
  have hmade : Edit.accept text none (Edit.inOrder edits) =
      (Edit.inOrder edits).filter fun e => e.Outermost edits := by
    rw [Edit.accept_eq_filter hnested]
    exact List.filter_congr fun e _ => by simp only [hsame]
  refine ⟨hmade, fun e => ?_, ?_⟩
  · rw [hmade, List.mem_filter, Edit.mem_inOrder, decide_eq_true_eq]
  · show (Edit.accept text none (Edit.inOrder edits)).length = _
    rw [hmade, ← List.countP_eq_length_filter]
    exact hperm.countP_eq _

/-- A call in an argument of another one, and a third call behind both. -/
def callInCall : List Char := "_.map(a, _.map(b, f)); _.map(c, f);".toList

/-- The edits of the three calls, the inner one first and the outer one last. -/
def callInCallEdits : List Edit :=
  [⟨⟨9, 20⟩, "b.map(f)".toList⟩, ⟨⟨23, 34⟩, "c.map(f)".toList⟩,
    ⟨⟨0, 21⟩, "a.map(_.map(b, f))".toList⟩]

set_option maxRecDepth 100000 in
theorem outermost_edits_made_callInCall :
    (∀ e ∈ callInCallEdits, e.fits callInCall = true ∧ e.span.isEmpty = false) ∧
    callInCallEdits.Pairwise (fun a b => a.span.Nests b.span) ∧
    Edit.accept callInCall none (Edit.inOrder callInCallEdits) =
      [⟨⟨0, 21⟩, "a.map(_.map(b, f))".toList⟩, ⟨⟨23, 34⟩, "c.map(f)".toList⟩] ∧
    (applyEdits callInCall callInCallEdits).applied = 2 := by
  have hfits : ∀ e ∈ callInCallEdits, e.fits callInCall = true ∧ e.span.isEmpty = false := by
    decide +kernel
  have hnests : callInCallEdits.Pairwise fun a b => a.span.Nests b.span := by decide
  obtain ⟨hmade, -, happlied⟩ := outermost_edits_made hfits hnests
  exact ⟨hfits, hnests, hmade.trans (by decide +kernel), happlied.trans (by decide +kernel)⟩

end MapLint
