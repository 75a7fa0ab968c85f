import MapLint.Order
import Mathlib.Data.List.Sort

/-!
# Sorted lists

`sortBy` is the insertion sort of the library for an order that is a test, and what it does to the members
of a list and to their order is known from there. What is told here besides is that it is stable, and that
this leaves one answer only.

## Architecture

- `sortBy_eq_insertionSort` is the way to the library, `sortBy_perm` and `sortBy_pairwise` are taken from it;
- `tied` are elements that the order does not tell apart, and `filter_sortBy` says that they stay in their
  order; `sortBy_eq_sortBy` joins the three;
- `mem_dropRepeats` and `nodup_dropRepeats` are for a sorted list without repeats.
-/

namespace MapLint

section Sorted

variable {α : Type} {le : α → α → Bool}

theorem insertBy_eq_orderedInsert (le : α → α → Bool) (a : α) (as : List α) :
    insertBy le a as = as.orderedInsert (fun a b => le a b = true) a := by
  induction as with
  | nil => rfl
  | cons b bs ih => rw [insertBy, ih, List.orderedInsert_cons]

theorem sortBy_eq_insertionSort (le : α → α → Bool) (as : List α) :
    sortBy le as = as.insertionSort fun a b => le a b = true := by
  induction as with
  | nil => rfl
  | cons a as ih => rw [sortBy, ih, insertBy_eq_orderedInsert, List.insertionSort_cons]

/-- Sorting rearranges the list. -/
theorem sortBy_perm (le : α → α → Bool) (as : List α) : (sortBy le as).Perm as := by
  rw [sortBy_eq_insertionSort]
  exact List.perm_insertionSort _ as

/-- A list is sorted by sorting it, if the order is a total one. -/
theorem sortBy_pairwise (total : ∀ a b, le a b = true ∨ le b a = true)
    (trans : ∀ a b c, le a b = true → le b c = true → le a c = true) (as : List α) :
    (sortBy le as).Pairwise fun a b => le a b = true := by
  have htotal : Std.Total fun a b => le a b = true := ⟨total⟩
  have htrans : IsTrans α fun a b => le a b = true := ⟨trans⟩
  rw [sortBy_eq_insertionSort]
  exact List.pairwise_insertionSort _ as

end Sorted

/-! ## Elements that the order does not tell apart -/

/-- Each of the two elements may precede the other. -/
def tied {α : Type} (le : α → α → Bool) (a b : α) : Bool := le a b && le b a

section Stable

variable {α : Type} {le : α → α → Bool} {a c : α} {as bs : List α}

/-- An element is put in front of all those that it is tied with. -/
theorem filter_insertBy_of_tied (trans : ∀ a b c, le a b = true → le b c = true → le a c = true)
    (hac : tied le c a = true) (bs : List α) :
    (insertBy le a bs).filter (tied le c) = a :: bs.filter (tied le c) := by
  induction bs with
  | nil => simp [insertBy, hac]
  | cons b bs ih =>
    unfold insertBy
    split
    case isTrue => rw [List.filter_cons_of_pos hac]
    case isFalse hnot =>
      -- an element that is passed over is not tied with `a`, nor with what `a` is tied with
      have hcb : ¬ tied le c b = true := by
        intro hcb
        simp only [tied, Bool.and_eq_true] at hac hcb
        exact hnot (trans a c b hac.2 hcb.1)
      rw [List.filter_cons_of_neg hcb, List.filter_cons_of_neg hcb, ih]

theorem filter_insertBy_of_neg {p : α → Bool} (ha : ¬ p a = true) (bs : List α) :
    (insertBy le a bs).filter p = bs.filter p := by
  induction bs with
  | nil => simp [insertBy, ha]
  | cons b bs ih =>
    unfold insertBy
    split
    case isTrue => rw [List.filter_cons_of_neg ha]
    case isFalse => rw [List.filter_cons, List.filter_cons, ih]

/-- Sorting is stable: tied elements stand in the order in which they came. -/
theorem filter_sortBy (trans : ∀ a b c, le a b = true → le b c = true → le a c = true) (c : α)
    (as : List α) : (sortBy le as).filter (tied le c) = as.filter (tied le c) := by
  induction as with
  | nil => rfl
  | cons a as ih =>
    show (insertBy le a (sortBy le as)).filter (tied le c) = _
    by_cases hac : tied le c a = true
    · rw [filter_insertBy_of_tied trans hac, List.filter_cons_of_pos hac, ih]
    · rw [filter_insertBy_of_neg hac, List.filter_cons_of_neg hac, ih]

/-- A sorted list is determined by its members and the order of those that are tied. -/
theorem eq_of_pairwise_of_filter_tied (total : ∀ a b, le a b = true ∨ le b a = true)
    (has : as.Pairwise fun a b => le a b = true) (hbs : bs.Pairwise fun a b => le a b = true)
    (hperm : as.Perm bs) (h : ∀ c ∈ as, as.filter (tied le c) = bs.filter (tied le c)) :
    as = bs := by
  induction as generalizing bs with
  | nil => exact hperm.nil_eq
  | cons a as ih =>
    cases bs with
    | nil => exact hperm.eq_nil
    | cons b bs =>
      have hself : ∀ x, le x x = true := fun x => (total x x).elim id id
      obtain ⟨ha, has'⟩ := List.pairwise_cons.mp has
      obtain ⟨hb, hbs'⟩ := List.pairwise_cons.mp hbs
      -- each of the two heads precedes the other, and so they are the first of the same ties
      have hab : le a b = true := by
        rcases List.mem_cons.mp (hperm.mem_iff.mpr List.mem_cons_self) with heq | hmem
        · exact heq ▸ hself b
        · exact ha b hmem
      have hba : le b a = true := by
        rcases List.mem_cons.mp (hperm.mem_iff.mp List.mem_cons_self) with heq | hmem
        · exact heq ▸ hself a
        · exact hb a hmem
      have hties := h a List.mem_cons_self
      rw [List.filter_cons_of_pos (by simp [tied, hself]),
        List.filter_cons_of_pos (by simp [tied, hab, hba])] at hties
      obtain ⟨rfl, -⟩ := List.cons.inj hties
      refine congrArg (a :: ·) (ih has' hbs' hperm.cons_inv fun c hc => ?_)
      have hrest := h c (List.mem_cons_of_mem a hc)
      by_cases hca : tied le c a = true
      · rw [List.filter_cons_of_pos hca, List.filter_cons_of_pos hca] at hrest
        exact (List.cons.inj hrest).2
      · rwa [List.filter_cons_of_neg hca, List.filter_cons_of_neg hca] at hrest

/-- Lists with the same members, those that are tied in the same order, are sorted alike. -/
theorem sortBy_eq_sortBy (total : ∀ a b, le a b = true ∨ le b a = true)
    (trans : ∀ a b c, le a b = true → le b c = true → le a c = true) (hperm : as.Perm bs)
    (h : ∀ c ∈ as, as.filter (tied le c) = bs.filter (tied le c)) :
    sortBy le as = sortBy le bs := by
  have hsorted : (sortBy le as).Perm (sortBy le bs) :=
    (sortBy_perm le as).trans (hperm.trans (sortBy_perm le bs).symm)
  refine eq_of_pairwise_of_filter_tied total (sortBy_pairwise total trans as)
    (sortBy_pairwise total trans bs) hsorted fun c hc => ?_
  rw [filter_sortBy trans, filter_sortBy trans]
  exact h c ((sortBy_perm le as).mem_iff.mp hc)

end Stable

/-! ## Repeats -/

section Repeats

variable {α : Type} [DecidableEq α] {le : α → α → Bool}

theorem mem_dropRepeats {a : α} {as : List α} : a ∈ dropRepeats as ↔ a ∈ as := by
  fun_induction dropRepeats as with
  | case1 => exact Iff.rfl
  | case2 b => exact Iff.rfl
  | case3 b rest ih =>
    rw [ih]
    exact ⟨List.mem_cons_of_mem b, fun h => (List.mem_cons.mp h).elim (· ▸ List.mem_cons_self) id⟩
  | case4 b c rest hne ih => rw [List.mem_cons, ih, ← List.mem_cons]

theorem dropRepeats_sublist (as : List α) : (dropRepeats as).Sublist as := by
  fun_induction dropRepeats as with
  | case1 => exact .slnil
  | case2 b => exact .refl _
  | case3 b rest ih => exact ih.cons b
  | case4 b c rest hne ih => exact ih.cons_cons b

/-- In a sorted list equal elements stand next to each other, so that none is left twice. -/
theorem nodup_dropRepeats (antisymm : ∀ a b, le a b = true → le b a = true → a = b) {as : List α}
    (h : as.Pairwise fun a b => le a b = true) : (dropRepeats as).Nodup := by
  fun_induction dropRepeats as with
  | case1 => exact List.nodup_nil
  | case2 b => exact List.nodup_cons.mpr ⟨List.not_mem_nil, List.nodup_nil⟩
  | case3 b rest ih => exact ih (List.pairwise_cons.mp h).2
  | case4 b c rest hne ih =>
    obtain ⟨hb, hrest⟩ := List.pairwise_cons.mp h
    refine List.nodup_cons.mpr ⟨fun hmem => ?_, ih hrest⟩
    rcases List.mem_cons.mp (mem_dropRepeats.mp hmem) with heq | hmem
    · exact hne heq
    · have hcb := (List.pairwise_cons.mp hrest).1 b hmem
      exact hne (antisymm b c (hb c List.mem_cons_self) hcb)

end Repeats

end MapLint
