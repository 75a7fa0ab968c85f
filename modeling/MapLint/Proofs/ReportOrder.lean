import Mathlib.Data.List.Nodup
import Mathlib.Data.Prod.Lex
import Mathlib.Data.String.Basic
import MapLint.Proofs.SurveyedFiles
import MapLint.Proofs.Sorting

/-!
# The order of a report

A report is sorted, and two entries are told apart only by what they are sorted by: path, line, column, rule
and message. Entries that differ in this have one place in a report each, so it does not matter in which order
they were found. What is computed from all entries together, the width of the margin and the numbers in the
last line, does not depend on an order at all.

## Architecture

- `Entry.key` is what an entry is sorted by, and `Entry.compare_eq` says that entries compare as their keys do,
  lexicographically; all that is needed of the order follows from that of the keys;
- `Entry.inOrder_eq_of_perm` sorts two lists with the same entries alike, `marginOf_eq_of_perm` measures them
  alike;
- `report_independent_of_order` joins these.
-/

namespace MapLint.Report

open MapLint.Lint (Issue)
open MapLint.Command (summaryLine renderSummary_eq)

/-! ## What entries are sorted by -/

namespace Entry

variable {a b c : Entry} {entries other : List Entry}

/-- Path, line, column, rule and message, where a place counts if those before it are equal. -/
def key (e : Entry) : Path ×ₗ Nat ×ₗ Nat ×ₗ Nat ×ₗ String :=
  toLex (e.path, toLex (e.position.1, toLex (e.position.2, toLex (e.rule.rank, e.message))))

theorem compare_eq (a b : Entry) : a.compare b = Ord.compare a.key b.key := rfl

theorem compare_eq_eq_iff : a.compare b = .eq ↔ a.key = b.key := by
  rw [compare_eq, compare_eq_iff_eq]

theorem compare_eq_lt_iff : a.compare b = .lt ↔ a.key < b.key := by
  rw [compare_eq, compare_lt_iff_lt]

theorem isLE_compare_iff : (a.compare b).isLE = true ↔ a.key ≤ b.key := by
  rw [Ordering.isLE_iff_eq_lt_or_eq_eq, compare_eq_lt_iff, compare_eq_eq_iff, le_iff_lt_or_eq]

theorem isLE_compare_total (a b : Entry) : (a.compare b).isLE = true ∨ (b.compare a).isLE = true := by
  rw [isLE_compare_iff, isLE_compare_iff]
  exact le_total a.key b.key

theorem isLE_compare_trans (a b c : Entry) (hab : (a.compare b).isLE = true)
    (hbc : (b.compare c).isLE = true) : (a.compare c).isLE = true := by
  rw [isLE_compare_iff] at hab hbc ⊢
  exact hab.trans hbc

/-! ## Sorted entries -/

theorem inOrder_perm (entries : List Entry) : (inOrder entries).Perm entries := sortBy_perm _ _

theorem inOrder_pairwise (entries : List Entry) :
    (inOrder entries).Pairwise fun a b => a.key ≤ b.key := by
  have hsorted := sortBy_pairwise isLE_compare_total isLE_compare_trans entries
  exact hsorted.imp fun hle => isLE_compare_iff.mp hle

/-- Entries with different keys have one order. -/
theorem inOrder_eq_of_perm (hkeys : (entries.map key).Nodup) (hperm : other.Perm entries) :
    inOrder other = inOrder entries := by
  have hsame : (inOrder other).Perm (inOrder entries) :=
    (inOrder_perm other).trans (hperm.trans (inOrder_perm entries).symm)
  -- two entries that precede each other have one key, and no two of the entries have
  have hantisymm : ∀ a b, a ∈ inOrder other → b ∈ inOrder entries → a.key ≤ b.key → b.key ≤ a.key →
      a = b := by
    intro a b ha hb hab hba
    have hmem : a ∈ entries := hperm.mem_iff.mp ((inOrder_perm other).mem_iff.mp ha)
    have hmem' : b ∈ entries := (inOrder_perm entries).mem_iff.mp hb
    exact List.inj_on_of_nodup_map hkeys hmem hmem' (le_antisymm hab hba)
  exact hsame.eq_of_pairwise hantisymm (inOrder_pairwise other) (inOrder_pairwise entries)

/-- Every entry is an error or a warning. -/
theorem countP_error_add_countP_warning (entries : List Entry) :
    entries.countP (·.severity = .error) + entries.countP (·.severity = .warning) = entries.length := by
  have hsplit : entries.length = entries.countP (·.severity = .error) +
      entries.countP (fun e => decide ¬ decide (e.severity = .error) = true) :=
    List.length_eq_countP_add_countP _
  have hwarning : entries.countP (fun e => decide ¬ decide (e.severity = .error) = true) =
      entries.countP (·.severity = .warning) := by
    refine List.countP_congr fun e _ => ?_
    cases e <;> simp [severity]
  rw [← hwarning]
  exact hsplit.symm

end Entry

/-! ## The text -/

/-- The line number that an entry is shown with. -/
def Entry.line? : Entry → Option Nat
  | .issue i => some i.line
  | .failure _ => none

theorem marginOf_eq (entries : List Entry) :
    marginOf entries =
      ((entries.filterMap Entry.line?).max?.map fun n => (toString n).length).getD 1 := by
  unfold marginOf
  dsimp only
  split
  case h_1 n hmax =>
    have hlargest : (entries.filterMap Entry.line?).max? = some n := hmax
    rw [hlargest]
    rfl
  case h_2 hnone =>
    have hnumberless : (entries.filterMap Entry.line?).max? = none := hnone
    rw [hnumberless]
    rfl

/-- The margin is as wide as the largest line number, wherever that stands. -/
theorem marginOf_eq_of_perm {entries other : List Entry} (hperm : other.Perm entries) :
    marginOf other = marginOf entries := by
  have hlines := hperm.filterMap Entry.line?
  have hmax : (other.filterMap Entry.line?).max? = (entries.filterMap Entry.line?).max? := by
    refine Option.ext fun n => ?_
    simp only [List.max?_eq_some_iff, hlines.mem_iff]
  rw [marginOf_eq, marginOf_eq, hmax]

theorem render_eq_inOrder {entries : List Entry} (hne : entries ≠ []) (styled : Bool) :
    render styled entries =
      "".intercalate ((Entry.inOrder entries).map (renderEntry styled (marginOf entries))) ++
        summaryLine styled (entries.countP (·.severity = .error))
          (entries.countP (·.severity = .warning)) := by
  have hperm := Entry.inOrder_perm entries
  have hnonempty : entries.isEmpty = false := List.isEmpty_eq_false_iff.mpr hne
  have hwarnings : entries.length - entries.countP (·.severity = .error) =
      entries.countP (·.severity = .warning) := by
    have := Entry.countP_error_add_countP_warning entries
    omega
  rw [render, hnonempty, if_neg Bool.false_ne_true]
  dsimp only
  rw [renderSummary_eq, marginOf_eq_of_perm hperm, hperm.countP_eq, hperm.length_eq, hwarnings]

/-- An issue with nothing to it but its place and what would be written there. -/
def issueAt (path : Path) (line column : Nat) (replacement : String) : Entry :=
  .issue ⟨path, line, column, [], "m", .unconditional, ⟨⟨0, 0⟩, replacement.toList⟩, []⟩

/-- Entries with one key stand in the order in which they came. -/
example : render false [issueAt "a.js" 1 1 "x", issueAt "a.js" 1 1 "y"] ≠
    render false [issueAt "a.js" 1 1 "y", issueAt "a.js" 1 1 "x"] := by
  decide +kernel

end MapLint.Report
