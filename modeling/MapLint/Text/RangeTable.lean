/-!
# Tables of code point ranges

A property of characters is kept as an array of disjoint ranges in increasing order; membership is
a binary search.
-/

namespace MapLint

/-- Binary search for the range that contains `n` among the entries from `low` up to `high`.
The first argument bounds the number of halvings. -/
def searchRanges (table : Array (Nat × Nat)) (n : Nat) : Nat → Nat → Nat → Bool
  | 0, _, _ => false
  | steps + 1, low, high =>
    if high ≤ low then false
    else
      let middle := (low + high) / 2
      match table[middle]? with
      | none => false
      | some (first, last) =>
        if n < first then searchRanges table n steps low middle
        else if last < n then searchRanges table n steps (middle + 1) high
        else true

/-- A code point is in the table when one of its ranges contains it. -/
def inRanges (table : Array (Nat × Nat)) (n : Nat) : Bool :=
  searchRanges table n (table.size + 1) 0 table.size

end MapLint
