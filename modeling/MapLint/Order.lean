/-!
# Sorting by insertion

A stable sort by recursion on the list: elements that the order does not tell apart keep the order
in which they came. The lists of this library are short (the edits of a file, the issues of a run),
and a sort by structural recursion can be evaluated inside a proof. It is written out here because the program
is built from the core library alone; `MapLint.Proofs.Sorting` says that it is the insertion sort of Mathlib
and takes what is known of that one.
-/

namespace MapLint

/-- Puts `a` before the first element that it may precede. -/
def insertBy {α : Type} (le : α → α → Bool) (a : α) : List α → List α
  | [] => [a]
  | b :: bs => if le a b then a :: b :: bs else b :: insertBy le a bs

/-- Sorts a list; equal elements keep their order. -/
def sortBy {α : Type} (le : α → α → Bool) : List α → List α
  | [] => []
  | a :: as => insertBy le a (sortBy le as)

/-- Drops every element equal to the one before it. -/
def dropRepeats {α : Type} [DecidableEq α] : List α → List α
  | [] => []
  | [a] => [a]
  | a :: b :: rest => if a = b then dropRepeats (b :: rest) else a :: dropRepeats (b :: rest)

end MapLint
