/-!
# Similar words

How alike two words are: the Jaro similarity, a number between zero and one. Characters that are
equal and not too far apart count, and those that are out of order count less. The number is kept as
an exact fraction.
-/

namespace MapLint

/-- A fraction of natural numbers. -/
structure Fraction where
  numerator : Nat
  denominator : Nat
deriving DecidableEq, Inhabited

/-- One fraction is larger than another. -/
def Fraction.exceeds (a b : Fraction) : Bool :=
  b.numerator * a.denominator < a.numerator * b.denominator

/-- Takes the first place in `low ≤ j < high` whose character is `c`. Places are given with their
characters, in order. -/
def takePlace (c : Char) (low high : Nat) :
    List (Nat × Char) → Option (Nat × List (Nat × Char))
  | [] => none
  | (j, d) :: rest =>
    if low ≤ j && j < high && c == d then some (j, rest)
    else (takePlace c low high rest).map fun (found, others) => (found, (j, d) :: others)

/-- Matches the characters of a word from place `i` on with free places of another: the characters
that found a partner, and the places of their partners. -/
def matchPlaces (range : Nat) (i : Nat) :
    List Char → List (Nat × Char) → List Char × List Nat
  | [], _ => ([], [])
  | c :: cs, free =>
    match takePlace c (i - range) (i + range + 1) free with
    | some (j, free) =>
      let (matched, places) := matchPlaces range (i + 1) cs free
      (c :: matched, j :: places)
    | none => matchPlaces range (i + 1) cs free

/-- The similarity of two words. -/
def similarity (a b : List Char) : Fraction :=
  if a.isEmpty && b.isEmpty then ⟨1, 1⟩
  else
    let range := max a.length b.length / 2 - 1
    let places := b.mapIdx fun j c => (j, c)
    let (matched, partners) := matchPlaces range 0 a places
    let count := matched.length
    let inOrder := (places.filter fun p => partners.contains p.1).map Prod.snd
    let displaced := ((matched.zip inOrder).countP fun p => p.1 != p.2) / 2
    if count = 0 then ⟨0, 1⟩
    else
      ⟨count * count * b.length + count * count * a.length +
          (count - displaced) * a.length * b.length,
        3 * count * a.length * b.length⟩

/-- The words among some that are much like a given one, the most similar first. -/
def similarWords (word : String) (words : List String) : List String :=
  let scored := words.map fun w => (similarity word.toList w.toList, w)
  let close := scored.filter fun s => s.1.exceeds ⟨7, 10⟩
  (close.foldl insert []).map Prod.snd
where
  /-- Puts a scored word behind those that are more similar. -/
  insert (sorted : List (Fraction × String)) (s : Fraction × String) : List (Fraction × String) :=
    sorted.takeWhile (·.1.exceeds s.1) ++ s :: sorted.dropWhile (·.1.exceeds s.1)

end MapLint
