import MapLint.Text.Span
import MapLint.Text.Blank
import MapLint.Text.Width

/-!
# Lines and columns

A line ends behind a line feed, behind a carriage return with a line feed, and behind a carriage
return alone. Lines and columns are counted from one, and a column counts `locationColumns` of the
characters before it.

## Architecture

- `LinePlace` is a text cut at a byte: the number of the line, what stands before the byte on that
  line, and everything behind it;
- `placeAt` makes the cut;
- `LinePlace.column` and `LinePlace.shownLine` are read off it.
-/

namespace MapLint

/-- A place in a text, seen from its line. -/
structure LinePlace where
  /-- The number of the line. -/
  line : Nat
  /-- The characters of the line before the place. -/
  before : List Char
  /-- The rest of the text. -/
  after : List Char
deriving DecidableEq, Inhabited

/-- A line ends behind `c` when `rest` follows it. -/
def endsLine (c : Char) (rest : List Char) : Bool :=
  c == '\n' || (c == '\r' && rest.head? != some '\n')

/-- The place `n` bytes further on. `before` holds the characters of the line so far, the last one
first. A byte inside a character counts for that character's start, and one behind the text for its
end. -/
def placeFrom (line : Nat) (before : List Char) : List Char → Nat → LinePlace
  | [], _ => ⟨line, before.reverse, []⟩
  | c :: cs, n =>
    if c.utf8Size ≤ n then
      if endsLine c cs then placeFrom (line + 1) [] cs (n - c.utf8Size)
      else placeFrom line (c :: before) cs (n - c.utf8Size)
    else ⟨line, before.reverse, c :: cs⟩

/-- The place of a byte offset. -/
def placeAt (text : List Char) (offset : Nat) : LinePlace := placeFrom 1 [] text offset

/-- The number of the line on which a byte stands. -/
def lineAt (text : List Char) (offset : Nat) : Nat := (placeAt text offset).line

/-- Going on in a text never goes back to an earlier line. -/
theorem le_line_placeFrom (line : Nat) (before text : List Char) (n : Nat) :
    line ≤ (placeFrom line before text n).line := by
  fun_induction placeFrom line before text n with
  | case1 => exact Nat.le_refl _
  | case2 line before c cs n hsize hends ih => exact Nat.le_of_succ_le ih
  | case3 line before c cs n hsize hends ih => exact ih
  | case4 => exact Nat.le_refl _

theorem line_placeFrom_mono (line : Nat) (before text : List Char) {n m : Nat} (h : n ≤ m) :
    (placeFrom line before text n).line ≤ (placeFrom line before text m).line := by
  induction text generalizing line before n m with
  | nil => exact Nat.le_refl _
  | cons c cs ih =>
    by_cases hsize : c.utf8Size ≤ n
    · have hrest : n - c.utf8Size ≤ m - c.utf8Size := Nat.sub_le_sub_right h _
      simp only [placeFrom, if_pos hsize, if_pos (Nat.le_trans hsize h)]
      split
      · exact ih _ _ hrest
      · exact ih _ _ hrest
    · have hhere : (placeFrom line before (c :: cs) n).line = line := by
        simp only [placeFrom, if_neg hsize]
      rw [hhere]
      exact le_line_placeFrom line before (c :: cs) m

/-- Lines are counted from one. -/
theorem one_le_lineAt (text : List Char) (offset : Nat) : 1 ≤ lineAt text offset :=
  le_line_placeFrom 1 [] text offset

/-- Lines are counted in the order of the text. -/
theorem lineAt_mono (text : List Char) {a b : Nat} (h : a ≤ b) : lineAt text a ≤ lineAt text b :=
  line_placeFrom_mono 1 [] text h

namespace LinePlace

/-- The column: one more than what the characters before it count. -/
def column (p : LinePlace) : Nat := (p.before.map locationColumns).foldr (· + ·) 0 + 1

/-- The line as it is shown: up to the next line feed, without blanks at the end. -/
def shownLine (p : LinePlace) : List Char := trimEnd ((p.before ++ p.after).takeWhile (· != '\n'))

end LinePlace

end MapLint
