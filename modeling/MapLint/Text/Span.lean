/-!
# Byte ranges of a text

Every position the lint speaks of is a *byte* offset into the UTF-8 form of a file's text. A
`Span` is a half-open range of such offsets, and `slice?` reads the characters it covers. A span
need not fit the text it is applied to: it may run past the end, be reversed, or cut through a
character, and then there is no slice.

## Architecture

- `byteSize` measures a list of characters in bytes;
- `splitAtByte?` cuts a list of characters after a given number of bytes;
- `sliceChars?` and `slice?` read the part of a text that a span covers.
-/

namespace MapLint

/-- A half-open range of byte offsets. -/
structure Span where
  start : Nat
  stop : Nat
deriving DecidableEq, Inhabited

namespace Span

/-- The number of bytes covered; a reversed span covers none. -/
def length (s : Span) : Nat := s.stop - s.start

/-- A span is empty when it covers no byte. -/
def isEmpty (s : Span) : Bool := s.length == 0

/-- Two spans overlap when they share at least one byte (for spans that are not reversed). -/
def overlaps (a b : Span) : Bool := a.start < b.stop && b.start < a.stop

/-- Spans are ordered by their start and then by their stop. -/
def compare (a b : Span) : Ordering := (Ord.compare a.start b.start).then (Ord.compare a.stop b.stop)

/-- The order of spans in numbers. -/
theorem compare_isLE_iff (a b : Span) :
    (a.compare b).isLE = true ↔ a.start < b.start ∨ a.start = b.start ∧ a.stop ≤ b.stop := by
  unfold compare
  rcases Nat.lt_trichotomy a.start b.start with h | h | h
  · simp [Nat.compare_eq_lt.mpr h, h]
  · simp [h, Nat.isLE_compare]
  · have hneither : ¬ (a.start < b.start ∨ a.start = b.start ∧ a.stop ≤ b.stop) := by omega
    simp [Nat.compare_eq_gt.mpr h, hneither]

theorem compare_total (a b : Span) :
    (a.compare b).isLE = true ∨ (b.compare a).isLE = true := by
  simp only [compare_isLE_iff]
  omega

theorem compare_trans (a b c : Span) (hab : (a.compare b).isLE = true)
    (hbc : (b.compare c).isLE = true) : (a.compare c).isLE = true := by
  rw [compare_isLE_iff] at *
  omega

/-- Only equal spans are not told apart. -/
theorem compare_antisymm_iff (a b : Span) :
    (a.compare b).isLE = true ∧ (b.compare a).isLE = true ↔ a = b := by
  rw [compare_isLE_iff, compare_isLE_iff, Span.mk.injEq]
  omega

end Span

/-! ## Cutting a text at byte offsets -/

/-- The number of bytes that the characters take in UTF-8. -/
def byteSize : List Char → Nat
  | [] => 0
  | c :: cs => c.utf8Size + byteSize cs

/-- Splits `cs` after exactly `n` bytes. There is no such split when the text is shorter or when
byte `n` lies inside a character. -/
def splitAtByte? : List Char → Nat → Option (List Char × List Char)
  | cs, 0 => some ([], cs)
  | [], _ + 1 => none
  | c :: cs, n + 1 =>
    if c.utf8Size ≤ n + 1 then
      match splitAtByte? cs (n + 1 - c.utf8Size) with
      | some (before, after) => some (c :: before, after)
      | none => none
    else none

/-- What follows adds its bytes. -/
@[simp]
theorem byteSize_append (before after : List Char) :
    byteSize (before ++ after) = byteSize before + byteSize after := by
  induction before with
  | nil => simp [byteSize]
  | cons c cs ih => simp [byteSize, ih, Nat.add_assoc]

/-- Only the empty text takes no bytes. -/
theorem byteSize_eq_zero_iff (cs : List Char) : byteSize cs = 0 ↔ cs = [] := by
  cases cs with
  | nil => simp [byteSize]
  | cons c cs =>
    have hpos := c.utf8Size_pos
    simp only [byteSize, reduceCtorEq, iff_false]
    omega

/-- Of two beginnings of a text the one with fewer bytes begins the other. -/
theorem eq_append_of_byteSize_le {before rest front back : List Char}
    (h : before ++ rest = front ++ back) (hle : byteSize before ≤ byteSize front) :
    ∃ between, front = before ++ between ∧ rest = between ++ back := by
  rcases List.append_eq_append_iff.mp h with hfront | ⟨extra, rfl, rfl⟩
  · exact hfront
  · rw [byteSize_append] at hle
    obtain rfl : extra = [] := (byteSize_eq_zero_iff extra).mp (by omega)
    exact ⟨[], by simp, by simp⟩

/-- Beginnings of a text with as many bytes are the same. -/
theorem append_inj_of_byteSize_eq {before rest front back : List Char}
    (h : before ++ rest = front ++ back) (hsize : byteSize before = byteSize front) :
    before = front ∧ rest = back := by
  obtain ⟨between, rfl, rfl⟩ := eq_append_of_byteSize_le h (Nat.le_of_eq hsize)
  rw [byteSize_append] at hsize
  obtain rfl : between = [] := (byteSize_eq_zero_iff between).mp (by omega)
  exact ⟨by simp, rfl⟩

/-- A text can be cut behind any of its characters. -/
theorem splitAtByte?_append (before after : List Char) :
    splitAtByte? (before ++ after) (byteSize before) = some (before, after) := by
  induction before with
  | nil => simp [byteSize, splitAtByte?]
  | cons c cs ih =>
    have hpos := c.utf8Size_pos
    obtain ⟨n, hn⟩ : ∃ n, byteSize (c :: cs) = n + 1 := ⟨byteSize (c :: cs) - 1, by
      simp only [byteSize]
      omega⟩
    have hrest : n + 1 - c.utf8Size = byteSize cs := by
      simp only [byteSize] at hn
      omega
    have hle : c.utf8Size ≤ n + 1 := by
      simp only [byteSize] at hn
      omega
    rw [hn]
    simp only [List.cons_append, splitAtByte?, if_pos hle, hrest, ih]

/-- A text is cut exactly where the characters before the cut have that many bytes. -/
theorem splitAtByte?_eq_some_iff (cs : List Char) (n : Nat) (before after : List Char) :
    splitAtByte? cs n = some (before, after) ↔ cs = before ++ after ∧ byteSize before = n := by
  constructor
  · induction cs, n using splitAtByte?.induct generalizing before after with
    | case1 cs =>
      simp only [splitAtByte?, Option.some.injEq, Prod.mk.injEq]
      rintro ⟨rfl, rfl⟩
      exact ⟨rfl, rfl⟩
    | case2 n => simp [splitAtByte?]
    | case3 c cs n hle front back hcut ih =>
      simp only [splitAtByte?, if_pos hle, hcut, Option.some.injEq, Prod.mk.injEq]
      rintro ⟨rfl, rfl⟩
      obtain ⟨rfl, hsize⟩ := ih front back hcut
      exact ⟨rfl, by simp only [byteSize]; omega⟩
    | case4 c cs n hle hcut => simp [splitAtByte?, hle, hcut]
    | case5 c cs n hgt => simp [splitAtByte?, hgt]
  · rintro ⟨rfl, rfl⟩
    exact splitAtByte?_append before after

/-- The characters covered by a span, if it is a proper range of whole characters of the text. -/
def sliceChars? (cs : List Char) (s : Span) : Option (List Char) :=
  if s.start ≤ s.stop then
    match splitAtByte? cs s.start with
    | some (_, after) =>
      match splitAtByte? after (s.stop - s.start) with
      | some (middle, _) => some middle
      | none => none
    | none => none
  else none

/-- A slice is what stands between the bytes before the span and those behind it. -/
theorem sliceChars?_eq_some_iff (cs : List Char) (s : Span) (middle : List Char) :
    sliceChars? cs s = some middle ↔
      ∃ before after, cs = before ++ middle ++ after ∧ byteSize before = s.start ∧
        s.start + byteSize middle = s.stop := by
  unfold sliceChars?
  constructor
  · intro h
    split at h
    case isFalse => cases h
    case isTrue hle =>
      split at h
      case h_2 => cases h
      case h_1 before rest hcut =>
        split at h
        case h_2 => cases h
        case h_1 front after hcut' =>
          cases h
          obtain ⟨rfl, hbefore⟩ := (splitAtByte?_eq_some_iff ..).mp hcut
          obtain ⟨rfl, hmiddle⟩ := (splitAtByte?_eq_some_iff ..).mp hcut'
          exact ⟨before, after, by simp, hbefore, by omega⟩
  · rintro ⟨before, after, rfl, hbefore, hmiddle⟩
    have hcut : splitAtByte? (before ++ middle ++ after) s.start = some (before, middle ++ after) :=
      (splitAtByte?_eq_some_iff ..).mpr ⟨by simp, hbefore⟩
    have hcut' : splitAtByte? (middle ++ after) (s.stop - s.start) = some (middle, after) :=
      (splitAtByte?_eq_some_iff ..).mpr ⟨rfl, by omega⟩
    rw [if_pos (by omega)]
    simp only [hcut, hcut']

/-- The part of a text covered by a span. -/
def slice? (text : String) (s : Span) : Option String :=
  (sliceChars? text.toList s).map String.ofList

end MapLint
