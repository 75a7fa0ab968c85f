import MapLint.Text.Width

/-!
# The width of a text and of its parts

The width of a text is in general not that of its characters together, nor that of its two parts: an
emoji goes on over several characters, and a letter looks at the ones behind it. At a printable ASCII
character that begins no emoji, though, a text can be taken apart: nothing in front of the character takes
it in, and it takes room of its own.

## Architecture

- `inRanges_iff` says membership in a table without the binary search;
- `Separate` is the kind of character at which texts can be taken apart, and `emojiElement?`,
  `joinedEmoji`, `absorbed?` and `glyph` each get a lemma that such a character does not matter to them;
- `textColumns_append` puts the widths together, `textColumns_pos` gives the room of the character.
-/

namespace MapLint

/-! ## Tables -/

/-- The ranges of a table are proper, apart, and in increasing order. -/
def OrderedRanges (table : Array (Nat × Nat)) : Prop :=
  (∀ range ∈ table.toList, range.1 ≤ range.2) ∧
    table.toList.Pairwise fun range next => range.2 < next.1

instance (table : Array (Nat × Nat)) : Decidable (OrderedRanges table) :=
  inferInstanceAs (Decidable (_ ∧ _))

section Tables

variable {table : Array (Nat × Nat)} {range next : Nat × Nat} {n steps low high i j : Nat}

/-- Ranges stand in the order of their places. -/
theorem OrderedRanges.lt (h : OrderedRanges table) (hi : table[i]? = some range)
    (hj : table[j]? = some next) (hij : i < j) : range.2 < next.1 := by
  obtain ⟨hilt, rfl⟩ := Array.getElem?_eq_some_iff.mp hi
  obtain ⟨hjlt, rfl⟩ := Array.getElem?_eq_some_iff.mp hj
  exact List.pairwise_iff_getElem.mp h.2 i j hilt hjlt hij

theorem OrderedRanges.le (h : OrderedRanges table) (hi : table[i]? = some range) :
    range.1 ≤ range.2 :=
  h.1 range (Array.mem_toList_iff.mpr (Array.mem_of_getElem? hi))

/-- What the search finds is there, in any table. -/
theorem exists_range_of_searchRanges (h : searchRanges table n steps low high = true) :
    ∃ range ∈ table.toList, range.1 ≤ n ∧ n ≤ range.2 := by
  fun_induction searchRanges table n steps low high with
  | case1 => cases h
  | case2 => cases h
  | case3 => cases h
  | case4 low high steps hlow middle first last hmiddle hfirst ih => exact ih h
  | case5 low high steps hlow middle first last hmiddle hfirst hlast ih => exact ih h
  | case6 low high steps hlow middle first last hmiddle hfirst hlast =>
    exact ⟨(first, last), Array.mem_toList_iff.mpr (Array.mem_of_getElem? hmiddle),
      Nat.le_of_not_lt hfirst, Nat.le_of_not_lt hlast⟩

/-- In an ordered table the search finds what is there: the place looked for stays between the two ends,
which come closer with each step. -/
theorem searchRanges_of_range (hordered : OrderedRanges table) (hi : table[i]? = some range)
    (hfirst : range.1 ≤ n) (hlast : n ≤ range.2) (hlow : low ≤ i) (hhigh : i < high)
    (hsize : high ≤ table.size) (hsteps : high - low < steps) :
    searchRanges table n steps low high = true := by
  fun_induction searchRanges table n steps low high with
  | case1 => omega
  | case2 => omega
  | case3 steps low high hlt middle hnone =>
    have hmiddle := Array.getElem?_eq_none_iff.mp hnone
    omega
  | case4 steps low high hlt middle first last hmiddle hbelow ih =>
    refine ih hlow ?_ (by omega) (by omega)
    -- a range from `middle` on begins behind `n`
    rcases Nat.lt_trichotomy i middle with h | rfl | h
    · exact h
    · rw [hmiddle] at hi
      cases hi
      omega
    · have := hordered.lt hmiddle hi h
      have := hordered.le hmiddle
      simp only at *
      omega
  | case5 steps low high hlt middle first last hmiddle hbelow habove ih =>
    refine ih ?_ hhigh hsize (by omega)
    -- a range up to `middle` ends before `n`
    rcases Nat.lt_trichotomy middle i with h | rfl | h
    · exact h
    · rw [hmiddle] at hi
      cases hi
      omega
    · have := hordered.lt hi hmiddle h
      have := hordered.le hmiddle
      simp only at *
      omega
  | case6 => rfl

theorem inRanges_iff (hordered : OrderedRanges table) :
    inRanges table n = true ↔ ∃ range ∈ table.toList, range.1 ≤ n ∧ n ≤ range.2 := by
  refine ⟨exists_range_of_searchRanges, ?_⟩
  rintro ⟨range, hmem, hfirst, hlast⟩
  obtain ⟨i, hi⟩ := Array.mem_iff_getElem?.mp (Array.mem_toList_iff.mp hmem)
  exact searchRanges_of_range hordered hi hfirst hlast (Nat.zero_le i)
    (Array.getElem?_eq_some_iff.mp hi).1 (Nat.le_refl _) (by omega)

end Tables

/-! ## Characters at which texts can be taken apart -/

theorem emojiRanges_ordered : OrderedRanges emojiRanges := by
  decide +kernel

/-- What is shown as emoji by default can be shown as emoji. -/
theorem isEmoji_of_isEmojiByDefault {c : Char} (h : isEmojiByDefault c = true) : isEmoji c = true := by
  have hwithin : ∀ range ∈ emojiByDefaultRanges.toList, 128 ≤ range.1 ∧
      ∃ wide ∈ emojiRanges.toList, wide.1 ≤ range.1 ∧ range.2 ≤ wide.2 := by
    decide +kernel
  obtain ⟨range, hmem, hfirst, hlast⟩ := exists_range_of_searchRanges h
  obtain ⟨hascii, wide, hwide, hlow, hhigh⟩ := hwithin range hmem
  unfold isEmoji
  rw [if_neg (by omega)]
  exact (inRanges_iff emojiRanges_ordered).mpr ⟨wide, hwide, by omega, by omega⟩

/-- A printable ASCII character other than the space with which no emoji begins. -/
structure Separate (c : Char) : Prop where
  lower : 32 < c.toNat
  upper : c.toNat < 127
  notEmoji : isEmoji c = false

namespace Separate

variable {c : Char} (hc : Separate c)

include hc

theorem isSkinTone : isSkinTone c = false := by
  have := hc.upper
  simp only [MapLint.isSkinTone, Bool.and_eq_false_iff, decide_eq_false_iff_not]
  omega

theorem isEmojiSelector : isEmojiSelector c = false := by
  have := hc.upper
  simp only [MapLint.isEmojiSelector, beq_eq_false_iff_ne]
  omega

theorem isTextSelector : isTextSelector c = false := by
  have := hc.upper
  simp only [MapLint.isTextSelector, beq_eq_false_iff_ne]
  omega

theorem isJoiner : isJoiner c = false := by
  have := hc.upper
  simp only [MapLint.isJoiner, beq_eq_false_iff_ne]
  omega

theorem charColumns? : charColumns? c = some 1 := by
  have hlower := hc.lower
  have hupper := hc.upper
  have hcontrol : isControl c = false := by
    simp only [isControl, Bool.or_eq_false_iff, Bool.and_eq_false_iff, decide_eq_false_iff_not]
    omega
  unfold MapLint.charColumns?
  rw [hcontrol, if_neg Bool.false_ne_true, if_pos (by omega)]

theorem isTransparent : isTransparent c = false := by
  unfold MapLint.isTransparent
  rw [hc.charColumns?]
  rfl

theorem isLam : isLam c = false := by
  have hforms : ∀ n ∈ [0x644, 0x6B5, 0x6B6, 0x6B7, 0x6B8, 0x76A, 0x8A6, 0x8C7], 127 ≤ n := by decide
  rw [← Bool.not_eq_true, MapLint.isLam, List.contains_iff_mem]
  exact fun hmem => Nat.not_lt.mpr (hforms _ hmem) hc.upper

theorem isAlef : isAlef c = false := by
  have hforms : ∀ n ∈ [0x622, 0x623, 0x625, 0x627, 0x671, 0x672, 0x673, 0x675, 0x773, 0x774],
    127 ≤ n := by decide
  have := hc.upper
  rw [← Bool.not_eq_true, MapLint.isAlef, Bool.or_eq_true, List.contains_iff_mem, Bool.and_eq_true,
    decide_eq_true_eq, decide_eq_true_eq]
  rintro (hmem | hrange)
  · exact Nat.not_lt.mpr (hforms _ hmem) hc.upper
  · omega

theorem isSubscriptConsonant : isSubscriptConsonant c = false := by
  have hforms : ∀ range ∈ [(0x1780, 0x1782), (0x1784, 0x1787), (0x1789, 0x178C), (0x178E, 0x1793),
    (0x1795, 0x1798), (0x179B, 0x179D), (0x17A0, 0x17A0), (0x17A2, 0x17A2), (0x17A7, 0x17A7),
    (0x17AB, 0x17AC), (0x17AF, 0x17AF)], 127 ≤ range.1 := by decide
  rw [← Bool.not_eq_true]
  intro h
  obtain ⟨range, hmem, hfirst, -⟩ := exists_range_of_searchRanges h
  exact Nat.not_lt.mpr (Nat.le_trans (hforms range hmem) hfirst) hc.upper

end Separate

/-! ## What a character takes in -/

section Glyphs

variable {c : Char} {before more : List Char} {n : Nat}

/-- An emoji ends in front of a separate character. -/
theorem emojiElement?_append (hc : Separate c) (hbefore : before ≠ []) (more : List Char) :
    emojiElement? (before ++ c :: more) = emojiElement? before := by
  match before, hbefore with
  | [base], _ =>
    by_cases hbase : isEmoji base = true
    · simp [emojiElement?, hbase, hc.isSkinTone, hc.isEmojiSelector, hc.isTextSelector]
    · have hdefault : ¬ isEmojiByDefault base = true := fun h => hbase (isEmoji_of_isEmojiByDefault h)
      simp [emojiElement?, hbase, hdefault]
  | [base, mark], _ => simp [emojiElement?, hc.isEmojiSelector]
  | base :: mark :: selector :: rest, _ => simp [emojiElement?]

theorem emojiElement?_separate (hc : Separate c) (more : List Char) : emojiElement? (c :: more) = none := by
  cases more with
  | nil =>
    have hdefault : ¬ isEmojiByDefault c = true := fun h =>
      Bool.false_ne_true (hc.notEmoji.symm.trans (isEmoji_of_isEmojiByDefault h))
    rw [emojiElement?, if_neg hdefault]
  | cons mark rest => simp [emojiElement?, hc.notEmoji]

/-- An emoji has characters of its own, and no more than there are. -/
theorem emojiElement?_le (h : emojiElement? before = some n) : 0 < n ∧ n ≤ before.length := by
  unfold emojiElement? at h
  split at h <;> grind

/-- What is joined to an emoji ends in front of a separate character. The fuel does not matter as long as it
suffices for the characters. -/
theorem joinedEmoji_append (hc : Separate c) (more : List Char) {fuel enough : Nat}
    (hfuel : before.length ≤ fuel) (henough : before.length ≤ enough) :
    joinedEmoji fuel (before ++ c :: more) = joinedEmoji enough before := by
  -- each round takes a joiner and an emoji, so the characters run out before the fuel does
  induction fuel generalizing before enough with
  | zero =>
    rw [List.eq_nil_of_length_eq_zero (Nat.le_zero.mp hfuel)]
    cases enough <;> rfl
  | succ fuel ih =>
    cases before with
    | nil =>
      have hnone : joinedEmoji (fuel + 1) (c :: more) = 0 := by simp [joinedEmoji, hc.isJoiner]
      rw [List.nil_append, hnone]
      cases enough <;> rfl
    | cons joiner cs =>
      obtain ⟨enough, rfl⟩ := Nat.exists_eq_add_one_of_ne_zero (n := enough) (by grind)
      rw [List.length_cons] at hfuel henough
      rw [List.cons_append, joinedEmoji, joinedEmoji]
      split
      case isFalse => rfl
      case isTrue =>
        cases cs with
        | nil =>
          rw [List.nil_append, emojiElement?_separate hc]
          rfl
        | cons d ds =>
          rw [emojiElement?_append hc (List.cons_ne_nil d ds)]
          cases hn : emojiElement? (d :: ds) with
          | none => rfl
          | some n =>
            have hle := (emojiElement?_le hn).2
            have hmore : joinedEmoji fuel ((d :: ds).drop n ++ c :: more) =
                joinedEmoji enough ((d :: ds).drop n) := by
              apply ih <;> grind
            simp only [List.drop_append_of_le_length hle, hmore]

theorem joinedEmoji_le (fuel : Nat) (text : List Char) : joinedEmoji fuel text ≤ text.length := by
  fun_induction joinedEmoji fuel text with
  | case1 => exact Nat.zero_le _
  | case2 => exact Nat.zero_le _
  | case3 fuel joiner cs hjoiner n hn ih =>
    have hle := (emojiElement?_le hn).2
    rw [List.length_drop] at ih
    rw [List.length_cons]
    omega
  | case4 => exact Nat.zero_le _
  | case5 => exact Nat.zero_le _

/-- A separate character joins no ligature. -/
theorem absorbed?_append (hc : Separate c) (hbefore : before ≠ []) (more : List Char) :
    absorbed? (before ++ c :: more) = absorbed? before := by
  match before, hbefore with
  | letter :: cs, _ =>
    have hmarks : (cs ++ c :: more).dropWhile isTransparent = cs.dropWhile isTransparent ++ c :: more := by
      rw [List.dropWhile_append]
      split
      case isTrue hnone => simp [hc.isTransparent, List.isEmpty_iff.mp hnone]
      case isFalse => rfl
    simp only [List.cons_append, absorbed?, hmarks]
    congr 1
    · cases cs.dropWhile isTransparent with
      | nil => simp [hc.isAlef]
      | cons next rest => rfl
    · cases cs with
      | nil => simp [hc.isSubscriptConsonant]
      | cons next rest => rfl

theorem absorbed?_separate (hc : Separate c) (more : List Char) : absorbed? (c :: more) = none := by
  have hsign : ¬ (c.toNat == 0x17D2) = true := by
    have := hc.upper
    rw [beq_iff_eq]
    omega
  simp only [absorbed?, hc.isLam, hsign, Bool.false_eq_true, if_false]

theorem absorbed?_le (h : absorbed? before = some n) : 0 < n ∧ n ≤ before.length := by
  unfold absorbed? at h
  split at h <;> grind

/-- Where no line break begins, a glyph is an emoji, or else a ligature, or else a single character. -/
theorem glyph_cons {base : Char} {cs : List Char} (h : base = '\r' → cs.head? ≠ some '\n') :
    glyph (base :: cs) =
      match emojiElement? (base :: cs), absorbed? (base :: cs) with
      | some n, _ => (n + joinedEmoji cs.length ((base :: cs).drop n), 2)
      | none, some n => (n, 0)
      | none, none =>
        if cs.head?.any isTextSelector && narrowsAsText base then (2, 1)
        else (1, (charColumns? base).getD 1) := by
  cases cs with
  | nil => exact glyph.eq_4 base fun _ _ h => nomatch h
  | cons mark rest =>
    refine glyph.eq_3 base mark rest fun _ hreturn hfeed => h hreturn ?_
    rw [(List.cons.inj hfeed).1]
    rfl

/-- What is shown as one glyph ends in front of a separate character. -/
theorem glyph_append (hc : Separate c) (hbefore : before ≠ []) (more : List Char) :
    glyph (before ++ c :: more) = glyph before := by
  have hfeed : c ≠ '\n' := by
    rintro rfl
    exact absurd hc.lower (by decide)
  obtain ⟨base, cs, rfl⟩ := List.exists_cons_of_ne_nil hbefore
  by_cases hbreak : base = '\r' ∧ cs.head? = some '\n'
  · obtain ⟨rfl, hhead⟩ := hbreak
    obtain ⟨rest, rfl⟩ := List.head?_eq_some_iff.mp hhead
    rfl
  · have hemoji := emojiElement?_append hc hbefore more
    have habsorbed := absorbed?_append hc hbefore more
    rw [List.cons_append] at hemoji habsorbed ⊢
    -- the next character is the same one, or it is `c`
    have hbreak' : base = '\r' → (cs ++ c :: more).head? ≠ some '\n' := by
      cases cs with
      | nil => exact fun _ h => hfeed (Option.some.inj h)
      | cons mark rest => exact fun hreturn hhead => hbreak ⟨hreturn, hhead⟩
    have hselector : (cs ++ c :: more).head?.any isTextSelector = cs.head?.any isTextSelector := by
      cases cs with
      | nil => exact hc.isTextSelector
      | cons mark rest => rfl
    rw [glyph_cons hbreak', glyph_cons fun hreturn hhead => hbreak ⟨hreturn, hhead⟩, hemoji, habsorbed,
      hselector]
    cases hn : emojiElement? (base :: cs) with
    | some n =>
      have hle := emojiElement?_le hn
      have hjoined : joinedEmoji (cs ++ c :: more).length ((base :: cs).drop n ++ c :: more) =
          joinedEmoji cs.length ((base :: cs).drop n) := by
        apply joinedEmoji_append hc <;> grind
      dsimp only
      rw [← List.cons_append, List.drop_append_of_le_length hle.2, hjoined]
    | none => cases absorbed? (base :: cs) <;> rfl

/-- A glyph has characters of its own, and no more than there are. -/
theorem glyph_le (before : List Char) : (glyph before).1 ≤ before.length := by
  match before with
  | [] => exact Nat.zero_le _
  | base :: cs =>
    by_cases hbreak : base = '\r' ∧ cs.head? = some '\n'
    · obtain ⟨rfl, hhead⟩ := hbreak
      obtain ⟨rest, rfl⟩ := List.head?_eq_some_iff.mp hhead
      exact Nat.le_add_left 2 rest.length
    · rw [glyph_cons fun hreturn hfeed => hbreak ⟨hreturn, hfeed⟩]
      cases hn : emojiElement? (base :: cs) with
      | some n =>
        have hle := (emojiElement?_le hn).2
        have hjoined := joinedEmoji_le cs.length ((base :: cs).drop n)
        rw [List.length_drop] at hjoined
        dsimp only
        omega
      | none =>
        cases hm : absorbed? (base :: cs) with
        | some n => exact (absorbed?_le hm).2
        | none =>
          dsimp only
          cases cs with
          | nil => exact Nat.le_refl 1
          | cons mark rest =>
            rw [List.length_cons, List.length_cons]
            split <;> dsimp only <;> omega

end Glyphs

/-! ## The width of a text -/

section Width

variable {c : Char} {before : List Char} {skipped : Nat}

theorem textColumnsFrom_append (hc : Separate c) (more : List Char) (h : skipped ≤ before.length) :
    textColumnsFrom skipped (before ++ c :: more) =
      textColumnsFrom skipped before + textColumns (c :: more) := by
  induction before generalizing skipped with
  | nil =>
    rw [Nat.le_zero.mp h]
    exact (Nat.zero_add _).symm
  | cons d ds ih =>
    cases skipped with
    | succ skipped => exact ih (Nat.le_of_succ_le_succ h)
    | zero =>
      have hglyph := glyph_append hc (List.cons_ne_nil d ds) more
      have hle := glyph_le (d :: ds)
      rw [List.length_cons] at hle
      rw [List.cons_append] at hglyph ⊢
      simp only [textColumnsFrom, hglyph]
      rw [ih (by omega), Nat.add_assoc]

/-- A text is as wide as its two parts if the second one begins with a separate character. -/
theorem textColumns_append (hc : Separate c) (before more : List Char) :
    textColumns (before ++ c :: more) = textColumns before + textColumns (c :: more) :=
  textColumnsFrom_append hc more (Nat.zero_le _)

/-- A separate character takes room. -/
theorem textColumns_pos (hc : Separate c) (more : List Char) : 0 < textColumns (c :: more) := by
  have hreturn : c ≠ '\r' := by
    rintro rfl
    exact absurd hc.lower (by decide)
  have hglyph : 0 < (glyph (c :: more)).2 := by
    rw [glyph_cons fun h => absurd h hreturn, emojiElement?_separate hc, absorbed?_separate hc,
      hc.charColumns?]
    dsimp only
    split <;> exact Nat.one_pos
  exact Nat.add_pos_left hglyph _

end Width

end MapLint
