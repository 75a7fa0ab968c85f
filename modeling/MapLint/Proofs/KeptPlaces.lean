import MapLint.Proofs.Exchanges
import MapLint.Proofs.KeptLines

/-!
# Where the old text stands in the new one

The bits of a text with exchanges made in it cover the old text, one stretch behind the other, and what they
write is the new text. So a stretch of the old text that is kept has a place in the new one, and one that is
written again has another. Laid side by side the two texts are cut where tokens begin and end, so no line end
is cut in two.

## Architecture

- `Bit.cell` is what a bit covers beside what it writes; `Tiles` says of bits that they cover the text;
- `copiesFrom` are the places in the new text of a stretch of the old one, `mem_copiesFrom_iff` says where they
  come from, and `Tiles.spot` that a copy which is kept is a spot of both texts;
- `Exchange.Firm` is what an exchange needs for its bits to be tiles with firm ends, `tiles_layout` and
  `smooth_layout` what it gives for a whole text, and `firm_of_judge` says that the exchange for a call has it.
-/

namespace MapLint

/-! ## Bits as cells -/

namespace Bit

/-- The stretch of the old text that the bit takes. -/
def covered? : Bit → Option Span
  | kept span => some span
  | dropped span => some span
  | _ => none

/-- The stretch of the old text that the bit brings into the new one. -/
def copied? : Bit → Option Span
  | kept span => some span
  | again span => some span
  | _ => none

/-- What stands beside what. -/
def cell (text : List Char) : Bit → Cell
  | kept span => .same (textAt text span)
  | dropped span => .changed (textAt text span) []
  | own chars => .changed [] chars
  | again span => .changed [] (textAt text span)

theorem old_cell (text : List Char) (bit : Bit) :
    (bit.cell text).old = bit.covered?.elim [] (textAt text) := by
  cases bit <;> rfl

theorem new_cell (text : List Char) (bit : Bit) : (bit.cell text).new = bit.written text := by
  cases bit <;> rfl

end Bit

/-- The old and the new text side by side. -/
def cells (text : List Char) (bits : List Bit) : List Cell := bits.map (Bit.cell text)

theorem news_cells (text : List Char) (bits : List Bit) : news (cells text bits) = written text bits := by
  simp only [news, cells, written, List.flatMap_map, Bit.new_cell]

/-! ## Covering the old text -/

/-- From byte `cursor` to byte `stop` the bits cover the text, one stretch behind the other. -/
def Tiles (text : List Char) (stop : Nat) : Nat → List Bit → Prop
  | cursor, [] => cursor = stop
  | cursor, bit :: bits =>
    match bit.covered? with
    | some span => span.start = cursor ∧ (sliceChars? text span).isSome ∧ Tiles text stop span.stop bits
    | none => Tiles text stop cursor bits

section Tiles

variable {text front rest : List Char} {stop cursor : Nat} {bits left right : List Bit} {bit : Bit}

theorem tiles_append : Tiles text stop cursor (left ++ right) ↔
    ∃ middle, Tiles text middle cursor left ∧ Tiles text stop middle right := by
  induction left generalizing cursor with
  | nil => simp [Tiles]
  | cons bit left ih =>
    simp only [List.cons_append, Tiles]
    split
    · simp only [ih, and_assoc, exists_and_left]
    · exact ih

/-- What the bits cover is what stands there. -/
theorem Tiles.exists_rest (h : Tiles text stop cursor bits) (htext : text = front ++ rest)
    (hcursor : byteSize front = cursor) :
    ∃ after, rest = olds (cells text bits) ++ after ∧ cursor + byteSize (olds (cells text bits)) = stop := by
  induction bits generalizing cursor front rest with
  | nil => exact ⟨rest, rfl, h⟩
  | cons bit bits ih =>
    have hcons : olds (cells text (bit :: bits)) = (bit.cell text).old ++ olds (cells text bits) := rfl
    rw [Tiles] at h
    split at h
    case h_1 span hcovered =>
      obtain ⟨hstart, hfits, hrest⟩ := h
      obtain ⟨chars, hchars⟩ := Option.isSome_iff_exists.mp hfits
      obtain ⟨before, behind, hsplit, hbefore, hstop⟩ := (sliceChars?_eq_some_iff ..).mp hchars
      have hold : (bit.cell text).old = chars := by
        rw [Bit.old_cell, hcovered, Option.elim, textAt, hchars]
        rfl
      have hsplit : front ++ rest = before ++ (chars ++ behind) := by
        rw [← htext, hsplit, List.append_assoc]
      obtain ⟨rfl, rfl⟩ := append_inj_of_byteSize_eq hsplit (by omega)
      have htext' : text = (front ++ chars) ++ behind := by rw [htext, List.append_assoc]
      obtain ⟨after, rfl, hend⟩ := ih hrest htext' (by rw [byteSize_append]; omega)
      refine ⟨after, by rw [hcons, hold, List.append_assoc], ?_⟩
      rw [hcons, hold, byteSize_append]
      omega
    case h_2 hcovered =>
      have hold : (bit.cell text).old = [] := by rw [Bit.old_cell, hcovered, Option.elim]
      rw [hcons, hold]
      exact ih h htext hcursor

/-- The bits of a whole text cover all of it. -/
theorem Tiles.olds_eq (h : Tiles text (byteSize text) 0 bits) : olds (cells text bits) = text := by
  have hfront : text = [] ++ text := rfl
  obtain ⟨after, htext, hsize⟩ := h.exists_rest hfront rfl
  have hnone : byteSize after = 0 := by
    have hboth := congrArg byteSize htext
    rw [byteSize_append] at hboth
    omega
  rw [(byteSize_eq_zero_iff after).mp hnone, List.append_nil] at htext
  exact htext.symm

/-- A kept stretch begins where the bits before it end. -/
theorem Tiles.kept_start {span : Span} (h : Tiles text stop 0 (left ++ .kept span :: right)) :
    byteSize (olds (cells text left)) = span.start := by
  obtain ⟨middle, hleft, hright⟩ := tiles_append.mp h
  have hfront : text = [] ++ text := rfl
  obtain ⟨-, -, hsize⟩ := hleft.exists_rest hfront rfl
  obtain ⟨hstart, -⟩ := hright
  omega

/-! ## Copies -/

/-- The places in the new text of a stretch of the old one; the bits are written from byte `place` on. -/
def copiesFrom (text : List Char) (span : Span) : Nat → List Bit → List Span
  | _, [] => []
  | place, bit :: bits =>
    (match bit.copied? with
      | some stretch =>
        if span.Within stretch then
          [⟨place + (span.start - stretch.start), place + (span.stop - stretch.start)⟩]
        else []
      | none => []) ++
    copiesFrom text span (place + byteSize (bit.written text)) bits

theorem mem_copiesFrom_iff {span copy : Span} {place : Nat} :
    copy ∈ copiesFrom text span place bits ↔ ∃ left bit right stretch, bits = left ++ bit :: right ∧
      bit.copied? = some stretch ∧ span.Within stretch ∧
      copy = ⟨place + byteSize (written text left) + (span.start - stretch.start),
        place + byteSize (written text left) + (span.stop - stretch.start)⟩ := by
  induction bits generalizing place with
  | nil => simp [copiesFrom]
  | cons bit bits ih =>
    have hsize : ∀ left, place + byteSize (written text (bit :: left)) =
        place + byteSize (bit.written text) + byteSize (written text left) := by
      intro left
      rw [written_cons, byteSize_append, Nat.add_assoc]
    rw [copiesFrom, List.mem_append]
    constructor
    · rintro (hhere | hlater)
      · split at hhere
        case h_1 stretch hcopied =>
          split at hhere
          case isTrue hwithin =>
            exact ⟨[], bit, bits, stretch, rfl, hcopied, hwithin, List.mem_singleton.mp hhere⟩
          case isFalse => cases hhere
        case h_2 => cases hhere
      · obtain ⟨left, bit', right, stretch, rfl, hcopied, hwithin, rfl⟩ := ih.mp hlater
        exact ⟨bit :: left, bit', right, stretch, rfl, hcopied, hwithin, by rw [hsize]⟩
    · rintro ⟨left, bit', right, stretch, heq, hcopied, hwithin, rfl⟩
      cases left with
      | nil =>
        obtain ⟨rfl, rfl⟩ := List.cons.inj heq
        left
        rw [hcopied]
        simp [hwithin, byteSize]
      | cons first left =>
        obtain ⟨rfl, rfl⟩ := List.cons.inj heq
        right
        exact ih.mpr ⟨left, bit', right, stretch, rfl, hcopied, hwithin, by rw [hsize]⟩

/-- What a span covers inside another one stands in what that one covers. -/
theorem exists_slice_within {outer inner : Span} {around chars : List Char}
    (houter : sliceChars? text outer = some around) (hinner : sliceChars? text inner = some chars)
    (hwithin : inner.Within outer) :
    ∃ front back, around = front ++ chars ++ back ∧ outer.start + byteSize front = inner.start := by
  obtain ⟨hstart, hstop⟩ := hwithin
  obtain ⟨before, after, rfl, hbefore, haround⟩ := (sliceChars?_eq_some_iff ..).mp houter
  obtain ⟨lead, trail, htext, hlead, hchars⟩ := (sliceChars?_eq_some_iff ..).mp hinner
  rw [List.append_assoc, List.append_assoc lead] at htext
  obtain ⟨front, rfl, htail⟩ := eq_append_of_byteSize_le htext (by omega)
  rw [byteSize_append] at hlead
  rw [← List.append_assoc] at htail
  obtain ⟨back, rfl, -⟩ := eq_append_of_byteSize_le htail.symm (by
    rw [byteSize_append]
    omega)
  exact ⟨front, back, rfl, by omega⟩

section Kept

variable {span stretch : Span} {c : Char} {cs : List Char}
  (htiles : Tiles text (byteSize text) 0 (left ++ .kept stretch :: right))
  (hwithin : span.Within stretch) (hchars : sliceChars? text span = some (c :: cs))

include htiles hwithin hchars

theorem Tiles.exists_kept : ∃ front back, textAt text stretch = front ++ c :: cs ++ back ∧
    stretch.start + byteSize front = span.start ∧ span.start + byteSize (c :: cs) = span.stop := by
  obtain ⟨middle, -, -, hfits, -⟩ := tiles_append.mp htiles
  obtain ⟨around, haround⟩ := Option.isSome_iff_exists.mp hfits
  obtain ⟨front, back, rfl, hfront⟩ := exists_slice_within haround hchars hwithin
  obtain ⟨-, -, -, -, hstop⟩ := (sliceChars?_eq_some_iff ..).mp hchars
  exact ⟨front, back, by rw [textAt, haround]; rfl, hfront, hstop⟩

/-- What is kept begins at a spot of both texts. -/
theorem Tiles.spot (hc : isBlank c = false) :
    Spot (cells text (left ++ .kept stretch :: right)) span.start
      (byteSize (written text left) + (span.start - stretch.start)) := by
  obtain ⟨front, back, hstretch, hfront, -⟩ := htiles.exists_kept hwithin hchars
  have hleft := htiles.kept_start
  refine ⟨cells text left, front, c, cs ++ back, cells text right, ?_, ?_, ?_, hc⟩
  · simp [cells, Bit.cell, hstretch]
  · rw [byteSize_append]
    omega
  · rw [byteSize_append, news_cells]
    omega

/-- What is kept goes over as many lines as before. -/
theorem Tiles.lines_of_kept (hlast : (c :: cs).getLast? ≠ some '\r') :
    lineAt text span.stop + lineAt (written text (left ++ .kept stretch :: right))
        (byteSize (written text left) + (span.start - stretch.start)) =
      lineAt text span.start + lineAt (written text (left ++ .kept stretch :: right))
        (byteSize (written text left) + (span.stop - stretch.start)) := by
  obtain ⟨front, back, hstretch, hfront, hstop⟩ := htiles.exists_kept hwithin hchars
  have hleft := htiles.kept_start
  have hold : text = (olds (cells text left) ++ front) ++ ((c :: cs) ++ (back ++ olds (cells text right))) := by
    have hall := htiles.olds_eq
    simp only [cells, List.map_append, List.map_cons, olds_append, olds_cons, Bit.cell, Cell.old,
      hstretch] at hall
    exact hall.symm.trans (by simp [cells])
  have hnew : written text (left ++ .kept stretch :: right) =
      (written text left ++ front) ++ ((c :: cs) ++ (back ++ written text right)) := by
    simp [Bit.written, hstretch]
  have hends : lineEnds (c :: cs) (back ++ olds (cells text right)) =
      lineEnds (c :: cs) (back ++ written text right) :=
    lineEnds_congr (fun h => absurd h hlast) fun h => absurd h hlast
  -- in either text the lines are counted up to the first character and from there to the last
  have hcount : ∀ front rest, lineAt (front ++ ((c :: cs) ++ rest)) (byteSize front + byteSize (c :: cs)) =
      lineAt (front ++ ((c :: cs) ++ rest)) (byteSize front) + lineEnds (c :: cs) rest := by
    intro front rest
    have hfirst := lineAt_append front ((c :: cs) ++ rest)
    have hsecond := lineAt_append (front ++ (c :: cs)) rest
    rw [lineEnds_append, List.append_assoc, byteSize_append] at hsecond
    omega
  have hcountOld := hcount (olds (cells text left) ++ front) (back ++ olds (cells text right))
  have hcountNew := hcount (written text left ++ front) (back ++ written text right)
  rw [← hold, byteSize_append, show byteSize (olds (cells text left)) + byteSize front = span.start by omega,
    show span.start + byteSize (c :: cs) = span.stop by omega] at hcountOld
  rw [← hnew, byteSize_append] at hcountNew
  rw [show byteSize (written text left) + (span.start - stretch.start) =
      byteSize (written text left) + byteSize front by omega,
    show byteSize (written text left) + (span.stop - stretch.start) =
      byteSize (written text left) + byteSize front + byteSize (c :: cs) by omega]
  omega

end Kept

/-! ## Firm ends -/

/-- No line end is cut in two where the text is cut at this byte. -/
def CleanCut (text : List Char) (offset : Nat) : Prop :=
  ∀ front back, text = front ++ back → byteSize front = offset → Joins front back

/-- What a bit covers ends where the text can be cut. -/
theorem Tiles.joins_old (h : Tiles text stop cursor (bit :: bits)) (htext : text = front ++ rest)
    (hcursor : byteSize front = cursor) (hclean : ∀ span ∈ bit.covered?, CleanCut text span.stop) :
    Joins (bit.cell text).old (olds (cells text bits)) := by
  obtain ⟨after, rfl, -⟩ := h.exists_rest htext hcursor
  rw [Tiles] at h
  split at h
  case h_1 span hcovered =>
    obtain ⟨hstart, hfits, -⟩ := h
    obtain ⟨chars, hchars⟩ := Option.isSome_iff_exists.mp hfits
    obtain ⟨-, -, -, -, hstop⟩ := (sliceChars?_eq_some_iff ..).mp hchars
    have hold : (bit.cell text).old = chars := by
      rw [Bit.old_cell, hcovered, Option.elim, textAt, hchars]
      rfl
    have hcut := hclean span hcovered (front ++ chars) (olds (cells text bits) ++ after)
      (htext.trans (by rw [← hold]; simp [cells])) (by rw [byteSize_append]; omega)
    rw [hold]
    intro hend hhead
    refine hcut ?_ ?_
    · rw [List.getLast?_append, hend]
      rfl
    · rw [List.head?_append, hhead]
      rfl
  case h_2 hcovered =>
    have hold : (bit.cell text).old = [] := by rw [Bit.old_cell, hcovered, Option.elim]
    rw [hold]
    intro hend
    cases hend

end Tiles

/-- The bits of the exchange are tiles that begin and end where something else does, and what they write has
no line end at its ends. -/
structure Exchange.Firm (text : List Char) (isEnd : Nat → Prop) (x : Exchange) : Prop where
  tiles : Tiles text x.span.stop x.span.start x.bits
  front : isEnd x.span.start
  ends : ∀ bit ∈ x.bits, ∀ span ∈ bit.covered?, isEnd span.stop
  closed : ∀ bit ∈ x.bits, (bit.written text).getLast? ≠ some '\r'
  begins : ∃ c rest, written text x.bits = c :: rest ∧ isBlank c = false

/-- The semicolon in front covers nothing. -/
theorem Tiles.bits {text : List Char} {stop cursor : Nat} {x : Exchange} (h : Tiles text stop cursor x.phrase) :
    Tiles text stop cursor x.bits := by
  unfold Exchange.bits
  split
  · exact h
  · exact h

section Layout

variable {text front rest done : List Char} {stop middle cursor : Nat} {bits others : List Bit}
  {xs : List Exchange} {isEnd : Nat → Prop}

/-- Exchanges in place leave tiles between them. -/
theorem tiles_layout (hplace : Edit.InPlace cursor rest (xs.map (Exchange.edit text)))
    (htext : text = done ++ rest) (hcursor : byteSize done = cursor) (hfirm : ∀ x ∈ xs, x.Firm text isEnd) :
    Tiles text (byteSize text) cursor (layout (byteSize text) cursor xs) := by
  -- on the exchanges, with the text that is done growing by the gap and by what the first one covers
  induction xs generalizing cursor rest done with
  | nil =>
    have hslice : sliceChars? text ⟨cursor, byteSize text⟩ = some rest :=
      (sliceChars?_eq_some_iff ..).mpr ⟨done, [], by rw [htext, List.append_nil], hcursor, by
        show cursor + byteSize rest = byteSize text
        rw [htext, byteSize_append, hcursor]⟩
    exact ⟨rfl, by rw [hslice]; rfl, rfl⟩
  | cons x xs ih =>
    obtain ⟨before, covered, after, rfl, hstart, hstop, hbehind⟩ := hplace
    have hstart : cursor + byteSize before = x.span.start := hstart
    have hstop : x.span.start + byteSize covered = x.span.stop := hstop
    have hslice : sliceChars? text ⟨cursor, x.span.start⟩ = some before :=
      (sliceChars?_eq_some_iff ..).mpr ⟨done, covered ++ after, by simp [htext], hcursor, hstart⟩
    refine ⟨rfl, by rw [hslice]; rfl, tiles_append.mpr ⟨x.span.stop, ?_, ?_⟩⟩
    · exact (hfirm x List.mem_cons_self).tiles
    · have htext' : text = (done ++ before ++ covered) ++ after := by simp [htext]
      refine ih hbehind htext' ?_ fun y hy => hfirm y (List.mem_cons_of_mem _ hy)
      simp only [byteSize_append]
      omega

/-- What the bits of a text cover ends at its end or where the bits of an exchange do. -/
theorem isEnd_of_mem_layout (hfirm : ∀ x ∈ xs, x.Firm text isEnd) {bit : Bit}
    (hbit : bit ∈ layout stop cursor xs) {span : Span} (hspan : span ∈ bit.covered?) :
    span.stop = stop ∨ isEnd span.stop := by
  induction xs generalizing cursor with
  | nil =>
    obtain rfl := List.mem_singleton.mp hbit
    obtain rfl := Option.some.inj hspan
    exact .inl rfl
  | cons x xs ih =>
    have hx := hfirm x List.mem_cons_self
    simp only [layout, List.mem_cons, List.mem_append] at hbit
    rcases hbit with rfl | hbit | hbit
    · obtain rfl := Option.some.inj hspan
      exact .inr hx.front
    · exact .inr (hx.ends bit hbit span hspan)
    · exact ih (fun y hy => hfirm y (List.mem_cons_of_mem _ hy)) hbit

/-- Only an exchange leaves something out. -/
theorem exists_exchange_of_dropped_mem_layout {span : Span} (h : .dropped span ∈ layout stop cursor xs) :
    ∃ x ∈ xs, .dropped span ∈ x.bits := by
  induction xs generalizing cursor with
  | nil => simp [layout] at h
  | cons x xs ih =>
    simp only [layout, List.mem_cons, List.mem_append, reduceCtorEq, false_or] at h
    rcases h with h | h
    · exact ⟨x, List.mem_cons_self, h⟩
    · obtain ⟨y, hy, hdropped⟩ := ih h
      exact ⟨y, List.mem_cons_of_mem _ hy, hdropped⟩

/-- Bits with firm ends can be put in front of others. -/
theorem smooth_append (htiles : Tiles text stop cursor (bits ++ others)) (htext : text = front ++ rest)
    (hcursor : byteSize front = cursor)
    (hclean : ∀ bit ∈ bits, ∀ span ∈ bit.covered?, CleanCut text span.stop)
    (hclosed : ∀ bit ∈ bits, (bit.written text).getLast? ≠ some '\r')
    (hothers : Smooth (cells text others)) : Smooth (cells text (bits ++ others)) := by
  induction bits generalizing cursor front rest with
  | nil => exact hothers
  | cons bit bits ih =>
    have hold := htiles.joins_old htext hcursor (hclean bit List.mem_cons_self)
    -- in the old text a line end is cut nowhere, in the new one a bit ends in none
    have hnew : Joins (bit.cell text).new (news (cells text (bits ++ others))) := by
      rw [Bit.new_cell]
      exact fun hend => absurd hend (hclosed bit List.mem_cons_self)
    refine ⟨⟨hold, hnew⟩, ?_⟩
    have hbits := fun other hother => hclean other (List.mem_cons_of_mem bit hother)
    have hbits' := fun other hother => hclosed other (List.mem_cons_of_mem bit hother)
    rw [List.cons_append, Tiles] at htiles
    split at htiles
    case h_1 span hcovered =>
      obtain ⟨hstart, hfits, hrest⟩ := htiles
      obtain ⟨chars, hchars⟩ := Option.isSome_iff_exists.mp hfits
      obtain ⟨before, behind, hsplit, hbefore, hstop⟩ := (sliceChars?_eq_some_iff ..).mp hchars
      exact ih hrest hsplit (by rw [byteSize_append]; omega) hbits hbits'
    case h_2 => exact ih htiles htext hcursor hbits hbits'

/-- No line end is cut in two in a text with firm exchanges made in it. -/
theorem smooth_layout (htiles : Tiles text (byteSize text) cursor (layout (byteSize text) cursor xs))
    (htext : text = front ++ rest) (hcursor : byteSize front = cursor)
    (hfirm : ∀ x ∈ xs, x.Firm text isEnd) (hclean : ∀ offset, isEnd offset → CleanCut text offset) :
    Smooth (cells text (layout (byteSize text) cursor xs)) := by
  induction xs generalizing cursor front rest with
  | nil => exact ⟨⟨nofun, nofun⟩, trivial⟩
  | cons x xs ih =>
    have hx := hfirm x List.mem_cons_self
    have hold := htiles.joins_old htext hcursor fun span hspan => by
      obtain rfl := Option.some.inj hspan
      exact hclean _ hx.front
    have hnew : Joins (textAt text ⟨cursor, x.span.start⟩)
        (news (cells text (x.bits ++ layout (byteSize text) x.span.stop xs))) := by
      obtain ⟨c, rest, hbegin, hc⟩ := hx.begins
      rw [news_cells, written_append, hbegin]
      exact joins_of_not_blank hc
    obtain ⟨-, hfits, hbits⟩ := htiles
    obtain ⟨gap, hgap⟩ := Option.isSome_iff_exists.mp hfits
    obtain ⟨before, behind, hsplit, hbefore, hstop⟩ := (sliceChars?_eq_some_iff ..).mp hgap
    have hstart : byteSize (before ++ gap) = x.span.start := by
      rw [byteSize_append]
      exact (congrArg (· + byteSize gap) hbefore).trans hstop
    refine ⟨⟨hold, hnew⟩, smooth_append hbits hsplit hstart
      (fun bit hbit span hspan => hclean _ (hx.ends bit hbit span hspan)) hx.closed ?_⟩
    -- the rest of the text begins where the bits of the exchange end
    obtain ⟨middle, hinside, hothers⟩ : ∃ middle, Tiles text middle x.span.start x.bits ∧
        Tiles text (byteSize text) middle (layout (byteSize text) x.span.stop xs) := tiles_append.mp hbits
    obtain ⟨after, rfl, hend⟩ := hx.tiles.exists_rest hsplit hstart
    obtain ⟨-, -, hend'⟩ := hinside.exists_rest hsplit hstart
    obtain rfl : middle = x.span.stop := by omega
    have htext' : text = (before ++ gap ++ olds (cells text x.bits)) ++ after := hsplit.trans (by simp)
    refine ih hothers htext' ?_ fun y hy => hfirm y (List.mem_cons_of_mem _ hy)
    rw [byteSize_append, hstart]
    exact hend

end Layout

end MapLint

namespace MapLint.Lint

open MapLint.Script

section Firm

variable {text : List Char} {e call : Expr} {bits : List Bit} {rank : Rank}

/-! ## Ends of expressions -/

theorem WrittenAt.exists_chars (h : WrittenAt text e) :
    ∃ c cs, sliceChars? text e.span = some (c :: cs) ∧ isBlank c = false := by
  obtain ⟨c, hc, hblank, -⟩ := h.first
  obtain ⟨cs, hslice⟩ := exists_slice_of_mem_head? hc
  exact ⟨c, cs, hslice, hblank⟩

theorem WrittenAt.cleanCut_start (h : WrittenAt text e) : CleanCut text e.span.start := by
  intro front back htext hfront
  obtain ⟨c, cs, hslice, hc⟩ := h.exists_chars
  obtain ⟨before, after, hsplit, hbefore, -⟩ := (sliceChars?_eq_some_iff ..).mp hslice
  rw [List.append_assoc] at hsplit
  obtain ⟨-, rfl⟩ := append_inj_of_byteSize_eq (htext.symm.trans hsplit) (hfront.trans hbefore.symm)
  exact joins_of_not_blank hc

theorem WrittenAt.not_return (h : WrittenAt text e) : (textAt text e.span).getLast? ≠ some '\r' := by
  intro hend
  obtain ⟨d, hd, hblank⟩ := h.last
  rw [hend] at hd
  obtain rfl := Option.some.inj hd
  cases hblank

theorem WrittenAt.cleanCut_stop (h : WrittenAt text e) : CleanCut text e.span.stop := by
  intro front back htext hfront hend
  obtain ⟨c, cs, hslice, -⟩ := h.exists_chars
  obtain ⟨before, after, hsplit, hbefore, hstop⟩ := (sliceChars?_eq_some_iff ..).mp hslice
  have hsize : byteSize front = byteSize (before ++ c :: cs) := by
    rw [byteSize_append]
    omega
  obtain ⟨rfl, -⟩ := append_inj_of_byteSize_eq (htext.symm.trans hsplit) hsize
  refine absurd ?_ h.not_return
  rw [textAt, hslice]
  simpa [List.getLast?_append] using hend

/-- The text can be cut at this byte. -/
def Cut (text : List Char) (offset : Nat) : Prop := ∃ front back, text = front ++ back ∧ byteSize front = offset

theorem Cut.slice_isSome {a b : Nat} (h : Cut text a) (h' : Cut text b) (hle : a ≤ b) :
    (sliceChars? text ⟨a, b⟩).isSome = true := by
  obtain ⟨front, back, rfl, rfl⟩ := h
  obtain ⟨front', back', htext, rfl⟩ := h'
  obtain ⟨between, rfl, rfl⟩ := eq_append_of_byteSize_le htext hle
  have hslice : sliceChars? (front ++ (between ++ back')) ⟨byteSize front, byteSize (front ++ between)⟩ =
      some between :=
    (sliceChars?_eq_some_iff ..).mpr ⟨front, back', by simp, rfl, by simp⟩
  rw [hslice]
  rfl

theorem WrittenAt.cuts (h : WrittenAt text e) : Cut text e.span.start ∧ Cut text e.span.stop := by
  obtain ⟨c, cs, hslice, -⟩ := h.exists_chars
  obtain ⟨before, after, rfl, hbefore, hstop⟩ := (sliceChars?_eq_some_iff ..).mp hslice
  refine ⟨⟨before, c :: cs ++ after, by simp, hbefore⟩, ⟨before ++ c :: cs, after, by simp, ?_⟩⟩
  rw [byteSize_append]
  omega

/-! ## Exchanges with firm ends -/

/-- No piece of a phrase ends in a carriage return. -/
theorem Phrase.not_return (h : Phrase call rank bits)
    (hwritten : ∀ e ∈ call :: callArguments call, WrittenAt text e) :
    ∀ bit ∈ bits, (bit.written text).getLast? ≠ some '\r' := by
  have hword : ∀ word : List Char, (∀ c ∈ word, c.isAlpha = true) → word.getLast? ≠ some '\r' := by
    intro word hword hend
    exact absurd (hword '\r' (List.mem_of_getLast? hend)) (by decide)
  have hown : ∀ chars : List Char, chars.getLast? ≠ some '\r' →
      ((Bit.own chars).written text).getLast? ≠ some '\r' := fun _ h => h
  induction h with
  | part he hcopies =>
    intro bit hbit
    obtain rfl := List.mem_singleton.mp hbit
    rw [Copies.written_eq hcopies]
    exact (hwritten _ he).not_return
  | name hletters =>
    intro bit hbit
    obtain rfl := List.mem_singleton.mp hbit
    exact hword _ hletters.2
  | parens _ ih =>
    simp only [List.cons_append, List.forall_mem_cons, List.forall_mem_append]
    exact ⟨hown _ (by decide), ih, hown _ (by decide), nofun⟩
  | @property bits word _ hletters ih =>
    simp only [List.forall_mem_append, List.forall_mem_singleton]
    refine ⟨ih, fun hend => ?_⟩
    obtain ⟨c, cs, rfl⟩ := List.exists_cons_of_ne_nil hletters.1
    exact hword _ hletters.2 ((List.getLast?_cons_cons ..).symm.trans hend)
  | apply _ _ ih ih' =>
    simp only [List.forall_mem_cons, List.forall_mem_append]
    exact ⟨⟨ih, hown _ (by decide), ih'⟩, hown _ (by decide), nofun⟩
  | choice _ _ _ ih ih' ih'' =>
    simp only [List.forall_mem_cons, List.forall_mem_append]
    exact ⟨⟨ih, hown _ (by decide), ih'⟩, hown _ (by decide), ih''⟩
  | gap _ ih =>
    simp only [List.forall_mem_cons, List.forall_mem_append] at ih ⊢
    exact ⟨ih.1, nofun, ih.2⟩

theorem isBlank_of_isAlpha {c : Char} (h : c.isAlpha = true) : isBlank c = false := by
  have hrange : 65 ≤ c.toNat ∧ c.toNat ≤ 122 := by
    rcases Bool.or_eq_true_iff.mp h with hupper | hlower
    · have hbounds : 65 ≤ c.toNat ∧ c.toNat ≤ 90 := of_decide_eq_true hupper
      omega
    · obtain ⟨hlow, hhigh⟩ := Bool.and_eq_true_iff.mp hlower
      have hlow : 97 ≤ c.toNat := of_decide_eq_true hlow
      have hhigh : c.toNat ≤ 122 := of_decide_eq_true hhigh
      omega
  unfold isBlank
  simp
  omega

/-- A phrase begins with a character that is not blank. -/
theorem Opens.exists_not_blank {continues : Bool} {bit : Bit} (h : Opens call continues bit)
    (hwritten : ∀ e ∈ callArguments call, WrittenAt text e) :
    ∃ c rest, bit.written text = c :: rest ∧ isBlank c = false := by
  have hargument : ∀ e ∈ callArguments call, bit.Copies e.span →
      ∃ c rest, bit.written text = c :: rest ∧ isBlank c = false := by
    intro e he hcopies
    obtain ⟨c, cs, hslice, hc⟩ := (hwritten e he).exists_chars
    exact ⟨c, cs, by rw [Copies.written_eq hcopies, textAt, hslice]; rfl, hc⟩
  cases h with
  | word hword =>
    obtain ⟨c, rest, rfl⟩ := List.exists_cons_of_ne_nil hword.1
    exact ⟨c, rest, rfl, isBlank_of_isAlpha (hword.2 c List.mem_cons_self)⟩
  | parenthesis => exact ⟨'(', [], rfl, rfl⟩
  | ident he hcopies => exact hargument _ he hcopies
  | array he hcopies => exact hargument _ he hcopies
  | paren he hcopies => exact hargument _ he hcopies

variable {read : ScriptReader} {dialect : Dialect} {parsed : Parsed} {strictness : Strictness}
  {site : CallSite} {state : PassState} {finding : Finding} {x : Exchange}

/-- A call of the tree and its arguments are written in the text. -/
theorem PlacesExpressions.written (hread : PlacesExpressions read) (htext : Unmarked text)
    (hparsed : read dialect text = .ok parsed) {part : Part} (hpart : part ∈ parsed.program.tree)
    (hnode : part.node = .expr call) :
    ∀ e ∈ call :: callArguments call, WrittenAt text e := by
  refine List.forall_mem_cons.mpr ⟨hread _ _ _ htext hparsed part hpart call (Node.mem_expr?_of_eq hnode), ?_⟩
  intro e he
  obtain ⟨inner, hinner, hexpr⟩ := exists_argument_mem_tree hpart hnode he
  exact hread _ _ _ htext hparsed inner hinner e (Node.mem_expr?_of_eq hexpr)

/-- The bits in the place of a call cover it, if its arguments stand in it one behind the other. -/
theorem tiles_phraseFor {sequence callback : Argument} (action : FixAction)
    (horder : [site.span.start, sequence.span.start, sequence.span.stop, callback.span.start,
      callback.span.stop, site.span.stop].Pairwise (· ≤ ·))
    (hcuts : ∀ span ∈ [site.span, sequence.span, callback.span], Cut text span.start ∧ Cut text span.stop) :
    Tiles text site.span.stop site.span.start (phraseFor site sequence callback action) := by
  simp only [List.pairwise_cons, List.forall_mem_cons] at horder
  simp only [List.forall_mem_cons] at hcuts
  obtain ⟨⟨hcallStart, hcallStop⟩, ⟨hseqStart, hseqStop⟩, ⟨hbackStart, hbackStop⟩, -⟩ := hcuts
  have hmethod : Tiles text site.span.stop site.span.start (methodBits sequence.memberSafe
      [.dropped ⟨site.span.start, sequence.span.start⟩, .kept sequence.span,
        .dropped ⟨sequence.span.stop, callback.span.start⟩]
      [.kept callback.span, .dropped ⟨callback.span.stop, site.span.stop⟩]) := by
    have hpieces := And.intro (hcallStart.slice_isSome hseqStart (by omega)) <|
      And.intro (hseqStart.slice_isSome hseqStop (by omega)) <|
      And.intro (hseqStop.slice_isSome hbackStart (by omega)) <|
      And.intro (hbackStart.slice_isSome hbackStop (by omega)) (hbackStop.slice_isSome hcallStop (by omega))
    cases hsafe : sequence.memberSafe <;> simp [methodBits, Tiles, Bit.covered?, hpieces]
  have hle : site.span.start ≤ site.span.stop := by omega
  have hwhole : (sliceChars? text site.span).isSome := hcallStart.slice_isSome hcallStop hle
  cases action with
  | guarded =>
    by_cases hposition : site.position = .operand <;> cases hsafe : sequence.memberSafe <;>
      simp [phraseFor, choiceBits, methodBits, hposition, hsafe, Tiles, Bit.covered?, hwhole]
  | none => exact hmethod
  | unconditional => exact hmethod

/-- What the bits in the place of a call cover ends at an end of the call or of an argument. -/
theorem stop_of_mem_phraseFor {sequence callback : Argument} (action : FixAction) :
    ∀ bit ∈ phraseFor site sequence callback action, ∀ span ∈ bit.covered?,
      span.stop ∈ [sequence.span.start, sequence.span.stop, callback.span.start, callback.span.stop,
        site.span.stop] := by
  have hmethod : ∀ bit ∈ methodBits sequence.memberSafe
      [.dropped ⟨site.span.start, sequence.span.start⟩, .kept sequence.span,
        .dropped ⟨sequence.span.stop, callback.span.start⟩]
      [.kept callback.span, .dropped ⟨callback.span.stop, site.span.stop⟩],
      ∀ span ∈ bit.covered?, span.stop ∈ [sequence.span.start, sequence.span.stop, callback.span.start,
        callback.span.stop, site.span.stop] := by
    cases hsafe : sequence.memberSafe <;> simp [methodBits, Bit.covered?]
  cases action with
  | guarded =>
    by_cases hposition : site.position = .operand <;> cases hsafe : sequence.memberSafe <;>
      simp [phraseFor, choiceBits, methodBits, hposition, hsafe, Bit.covered?]
  | none => exact hmethod
  | unconditional => exact hmethod

/-- An exchange leaves out what stands around the arguments of its call. -/
theorem dropped_mem_phraseFor {sequence callback : Argument} {action : FixAction} {span : Span}
    (h : .dropped span ∈ phraseFor site sequence callback action) :
    span = ⟨site.span.start, sequence.span.start⟩ ∨ span = ⟨sequence.span.stop, callback.span.start⟩ ∨
      span = ⟨callback.span.stop, site.span.stop⟩ := by
  cases action with
  | guarded =>
    by_cases hposition : site.position = .operand <;> cases hsafe : sequence.memberSafe <;>
      simp [phraseFor, choiceBits, methodBits, hposition, hsafe] at h
  | none => cases hsafe : sequence.memberSafe <;> simpa [phraseFor, methodBits, hsafe] using h
  | unconditional => cases hsafe : sequence.memberSafe <;> simpa [phraseFor, methodBits, hsafe] using h

/-- What an exchange leaves out is in the call and in none of its arguments. -/
theorem within_of_dropped_mem_phraseFor {sequence callback : Argument} {action : FixAction} {span inner : Span}
    (h : .dropped span ∈ phraseFor site sequence callback action)
    (horder : [site.span.start, sequence.span.start, sequence.span.stop, callback.span.start,
      callback.span.stop, site.span.stop].Pairwise (· ≤ ·))
    (hinner : inner.Within span) (hroom : inner.start < inner.stop) :
    inner.Within site.span ∧ ¬ inner.Within sequence.span ∧ ¬ inner.Within callback.span := by
  simp only [List.pairwise_cons, List.forall_mem_cons] at horder
  unfold Span.Within at hinner ⊢
  rcases dropped_mem_phraseFor h with rfl | rfl | rfl <;> dsimp only at hinner <;> omega

/-- Two arguments of a call follow each other in there. -/
theorem WrittenAt.inTurn {first second : Expr} (h : WrittenAt text call)
    (hexprs : callArguments call = [first, second]) :
    [call.span.start, first.span.start, first.span.stop, second.span.start, second.span.stop,
      call.span.stop].Pairwise (· ≤ ·) := by
  have harguments := h.arguments
  rw [hexprs] at harguments
  exact harguments

/-- At this byte an expression of the program begins or ends. -/
def IsEnd (p : Program) (offset : Nat) : Prop :=
  ∃ part ∈ p.tree, ∃ e ∈ part.node.expr?, offset = e.span.start ∨ offset = e.span.stop

theorem isEnd_of_mem_tree {p : Program} {part : Part} (hpart : part ∈ p.tree) (hnode : part.node = .expr e) :
    IsEnd p e.span.start ∧ IsEnd p e.span.stop :=
  ⟨⟨part, hpart, e, Node.mem_expr?_of_eq hnode, .inl rfl⟩,
    part, hpart, e, Node.mem_expr?_of_eq hnode, .inr rfl⟩

theorem IsEnd.cleanCut (hread : PlacesExpressions read) (htext : Unmarked text)
    (hparsed : read dialect text = .ok parsed) {offset : Nat} (h : IsEnd parsed.program offset) :
    CleanCut text offset := by
  obtain ⟨part, hpart, e, he, rfl | rfl⟩ := h
  · exact (hread _ _ _ htext hparsed part hpart e he).cleanCut_start
  · exact (hread _ _ _ htext hparsed part hpart e he).cleanCut_stop

/-- A recorded call calls the method that is recorded. -/
theorem Recorded.isCallOf {p : Program} {trail : List Part} (h : Recorded p trail call site) :
    (Node.expr call).IsCallOf site := by
  obtain ⟨-, last, -, hnode, hown⟩ := h
  obtain ⟨span, callee, args, types, hnode', -, -⟩ := call_mem_ownEvents hown
  obtain rfl : call = .call span callee args types := Node.expr.inj (hnode.symm.trans hnode')
  simp only [Part.ownEvents, hnode, callEvent] at hown
  split at hown
  case h_1 memberSpan objectSpan receiver method methodSpan =>
    cases List.mem_singleton.mp hown
    exact ⟨memberSpan, objectSpan, args, types, rfl⟩
  case h_2 => cases hown

theorem span_of_isCallOf (h : (Node.expr call).IsCallOf site) : call.span = site.span := by
  obtain ⟨memberSpan, objectSpan, args, types, hcall⟩ := h
  rw [Node.expr.inj hcall]
  rfl

/-- The call that an exchange is made for, with its two arguments. -/
theorem exists_call_of_exchange? {p : Program} (hsite : Event.call site ∈ programEvents p)
    (hx : exchange? strictness text site = some x) :
    ∃ sequence callback semicolon,
      x = ⟨site.span, semicolon,
        phraseFor site sequence callback (classify strictness sequence callback).action⟩ ∧
      ∃ part ∈ p.tree, ∃ call first second, part.node = .expr call ∧ (Node.expr call).IsCallOf site ∧
        callArguments call = [first, second] ∧ sequence.span = first.span ∧ callback.span = second.span := by
  obtain ⟨trail, call, hcall⟩ := call_mem_programEvents_iff.mp hsite
  obtain ⟨last, hlast, hnode, -⟩ := hcall.atEnd
  unfold exchange? at hx
  split at hx
  case h_2 => cases hx
  case h_1 sequence callback hargs =>
    have harguments := hcall.arguments
    rw [hargs] at harguments
    obtain ⟨first, second, hexprs, hfirst, hsecond⟩ : ∃ first second, callArguments call = [first, second] ∧
        sequence.span = first.span ∧ callback.span = second.span := by
      generalize callArguments call = exprs at harguments ⊢
      cases harguments with
      | @cons first _ _ _ hfirst hrest =>
        cases hrest with
        | @cons second _ _ _ hsecond hnone =>
          cases hnone
          exact ⟨first, second, rfl, hfirst.1, hsecond.1⟩
    exact ⟨sequence, callback, _, (Option.some.inj hx).symm, last,
      mem_tree_iff.mpr ⟨trail, hcall.isTrail, hlast⟩, call, first, second, hnode, hcall.isCallOf, hexprs,
      hfirst, hsecond⟩

/-- No bit of an exchange that keeps to the grammar ends in a carriage return. -/
theorem not_return_of_replaces {p : Program} {continues : Bool} (h : x.Replaces p call continues)
    (hwritten : ∀ e ∈ call :: callArguments call, WrittenAt text e) :
    ∀ bit ∈ x.bits, (bit.written text).getLast? ≠ some '\r' := by
  obtain ⟨-, -, -, -, rank, hphrase, -⟩ := h.place
  intro bit hbit
  rcases Exchange.eq_or_mem_of_mem_bits hbit with rfl | hbit
  · show [';'].getLast? ≠ some '\r'
    decide
  · exact hphrase.not_return hwritten bit hbit

/-- An exchange that keeps to the grammar begins with a character that is not blank. -/
theorem not_blank_of_replaces {p : Program} {continues : Bool} (h : x.Replaces p call continues)
    (hwritten : ∀ e ∈ call :: callArguments call, WrittenAt text e) :
    ∃ c rest, written text x.bits = c :: rest ∧ isBlank c = false := by
  unfold Exchange.bits
  split
  · exact ⟨';', _, rfl, rfl⟩
  · obtain ⟨bit, hfind, hopens⟩ := h.opens
    obtain ⟨rest, hrest⟩ := written_of_find? text hfind
    obtain ⟨c, chars, hchars, hc⟩ := hopens.exists_not_blank fun e he => hwritten e (List.mem_cons_of_mem _ he)
    exact ⟨c, chars ++ rest, by rw [hrest, hchars]; rfl, hc⟩

/-- The exchange for a call that is found has firm ends. -/
theorem firm_of_judge (hread : PlacesExpressions read) (htext : Unmarked text)
    (hparsed : read dialect text = .ok parsed) (hsite : Event.call site ∈ programEvents parsed.program)
    (hjudge : judge strictness text state site = .ok finding)
    (hx : exchange? strictness text site = some x) : x.Firm text (IsEnd parsed.program) := by
  obtain ⟨call', continues, hreplaces⟩ := replaces_of_judge hsite hjudge hx
  obtain ⟨part', hpart', hnode', -⟩ := hreplaces.place
  have hwritten' := hread.written htext hparsed hpart' hnode'
  have hclosed := not_return_of_replaces hreplaces hwritten'
  have hbegins := not_blank_of_replaces hreplaces hwritten'
  obtain ⟨sequence, callback, semicolon, rfl, part, hpart, call, first, second, hnode, hcall, hexprs,
    hfirst, hsecond⟩ := exists_call_of_exchange? hsite hx
  have hspan := span_of_isCallOf hcall
  -- the exchange covers the call, and its stretches end where the call or an argument does
  have hwritten := hread.written htext hparsed hpart hnode
  simp only [hexprs, List.forall_mem_cons] at hwritten
  obtain ⟨hcallWritten, hfirstWritten, hsecondWritten, -⟩ := hwritten
  have horder := hcallWritten.inTurn hexprs
  rw [← hfirst, ← hsecond, hspan] at horder
  have hcuts : ∀ span ∈ [site.span, sequence.span, callback.span],
      Cut text span.start ∧ Cut text span.stop := by
    rw [← hspan, hfirst, hsecond]
    simp [hcallWritten.cuts, hfirstWritten.cuts, hsecondWritten.cuts]
  have htiles := tiles_phraseFor (classify strictness sequence callback).action horder hcuts
  have hfirstMem : first ∈ callArguments call := by simp [hexprs]
  have hsecondMem : second ∈ callArguments call := by simp [hexprs]
  obtain ⟨inner, hinner, hfirstNode⟩ := exists_argument_mem_tree hpart hnode hfirstMem
  obtain ⟨inner', hinner', hsecondNode⟩ := exists_argument_mem_tree hpart hnode hsecondMem
  have hcallEnds := isEnd_of_mem_tree hpart hnode
  have hends : ∀ offset ∈ [sequence.span.start, sequence.span.stop, callback.span.start, callback.span.stop,
      site.span.stop], IsEnd parsed.program offset := by
    rw [← hspan, hfirst, hsecond]
    simp [hcallEnds, isEnd_of_mem_tree hinner hfirstNode, isEnd_of_mem_tree hinner' hsecondNode]
  refine ⟨htiles.bits, hspan ▸ hcallEnds.1, fun bit hbit span hcovered => ?_, hclosed, hbegins⟩
  rcases Exchange.eq_or_mem_of_mem_bits hbit with rfl | hbit
  · cases hcovered
  · exact hends _ (stop_of_mem_phraseFor _ bit hbit span hcovered)

end Firm

end MapLint.Lint
