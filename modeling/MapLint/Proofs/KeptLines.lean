import MapLint.Proofs.LinePlaces

/-!
# Lines of a text and of one made from it

Two texts are laid side by side, cut into stretches that are the same in both and stretches that were
changed. What stands in a stretch that is the same has a place in either text. The distance of two such
places in lines changes only where a line end was lost or gained between them.

## Architecture

- `Cell` is a stretch of two texts; `olds` and `news` are the texts, and `Smooth` says that no line end
  is cut in two between the stretches;
- `Spot` is a place that both texts have in common, `Disturbs` a change in which a line end is lost or
  gained, and `disturbances` are all of them;
- `Spot.exists_between` is what stands between two spots, `lineEnds_of_calm` that lines are counted alike
  where nothing disturbs them;
- `Spot.le`, `Spot.lines_eq` and `Spot.line_lt` say what is left of the order and of the distance of two
  spots.
-/

namespace MapLint

/-! ## Line ends of texts put together -/

/-- No line end of the first text is read on into the second one. -/
def Joins (front rest : List Char) : Prop := front.getLast? = some '\r' → rest.head? ≠ some '\n'

/-- There is no line end in the text, nor a part of one. -/
def OneLine (text : List Char) : Prop := ∀ c ∈ text, c ≠ '\n' ∧ c ≠ '\r'

instance (text : List Char) : Decidable (OneLine text) :=
  decidable_of_iff (text.all (fun c => c != '\n' && c != '\r') = true) (by simp [OneLine])

section LineEnds

variable {front middle rest rest' : List Char}

theorem lineEnds_append (front middle rest : List Char) :
    lineEnds (front ++ middle) rest = lineEnds front (middle ++ rest) + lineEnds middle rest := by
  induction front with
  | nil => simp [lineEnds]
  | cons c cs ih => simp only [List.cons_append, lineEnds, ih, List.append_assoc, Nat.add_assoc]

/-- What follows a text matters only to a carriage return at its end. -/
theorem lineEnds_congr (h : Joins front rest) (h' : Joins front rest') :
    lineEnds front rest = lineEnds front rest' := by
  induction front with
  | nil => rfl
  | cons c cs ih =>
    cases cs with
    | nil =>
      by_cases hc : c = '\r'
      · subst hc
        have hrest : rest.head? ≠ some '\n' := h rfl
        have hrest' : rest'.head? ≠ some '\n' := h' rfl
        simp [lineEnds, endsLine, hrest, hrest']
      · simp [lineEnds, endsLine, hc]
    | cons d ds =>
      have hhere : endsLine c (d :: ds ++ rest) = endsLine c (d :: ds ++ rest') := rfl
      have htail : lineEnds (d :: ds) rest = lineEnds (d :: ds) rest' :=
        ih (by simpa [Joins] using h) (by simpa [Joins] using h')
      show (if endsLine c (d :: ds ++ rest) then 1 else 0) + lineEnds (d :: ds) rest = _
      rw [hhere, htail]
      rfl

theorem OneLine.lineEnds_eq_zero (h : OneLine front) : lineEnds front rest = 0 := by
  induction front with
  | nil => rfl
  | cons c cs ih =>
    obtain ⟨hfeed, hreturn⟩ := h c List.mem_cons_self
    have htail := ih fun d hd => h d (List.mem_cons_of_mem _ hd)
    simp [lineEnds, endsLine, hfeed, hreturn, htail]

/-- The number of the line at a cut. -/
theorem lineAt_append (front rest : List Char) :
    lineAt (front ++ rest) (byteSize front) = 1 + lineEnds front rest :=
  (placeAt_cuts front rest).line

end LineEnds

/-! ## Two texts side by side -/

/-- A stretch of two texts. -/
inductive Cell where
  /-- Both have it. -/
  | same (chars : List Char)
  /-- The one has these characters and the other those. -/
  | changed (before after : List Char)

namespace Cell

def old : Cell → List Char
  | same chars => chars
  | changed before _ => before

def new : Cell → List Char
  | same chars => chars
  | changed _ after => after

/-- No line end is lost or gained. -/
def Calm : Cell → Prop
  | same _ => True
  | changed before after => OneLine before ∧ OneLine after

end Cell

def olds (cells : List Cell) : List Char := cells.flatMap Cell.old

def news (cells : List Cell) : List Char := cells.flatMap Cell.new

/-- No line end is cut in two where one stretch ends and the next begins, in either text. -/
def Smooth : List Cell → Prop
  | [] => True
  | cell :: cells => (Joins cell.old (olds cells) ∧ Joins cell.new (news cells)) ∧ Smooth cells

section Cells

variable {cells left right between rest : List Cell} {cell : Cell}

@[simp] theorem olds_nil : olds [] = [] := rfl
@[simp] theorem news_nil : news [] = [] := rfl
@[simp] theorem olds_cons : olds (cell :: cells) = cell.old ++ olds cells := rfl
@[simp] theorem news_cons : news (cell :: cells) = cell.new ++ news cells := rfl
@[simp] theorem olds_append : olds (left ++ right) = olds left ++ olds right := List.flatMap_append
@[simp] theorem news_append : news (left ++ right) = news left ++ news right := List.flatMap_append

theorem Smooth.of_append (h : Smooth (left ++ right)) : Smooth right := by
  induction left with
  | nil => exact h
  | cons cell left ih => exact ih h.2

/-- Where nothing is disturbed, the lines of both texts are counted alike. -/
theorem lineEnds_of_calm (hsmooth : Smooth (between ++ rest)) (hcalm : ∀ cell ∈ between, cell.Calm) :
    lineEnds (olds between) (olds rest) = lineEnds (news between) (news rest) := by
  induction between with
  | nil => rfl
  | cons cell between ih =>
    have hrest := ih hsmooth.2 fun other hother => hcalm other (List.mem_cons_of_mem _ hother)
    have hhere : lineEnds cell.old (olds between ++ olds rest) =
        lineEnds cell.new (news between ++ news rest) := by
      obtain ⟨⟨hold, hnew⟩, -⟩ := hsmooth
      have hold : Joins cell.old (olds between ++ olds rest) := olds_append ▸ hold
      have hnew : Joins cell.new (news between ++ news rest) := news_append ▸ hnew
      cases cell with
      | same chars => exact lineEnds_congr hold hnew
      | changed before after =>
        obtain ⟨hbefore, hafter⟩ := hcalm _ List.mem_cons_self
        exact hbefore.lineEnds_eq_zero.trans hafter.lineEnds_eq_zero.symm
    rw [olds_cons, news_cons, lineEnds_append, lineEnds_append, hhere, hrest]

end Cells

/-! ## Places that both texts have -/

/-- The places of one character in both texts. It stands in a stretch that is the same, and it is not
blank. -/
def Spot (cells : List Cell) (place place' : Nat) : Prop :=
  ∃ left front c back right, cells = left ++ .same (front ++ c :: back) :: right ∧
    place = byteSize (olds left ++ front) ∧ place' = byteSize (news left ++ front) ∧ isBlank c = false

/-- From one byte to the other of the old text a line end is lost or gained. -/
def Disturbs (cells : List Cell) (start stop : Nat) : Prop :=
  ∃ left before after right, cells = left ++ .changed before after :: right ∧
    ¬ (OneLine before ∧ OneLine after) ∧ start = byteSize (olds left) ∧ stop = start + byteSize before

/-- The stretches of the old text in which a line end is lost or gained. -/
def disturbances : (cursor : Nat) → List Cell → List Span
  | _, [] => []
  | cursor, .same chars :: cells => disturbances (cursor + byteSize chars) cells
  | cursor, .changed before after :: cells =>
    (if OneLine before ∧ OneLine after then [] else [⟨cursor, cursor + byteSize before⟩]) ++
      disturbances (cursor + byteSize before) cells

theorem Disturbs.mem_disturbances {cells : List Cell} {start stop : Nat} (h : Disturbs cells start stop) :
    ⟨start, stop⟩ ∈ disturbances 0 cells := by
  obtain ⟨left, before, after, right, rfl, hline, rfl, rfl⟩ := h
  suffices ∀ cursor, ⟨cursor + byteSize (olds left), cursor + byteSize (olds left) + byteSize before⟩ ∈
      disturbances cursor (left ++ .changed before after :: right) by
    simpa using this 0
  induction left with
  | nil => simp [disturbances, hline, byteSize]
  | cons cell left ih =>
    intro cursor
    have hcell := ih (cursor + byteSize cell.old)
    rw [olds_cons, byteSize_append, ← Nat.add_assoc]
    cases cell with
    | same chars => exact hcell
    | changed before' after' => exact List.mem_append_right _ hcell

/-- Nothing is lost or gained between the two bytes. -/
def Undisturbed (cells : List Cell) (start stop : Nat) : Prop :=
  ∀ d ∈ disturbances 0 cells, start ≤ d.start → ¬ d.stop ≤ stop

instance (cells : List Cell) (start stop : Nat) : Decidable (Undisturbed cells start stop) :=
  inferInstanceAs (Decidable (∀ d ∈ disturbances 0 cells, start ≤ d.start → ¬ d.stop ≤ stop))

theorem joins_of_not_blank {front rest : List Char} {c : Char} (hc : isBlank c = false) :
    Joins front (c :: rest) := by
  rintro - hhead
  obtain rfl := Option.some.inj hhead
  cases hc

/-- A stretch that is the same can be cut in front of a character that is not blank. -/
theorem Smooth.cut {left right : List Cell} {front back : List Char} {c : Char}
    (h : Smooth (left ++ .same (front ++ c :: back) :: right)) (hc : isBlank c = false) :
    Smooth (left ++ .same front :: .same (c :: back) :: right) := by
  induction left with
  | nil =>
    obtain ⟨⟨hold, hnew⟩, hrest⟩ := h
    refine ⟨⟨joins_of_not_blank hc, joins_of_not_blank hc⟩, ⟨fun hend => hold ?_, fun hend => hnew ?_⟩, hrest⟩
    · simpa [Cell.old, List.getLast?_append] using hend
    · simpa [Cell.new, List.getLast?_append] using hend
  | cons cell left ih =>
    obtain ⟨⟨hold, hnew⟩, hrest⟩ := h
    refine ⟨⟨?_, ?_⟩, ih hrest⟩
    · simpa [Cell.old] using hold
    · simpa [Cell.new] using hnew

/-- What stands between two spots: cells up to the first, from there to the second, and behind it. -/
structure Between (cells left between rest : List Cell) : Prop where
  old : olds (left ++ between ++ rest) = olds cells
  new : news (left ++ between ++ rest) = news cells
  smooth : Smooth (between ++ rest)
  disturbs : ∀ front before after back, between = front ++ .changed before after :: back →
    ¬ (OneLine before ∧ OneLine after) →
      Disturbs cells (byteSize (olds (left ++ front))) (byteSize (olds (left ++ front)) + byteSize before)

section Spots

variable {cells : List Cell} {o v p w : Nat}

/-- Within one stretch nothing is disturbed. -/
theorem between_of_same {left right : List Cell} {front middle back : List Char} {c : Char}
    (hsmooth : Smooth (left ++ .same (front ++ middle ++ c :: back) :: right)) (hc : isBlank c = false)
    (hmiddle : ∀ d ∈ middle.head?, isBlank d = false) :
    Between (left ++ .same (front ++ middle ++ c :: back) :: right) (left ++ [.same front]) [.same middle]
      (.same (c :: back) :: right) := by
  refine ⟨by simp [Cell.old], by simp [Cell.new], ?_, ?_⟩
  · have hcut := hsmooth.cut hc
    cases middle with
    | nil =>
      rw [List.append_nil] at hcut
      exact ⟨⟨nofun, nofun⟩, (hcut.of_append).2⟩
    | cons d middle => exact ((hcut.cut (hmiddle d rfl)).of_append).2
  · intro outer before after inner heq
    cases outer with
    | nil => cases heq
    | cons first outer => simp at heq

/-- Between spots in two stretches the first one ends, some others follow, and the last one begins. -/
theorem between_of_others {left middle right : List Cell} {front back front' back' : List Char} {c c' : Char}
    (hsmooth : Smooth (left ++ .same (front ++ c :: back) ::
      (middle ++ .same (front' ++ c' :: back') :: right))) (hc : isBlank c = false) (hc' : isBlank c' = false) :
    Between (left ++ .same (front ++ c :: back) :: (middle ++ .same (front' ++ c' :: back') :: right))
      (left ++ [.same front]) (.same (c :: back) :: (middle ++ [.same front']))
      (.same (c' :: back') :: right) := by
  refine ⟨by simp [Cell.old], by simp [Cell.new], ?_, ?_⟩
  · have hsplit : Smooth ((left ++ .same (front ++ c :: back) :: middle) ++
        .same (front' ++ c' :: back') :: right) := by simpa using hsmooth
    have hcut' := hsplit.cut hc'
    rw [List.append_assoc] at hcut'
    have hrest : Smooth ([] ++ .same (front ++ c :: back) ::
        (middle ++ .same front' :: .same (c' :: back') :: right)) := hcut'.of_append
    have hcut := hrest.cut hc
    simpa using hcut.2
  · intro outer before after inner heq hline
    cases outer with
    | nil => cases heq
    | cons first outer =>
      obtain ⟨rfl, hinside⟩ := List.cons.inj heq
      have hinside : middle ++ [.same front'] = outer ++ .changed before after :: inner := hinside
      -- the change is not the last cell, so it is one of those in the middle
      rcases List.eq_nil_or_concat inner with rfl | ⟨inner, last, rfl⟩
      · obtain ⟨-, hlast⟩ := List.append_inj' hinside rfl
        cases hlast
      · obtain ⟨rfl, -⟩ := List.append_inj' (hinside.trans (by simp) :
          middle ++ [.same front'] = (outer ++ .changed before after :: inner) ++ [last]) rfl
        refine ⟨left ++ .same (front ++ c :: back) :: outer, before, after,
          inner ++ .same (front' ++ c' :: back') :: right, by simp, hline, ?_, ?_⟩
        · simp [Cell.old]
        · simp

/-- Of two spots the one that is further in front in the old text comes first in both. -/
theorem Spot.exists_between (hsmooth : Smooth cells) (h : Spot cells o v) (h' : Spot cells p w)
    (hle : o ≤ p) :
    ∃ left between rest, Between cells left between rest ∧
      (o = byteSize (olds left) ∧ v = byteSize (news left)) ∧
      (p = byteSize (olds (left ++ between)) ∧ w = byteSize (news (left ++ between))) := by
  obtain ⟨left, front, c, back, right, hcells, rfl, rfl, hc⟩ := h
  obtain ⟨left', front', c', back', right', hcells', rfl, rfl, hc'⟩ := h'
  -- the stretch of the second spot is not in front of that of the first
  obtain ⟨extra, rfl, htail⟩ : ∃ extra, left' = left ++ extra ∧
      .same (front ++ c :: back) :: right = extra ++ .same (front' ++ c' :: back') :: right' := by
    rcases List.append_eq_append_iff.mp (hcells.symm.trans hcells') with hright | ⟨extra, rfl, htail⟩
    · exact hright
    · cases extra with
      | nil => exact ⟨[], by simp, by simpa using htail.symm⟩
      | cons first extra =>
        exfalso
        obtain ⟨rfl, -⟩ := List.cons.inj htail
        have hpos := c'.utf8Size_pos
        simp only [olds_append, olds_cons, byteSize_append, Cell.old, byteSize] at hle
        omega
  cases extra with
  | nil =>
    simp only [List.nil_append, List.cons.injEq, Cell.same.injEq] at htail
    obtain ⟨hchars, rfl⟩ := htail
    simp only [List.append_nil, byteSize_append] at hle
    obtain ⟨middle, rfl, hback⟩ := eq_append_of_byteSize_le hchars (by omega)
    have hmiddle : ∀ d ∈ middle.head?, isBlank d = false := by
      intro d hd
      obtain ⟨rest, rfl⟩ := List.head?_eq_some_iff.mp hd
      obtain rfl := (List.cons.inj hback).1
      exact hc
    rw [List.append_nil] at hcells'
    subst hcells'
    exact ⟨_, _, _, between_of_same hsmooth hc' hmiddle, by simp [Cell.old, Cell.new],
      by simp [Cell.old, Cell.new]⟩
  | cons first middle =>
    obtain ⟨rfl, rfl⟩ := List.cons.inj htail
    subst hcells
    exact ⟨_, _, _, between_of_others hsmooth hc hc', by simp [Cell.old, Cell.new],
      by simp [Cell.old, Cell.new]⟩

/-! ## The distance of two spots -/

variable {left between rest : List Cell}

theorem lineAt_olds (h : olds (left ++ between ++ rest) = olds cells) :
    lineAt (olds cells) (byteSize (olds (left ++ between))) =
      lineAt (olds cells) (byteSize (olds left)) + lineEnds (olds between) (olds rest) := by
  have hfirst := lineAt_append (olds left) (olds between ++ olds rest)
  have hsecond := lineAt_append (olds left ++ olds between) (olds rest)
  rw [lineEnds_append] at hsecond
  simp only [olds_append, List.append_assoc] at h hfirst hsecond ⊢
  rw [h] at hfirst hsecond
  omega

theorem lineAt_news (h : news (left ++ between ++ rest) = news cells) :
    lineAt (news cells) (byteSize (news (left ++ between))) =
      lineAt (news cells) (byteSize (news left)) + lineEnds (news between) (news rest) := by
  have hfirst := lineAt_append (news left) (news between ++ news rest)
  have hsecond := lineAt_append (news left ++ news between) (news rest)
  rw [lineEnds_append] at hsecond
  simp only [news_append, List.append_assoc] at h hfirst hsecond ⊢
  rw [h] at hfirst hsecond
  omega

/-- All cells are calm, or there is a last one that is not. -/
theorem calm_or_exists_last (cells : List Cell) :
    (∀ cell ∈ cells, cell.Calm) ∨ ∃ front before after back, cells = front ++ .changed before after :: back ∧
      ¬ (OneLine before ∧ OneLine after) ∧ ∀ cell ∈ back, cell.Calm := by
  induction cells with
  | nil => exact .inl nofun
  | cons cell cells ih =>
    rcases ih with hcalm | ⟨front, before, after, back, rfl, hline, hback⟩
    · cases cell with
      | same chars => exact .inl (List.forall_mem_cons.mpr ⟨trivial, hcalm⟩)
      | changed before after =>
        by_cases hline : OneLine before ∧ OneLine after
        · exact .inl (List.forall_mem_cons.mpr ⟨hline, hcalm⟩)
        · exact .inr ⟨[], before, after, cells, rfl, hline, hcalm⟩
    · exact .inr ⟨cell :: front, before, after, back, rfl, hline, hback⟩

/-- Spots come in the same order in both texts. -/
theorem Spot.le (hsmooth : Smooth cells) (h : Spot cells o v) (h' : Spot cells p w) (hle : o ≤ p) :
    v ≤ w := by
  obtain ⟨left, between, rest, -, ⟨-, rfl⟩, -, rfl⟩ := h.exists_between hsmooth h' hle
  rw [news_append, byteSize_append]
  exact Nat.le_add_right _ _

/-- Spots are as many lines apart as they were, if no line end is lost or gained between them. -/
theorem Spot.lines_eq (hsmooth : Smooth cells) (h : Spot cells o v) (h' : Spot cells p w) (hle : o ≤ p)
    (hnone : Undisturbed cells o p) :
    lineAt (olds cells) p + lineAt (news cells) v = lineAt (olds cells) o + lineAt (news cells) w := by
  obtain ⟨left, between, rest, hbetween, ⟨rfl, rfl⟩, rfl, rfl⟩ := h.exists_between hsmooth h' hle
  have hcalm : ∀ cell ∈ between, cell.Calm := by
    rcases calm_or_exists_last between with hcalm | ⟨front, before, after, back, rfl, hline, -⟩
    · exact hcalm
    · exfalso
      refine hnone _ (hbetween.disturbs front before after back rfl hline).mem_disturbances ?_ ?_
      · rw [olds_append, byteSize_append]
        exact Nat.le_add_right _ _
      · simp only [olds_append, olds_cons, byteSize_append, Cell.old]
        omega
  rw [lineAt_olds hbetween.old, lineAt_news hbetween.new, lineEnds_of_calm hbetween.smooth hcalm]
  omega

/-- Spots on two lines stay on two lines, if every line end that is lost or gained between them is further up
than the line of the second one. -/
theorem Spot.line_lt (hsmooth : Smooth cells) (h : Spot cells o v) (h' : Spot cells p w) (hle : o ≤ p)
    (habove : ∀ d ∈ disturbances 0 cells, o ≤ d.start → d.stop ≤ p →
      lineAt (olds cells) d.stop < lineAt (olds cells) p)
    (hlt : lineAt (olds cells) o < lineAt (olds cells) p) : lineAt (news cells) v < lineAt (news cells) w := by
  obtain ⟨left, between, rest, hbetween, ⟨rfl, rfl⟩, rfl, rfl⟩ := h.exists_between hsmooth h' hle
  rcases calm_or_exists_last between with hcalm | ⟨front, before, after, back, rfl, hline, hback⟩
  · rw [lineAt_olds hbetween.old] at hlt
    rw [lineAt_news hbetween.new, ← lineEnds_of_calm hbetween.smooth hcalm]
    omega
  · -- behind the last change the lines are counted alike, and there is still a line end
    let upto := left ++ (front ++ [.changed before after])
    have hcut : left ++ (front ++ .changed before after :: back) = upto ++ back := by simp [upto]
    have hstop : byteSize (olds (left ++ front)) + byteSize before = byteSize (olds upto) := by
      simp [upto, Cell.old, Nat.add_assoc]
    have habove' : lineAt (olds cells) (byteSize (olds (left ++ front)) + byteSize before) <
        lineAt (olds cells) (byteSize (olds (left ++ (front ++ .changed before after :: back)))) :=
      habove _ (hbetween.disturbs front before after back rfl hline).mem_disturbances
        (by rw [olds_append, byteSize_append]; exact Nat.le_add_right _ _)
        (by rw [hstop, hcut, @olds_append upto, byteSize_append]; exact Nat.le_add_right _ _)
    have hold := hbetween.old
    have hnew := hbetween.new
    have hsmooth' : Smooth (back ++ rest) := by
      have hrest := hbetween.smooth
      rw [List.append_assoc] at hrest
      exact hrest.of_append.2
    rw [hstop] at habove'
    rw [hcut] at hold hnew habove' ⊢
    rw [lineAt_olds hold] at habove'
    rw [lineAt_news hnew, ← lineEnds_of_calm hsmooth' hback]
    have hmono : lineAt (news cells) (byteSize (news left)) ≤ lineAt (news cells) (byteSize (news upto)) := by
      refine lineAt_mono _ ?_
      rw [@news_append left, byteSize_append]
      exact Nat.le_add_right _ _
    omega

end Spots

end MapLint
