import MapLint.Proofs.DisabledLines
import MapLint.Proofs.KeptPlaces

/-!
# Calls that stay switched off behind a pass

A pass moves what it keeps, comments and calls alike. A call that a comment switches off is still switched
off behind the pass if the comment is kept and the line ends between the two are. This is said of places in
two texts alone, and it takes nothing of the script but where its tokens stand.

## Architecture

- `IsToken` is a stretch that begins and ends like a token, and `Cuts` says of a byte that it would cut one in
  two;
- `KeptAt` says where a stretch that is kept stands in the new text, and `Tiles.exists_keptAt` that a token is
  kept which is not left out;
- `LinesKept` is what has to become of the line ends around a call, and `switchedOff_of_keptAt` what it is good
  for: the call is on a line that is switched off, as before.
-/

namespace MapLint

/-! ## Tokens that are kept -/

/-- The span covers a text that is not blank at its start and has no line end at its end. -/
structure IsToken (text : List Char) (span : Span) : Prop where
  first : ∃ c ∈ (textAt text span).head?, isBlank c = false
  last : (textAt text span).getLast? ≠ some '\r'

instance (text : List Char) (span : Span) : Decidable (IsToken text span) :=
  decidable_of_iff ((textAt text span).head?.any (fun c => !isBlank c) = true ∧
      (textAt text span).getLast? ≠ some '\r') <| by
    rw [Option.any_eq_true]
    simp only [Bool.not_eq_true']
    exact ⟨fun h => ⟨h.1, h.2⟩, fun h => ⟨h.first, h.last⟩⟩

/-- The offset is inside the span and at none of its ends. -/
def Cuts (offset : Nat) (span : Span) : Prop := span.start < offset ∧ offset < span.stop

instance (offset : Nat) (span : Span) : Decidable (Cuts offset span) :=
  inferInstanceAs (Decidable (span.start < offset ∧ offset < span.stop))

/-- The span stands in a stretch that is kept, and there is its place in the new text. -/
def KeptAt (text : List Char) (bits : List Bit) (span copy : Span) : Prop :=
  ∃ left stretch right, bits = left ++ .kept stretch :: right ∧ span.Within stretch ∧
    copy = ⟨byteSize (written text left) + (span.start - stretch.start),
      byteSize (written text left) + (span.stop - stretch.start)⟩

/-- What the bits leave out of the old text. -/
def leftOut (bits : List Bit) : List Span :=
  bits.filterMap fun
    | .dropped span => some span
    | _ => none

/-- What the bits write besides the place where it is kept. -/
def writtenAgain (bits : List Bit) : List Span :=
  bits.filterMap fun
    | .again span => some span
    | _ => none

section Kept

variable {text : List Char} {bits : List Bit} {span copy : Span} {stop cursor : Nat}

theorem mem_leftOut_iff : span ∈ leftOut bits ↔ .dropped span ∈ bits := by
  rw [leftOut, List.mem_filterMap]
  constructor
  · rintro ⟨bit, hbit, hsome⟩
    cases bit <;> cases hsome
    exact hbit
  · exact fun h => ⟨_, h, rfl⟩

theorem mem_writtenAgain_iff : span ∈ writtenAgain bits ↔ .again span ∈ bits := by
  rw [writtenAgain, List.mem_filterMap]
  constructor
  · rintro ⟨bit, hbit, hsome⟩
    cases bit <;> cases hsome
    exact hbit
  · exact fun h => ⟨_, h, rfl⟩

theorem IsToken.exists_chars (h : IsToken text span) : ∃ c cs, sliceChars? text span = some (c :: cs) ∧
    isBlank c = false ∧ (c :: cs).getLast? ≠ some '\r' := by
  obtain ⟨⟨c, hc, hblank⟩, hlast⟩ := h
  obtain ⟨cs, hslice⟩ := exists_slice_of_mem_head? hc
  rw [textAt, hslice] at hlast
  exact ⟨c, cs, hslice, hblank, hlast⟩

/-- A token takes some room in the text. -/
theorem IsToken.room (h : IsToken text span) : span.start < span.stop ∧ span.stop ≤ byteSize text := by
  obtain ⟨c, cs, hslice, -, -⟩ := h.exists_chars
  obtain ⟨before, after, rfl, hbefore, hstop⟩ := (sliceChars?_eq_some_iff ..).mp hslice
  have hpos := c.utf8Size_pos
  simp only [byteSize_append, byteSize] at hstop ⊢
  omega

theorem KeptAt.mem_copiesFrom (h : KeptAt text bits span copy) : copy ∈ copiesFrom text span 0 bits := by
  obtain ⟨left, stretch, right, rfl, hwithin, rfl⟩ := h
  exact mem_copiesFrom_iff.mpr ⟨left, _, right, stretch, rfl, rfl, hwithin, by simp⟩

/-- A copy is the one that is kept, unless the stretch is written again. -/
theorem keptAt_of_mem_copiesFrom (h : copy ∈ copiesFrom text span 0 bits)
    (honce : ∀ stretch ∈ writtenAgain bits, ¬ span.Within stretch) : KeptAt text bits span copy := by
  obtain ⟨left, bit, right, stretch, rfl, hcopied, hwithin, rfl⟩ := mem_copiesFrom_iff.mp h
  cases bit with
  | kept span' =>
    obtain rfl := Option.some.inj hcopied
    exact ⟨left, span', right, rfl, hwithin, by simp⟩
  | again span' =>
    obtain rfl := Option.some.inj hcopied
    exact absurd hwithin (honce span' (mem_writtenAgain_iff.mpr (by simp)))
  | own chars => cases hcopied
  | dropped span' => cases hcopied

/-- What no end of a stretch cuts in two stands in one of the stretches. -/
theorem Tiles.exists_covering (h : Tiles text stop cursor bits) (hcursor : cursor ≤ span.start)
    (hlt : span.start < span.stop) (hstop : span.stop ≤ stop)
    (hsolid : ∀ bit ∈ bits, ∀ stretch ∈ bit.covered?, ¬ Cuts stretch.stop span) :
    ∃ bit ∈ bits, ∃ stretch ∈ bit.covered?, span.Within stretch := by
  induction bits generalizing cursor with
  | nil =>
    have hend : cursor = stop := h
    omega
  | cons bit bits ih =>
    have hrest := fun other hother => hsolid other (List.mem_cons_of_mem bit hother)
    rw [Tiles] at h
    split at h
    case h_1 stretch hcovered =>
      obtain ⟨hstart, -, hbits⟩ := h
      -- the first stretch that ends behind the token covers it, since those before end in front of it
      by_cases hwithin : span.stop ≤ stretch.stop
      · exact ⟨bit, List.mem_cons_self, stretch, hcovered, by omega, hwithin⟩
      · have hcut := hsolid bit List.mem_cons_self stretch hcovered
        have hbehind : stretch.stop ≤ span.start := by
          unfold Cuts at hcut
          omega
        obtain ⟨other, hother, hfound⟩ := ih hbits hbehind hrest
        exact ⟨other, List.mem_cons_of_mem _ hother, hfound⟩
    case h_2 =>
      obtain ⟨other, hother, hfound⟩ := ih h hcursor hrest
      exact ⟨other, List.mem_cons_of_mem _ hother, hfound⟩

/-- A token that is not left out is kept. -/
theorem Tiles.exists_keptAt (h : Tiles text (byteSize text) 0 bits) (htoken : IsToken text span)
    (hsolid : ∀ bit ∈ bits, ∀ stretch ∈ bit.covered?, ¬ Cuts stretch.stop span)
    (hdropped : ∀ stretch ∈ leftOut bits, ¬ span.Within stretch) :
    ∃ copy, KeptAt text bits span copy := by
  obtain ⟨hlt, hstop⟩ := htoken.room
  obtain ⟨bit, hbit, stretch, hcovered, hwithin⟩ :=
    h.exists_covering (Nat.zero_le _) hlt hstop hsolid
  cases bit with
  | kept span' =>
    obtain rfl := Option.some.inj hcovered
    obtain ⟨left, right, rfl⟩ := List.append_of_mem hbit
    exact ⟨_, left, span', right, rfl, hwithin, rfl⟩
  | dropped span' =>
    obtain rfl := Option.some.inj hcovered
    exact absurd hwithin (hdropped span' (mem_leftOut_iff.mpr hbit))
  | own chars => cases hcovered
  | again span' => cases hcovered

variable (htiles : Tiles text (byteSize text) 0 bits)

include htiles

theorem KeptAt.spot (h : KeptAt text bits span copy) (htoken : IsToken text span) :
    Spot (cells text bits) span.start copy.start := by
  obtain ⟨left, stretch, right, rfl, hwithin, rfl⟩ := h
  obtain ⟨c, cs, hchars, hc, -⟩ := htoken.exists_chars
  exact htiles.spot hwithin hchars hc

theorem KeptAt.lines (h : KeptAt text bits span copy) (htoken : IsToken text span) :
    lineAt text span.stop + lineAt (written text bits) copy.start =
      lineAt text span.start + lineAt (written text bits) copy.stop := by
  obtain ⟨left, stretch, right, rfl, hwithin, rfl⟩ := h
  obtain ⟨c, cs, hchars, -, hlast⟩ := htoken.exists_chars
  exact htiles.lines_of_kept hwithin hchars hlast

end Kept

end MapLint

namespace MapLint.Lint

open MapLint.Script

/-! ## Lines that stay switched off -/

/-- The line ends around a call that the directives on its line and above it, and those that end their
ranges, are told apart by. None is lost or gained between the call and a comment that is about its line, and
where one is lost or gained in front of a comment further down that switches the lint on again, the comment is
on a line behind it. -/
structure LinesKept (text : List Char) (bits : List Bit) (comments : List Comment) (span : Span) : Prop where
  nextLine : ∀ c ∈ comments, Asks .disableNextLine c →
    lineAt text c.span.stop + 1 = lineAt text span.start →
      Undisturbed (cells text bits) c.span.start span.start
  sameLine : ∀ c ∈ comments, Asks .disable c → lineAt text c.span.start = lineAt text span.start →
    Undisturbed (cells text bits) span.start c.span.start
  below : ∀ c ∈ comments, Asks .enable c → lineAt text span.start < lineAt text c.span.start →
    ∀ d ∈ disturbances 0 (cells text bits), span.start ≤ d.start → d.stop ≤ c.span.start →
      lineAt text d.stop < lineAt text c.span.start

instance (text : List Char) (bits : List Bit) (comments : List Comment) (span : Span) :
    Decidable (LinesKept text bits comments span) :=
  decidable_of_iff
    ((∀ c ∈ comments, Asks .disableNextLine c → lineAt text c.span.stop + 1 = lineAt text span.start →
        Undisturbed (cells text bits) c.span.start span.start) ∧
      (∀ c ∈ comments, Asks .disable c → lineAt text c.span.start = lineAt text span.start →
        Undisturbed (cells text bits) span.start c.span.start) ∧
      (∀ c ∈ comments, Asks .enable c → lineAt text span.start < lineAt text c.span.start →
        ∀ d ∈ disturbances 0 (cells text bits), span.start ≤ d.start → d.stop ≤ c.span.start →
          lineAt text d.stop < lineAt text c.span.start))
    ⟨fun h => ⟨h.1, h.2.1, h.2.2⟩, fun h => ⟨h.nextLine, h.sameLine, h.below⟩⟩

section Moved

variable {text : List Char} {bits : List Bit} {span copy : Span} {comments moved : List Comment}

/-- The comments of a text, wherever they are written in the text made from it. -/
def copiedComments (text : List Char) (bits : List Bit) (comments : List Comment) : List Comment :=
  comments.flatMap fun c => (copiesFrom text c.span 0 bits).map fun copy => { c with span := copy }

theorem mem_copiedComments_iff {c' : Comment} : c' ∈ copiedComments text bits comments ↔
    ∃ c ∈ comments, ∃ place ∈ copiesFrom text c.span 0 bits, { c with span := place } = c' := by
  simp only [copiedComments, List.mem_flatMap, List.mem_map]

variable (htiles : Tiles text (byteSize text) 0 bits) (hsmooth : Smooth (cells text bits))
  (hmoved : ∀ c, c ∈ moved ↔ c ∈ copiedComments text bits comments)
  (htokens : ∀ c ∈ comments, IsToken text c.span)
  (hname : IsToken text span) (hcopy : KeptAt text bits span copy)

include htiles hsmooth hmoved htokens hname hcopy

/-- A call behind a comment about the next line stays on the line behind it. -/
theorem nextLine_of_keptAt {c : Comment} (hc : c ∈ comments) (hasks : Asks .disableNextLine c)
    (hkept : ∃ place, KeptAt text bits c.span place)
    (hline : lineAt text c.span.stop + 1 = lineAt text span.start)
    (hnone : Undisturbed (cells text bits) c.span.start span.start) :
    ∃ c' ∈ moved, Asks .disableNextLine c' ∧
      lineAt (written text bits) c'.span.stop + 1 = lineAt (written text bits) copy.start := by
  obtain ⟨place, hplace⟩ := hkept
  have hthere := mem_copiedComments_iff.mpr ⟨c, hc, place, hplace.mem_copiesFrom, rfl⟩
  refine ⟨{ c with span := place }, (hmoved _).mpr hthere, hasks, ?_⟩
  have hstart := hplace.spot htiles (htokens c hc)
  have hroom := (htokens c hc).room.1
  have hle : c.span.start ≤ span.start := by
    by_contra hlt
    have hmono := lineAt_mono text (a := span.start) (b := c.span.stop) (by omega)
    omega
  have hlines := hplace.lines htiles (htokens c hc)
  have hapart := hstart.lines_eq hsmooth (hcopy.spot htiles hname) hle hnone
  rw [htiles.olds_eq, news_cells] at hapart
  show lineAt (written text bits) place.stop + 1 = _
  omega

/-- A call on a line that is switched off by a range stays in the range. -/
theorem inRange_of_keptAt {c : Comment} (hc : c ∈ comments) (hasks : Asks .disable c)
    (hkept : ∃ place, KeptAt text bits c.span place)
    (honce : ∀ e ∈ comments, Asks .enable e → ∀ stretch ∈ writtenAgain bits, ¬ e.span.Within stretch)
    (hlines : LinesKept text bits comments span) (hline : lineAt text c.span.start ≤ lineAt text span.start)
    (hstays : StaysOff (lineAt text) comments c (lineAt text span.start)) :
    ∃ c' ∈ moved, Asks .disable c' ∧
      lineAt (written text bits) c'.span.start ≤ lineAt (written text bits) copy.start ∧
        StaysOff (lineAt (written text bits)) moved c' (lineAt (written text bits) copy.start) := by
  obtain ⟨place, hplace⟩ := hkept
  have hstart := hplace.spot htiles (htokens c hc)
  have hhere := hcopy.spot htiles hname
  have hthere := mem_copiedComments_iff.mpr ⟨c, hc, place, hplace.mem_copiesFrom, rfl⟩
  refine ⟨{ c with span := place }, (hmoved _).mpr hthere, hasks, ?_, ?_⟩
  · show lineAt (written text bits) place.start ≤ _
    rcases Nat.le_total c.span.start span.start with hle | hle
    · exact lineAt_mono _ (hstart.le hsmooth hhere hle)
    · -- the comment is behind the call, so it is on the same line
      have hsame : lineAt text c.span.start = lineAt text span.start :=
        Nat.le_antisymm hline (lineAt_mono _ hle)
      have hapart := hhere.lines_eq hsmooth hstart hle (hlines.sameLine c hc hasks hsame)
      rw [htiles.olds_eq, news_cells] at hapart
      omega
  · intro e' he' henable hbehind
    obtain ⟨e, he, there, hthere, rfl⟩ := mem_copiedComments_iff.mp ((hmoved e').mp he')
    have henables : Asks .enable e := henable
    -- a comment that switches on again stands in one place only, so it cannot have come in between
    have hkeptThere := keptAt_of_mem_copiesFrom hthere (honce e he henables)
    have hspot := hkeptThere.spot htiles (htokens e he)
    have hbehind : place.start < there.start := hbehind
    have hafter : c.span.start < e.span.start := by
      by_contra hle
      have hback := hspot.le hsmooth hstart (by omega)
      omega
    have hlt := hstays e he henables hafter
    have hle : span.start ≤ e.span.start := by
      by_contra hgt
      have hmono := lineAt_mono text (a := e.span.start) (b := span.start) (by omega)
      omega
    have hbelow := hhere.line_lt hsmooth hspot hle
    rw [htiles.olds_eq, news_cells] at hbelow
    exact hbelow (hlines.below e he henables hlt) hlt

/-- A call that is kept stays switched off, if the comments are kept that switch the lint off, none is written
again that switches it on, and the line ends around the call are kept. -/
theorem switchedOff_of_keptAt
    (hkept : ∀ c ∈ comments, Asks .disable c ∨ Asks .disableNextLine c →
      ∃ place, KeptAt text bits c.span place)
    (honce : ∀ e ∈ comments, Asks .enable e → ∀ stretch ∈ writtenAgain bits, ¬ e.span.Within stretch)
    (hlines : LinesKept text bits comments span)
    (h : SwitchedOff (lineAt text) comments (lineAt text span.start)) :
    SwitchedOff (lineAt (written text bits)) moved (lineAt (written text bits) copy.start) := by
  rcases h with ⟨c, hc, hasks, hline⟩ | ⟨c, hc, hasks, hline, hstays⟩
  · exact .inl (nextLine_of_keptAt htiles hsmooth hmoved htokens hname hcopy hc hasks
      (hkept c hc (.inr hasks)) hline (hlines.nextLine c hc hasks hline))
  · exact .inr (inRange_of_keptAt htiles hsmooth hmoved htokens hname hcopy hc hasks
      (hkept c hc (.inl hasks)) honce hlines hline hstays)

end Moved

end MapLint.Lint
