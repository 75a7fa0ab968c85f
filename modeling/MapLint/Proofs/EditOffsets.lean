import MapLint.Proofs.RepairFixpoint

/-!
# Edits are made where they were found

The positions of an edit count in the text that was analysed, and the edit is made in the text that
the loop holds. Both are what is left of a file when a mark is taken off its start, but each takes off
a mark of its own. So they are the same text as long as the loop holds no mark, which it never does
when the file began with one mark at most; otherwise every edit is made three bytes too early.

## Architecture

- `Rounds.unmarked`: the loop never comes to hold a mark;
- `edits_made_where_found`: so an edit replaces what its span covers in the text that was analysed;
- `marked_edits_shifted`: what it replaces behind a second mark, and `second_mark_garbles` a file that
  is spoilt by that.
-/

namespace MapLint

/-- Behind the first character of a text, positions count on. -/
theorem sliceChars?_cons {c : Char} {cs : List Char} {s : Span} (hstart : c.utf8Size ≤ s.start)
    (hstop : s.start ≤ s.stop) :
    sliceChars? (c :: cs) s = sliceChars? cs ⟨s.start - c.utf8Size, s.stop - c.utf8Size⟩ := by
  have hpos := c.utf8Size_pos
  apply Option.ext
  intro cut
  rw [sliceChars?_eq_some_iff, sliceChars?_eq_some_iff]
  constructor
  · rintro ⟨before, after, htext, hbefore, hcut⟩
    cases before with
    | nil =>
      simp only [byteSize] at hbefore
      omega
    | cons d before =>
      obtain ⟨rfl, rfl⟩ := List.cons.inj htext
      simp only [byteSize] at hbefore
      refine ⟨before, after, rfl, ?_, ?_⟩ <;> dsimp only <;> omega
  · rintro ⟨before, after, rfl, hbefore, hcut⟩
    dsimp only at hbefore hcut
    refine ⟨c :: before, after, rfl, ?_, ?_⟩
    · simp only [byteSize]
      omega
    · omega

end MapLint

namespace MapLint.Lint

variable {read : ScriptReader} {path : Path} {strictness : Strictness} {text : List Char}

/-! ## One mark at most -/

theorem Rounds.unmarked (hread : PlacesCalls read) {s : Loop}
    (h : Rounds (parseSourceWith read path) (repairEdits strictness) (stripMark text).1 s)
    (hmarks : ¬ [byteOrderMark, byteOrderMark] <+: text) : Unmarked s.text :=
  h.undoable.passes.unmarked hread (unmarked_stripMark hmarks)

/-- In every round of the repair of a file that begins with one mark at most, an edit that is made
replaces what its span covers in the text that the findings come from. -/
theorem edits_made_where_found (hread : PlacesCalls read)
    (hmarks : ¬ [byteOrderMark, byteOrderMark] <+: text) {s : Loop}
    (hround : Rounds (parseSourceWith read path) (repairEdits strictness) (stripMark text).1 s)
    {source : Source} (hsource : parseSourceWith read path s.text = .ok source) {e : Edit}
    (he : e ∈ madeEdits strictness s.text source) :
    ∃ cut, sliceChars? s.text e.span = some cut ∧ sliceChars? source.code e.span = some cut := by
  have hfits : e.fits s.text = true := (Edit.mem_of_mem_accept he).2
  obtain ⟨cut, hcut⟩ := Option.isSome_iff_exists.mp hfits
  -- no pass has made a mark, so the reader is given the text that the loop holds
  have hunmarked : Unmarked s.text := hround.unmarked hread hmarks
  obtain ⟨parsed, -, rfl⟩ := hunmarked.parseSourceWith_eq read path hsource
  exact ⟨cut, hcut, hcut⟩

/-- A call behind a mark. -/
def markedCall : List Char := "\uFEFF_.map([0], f);\n".toList

set_option maxRecDepth 100000 in
/-- The call behind the mark is cut out whole. -/
theorem markedCall_cut_whole :
    ∃ source, parseSourceWith (onlyReading [(stripMark markedCall).1]) "a.js"
        (stripMark markedCall).1 = .ok source ∧
      ∃ e ∈ madeEdits .strict (stripMark markedCall).1 source,
        e.replacement = "[0].map(f)".toList ∧ ∃ cut,
          sliceChars? (stripMark markedCall).1 e.span = some cut ∧
          sliceChars? source.code e.span = some cut := by
  have hplaces : PlacesCalls (onlyReading [(stripMark markedCall).1]) :=
    placesCalls_onlyReading (by decide +kernel)
  have hedits : ((parseSourceWith (onlyReading [(stripMark markedCall).1]) "a.js"
      (stripMark markedCall).1).toOption.map (madeEdits .strict (stripMark markedCall).1)) =
        some [⟨⟨0, 13⟩, "[0].map(f)".toList⟩] := by decide +kernel
  cases hsource : parseSourceWith (onlyReading [(stripMark markedCall).1]) "a.js"
      (stripMark markedCall).1 with
  | error failure =>
    rw [hsource] at hedits
    cases hedits
  | ok source =>
    rw [hsource] at hedits
    have hmade : (⟨⟨0, 13⟩, "[0].map(f)".toList⟩ : Edit) ∈
        madeEdits .strict (stripMark markedCall).1 source := by
      rw [Option.some.inj hedits]
      exact List.mem_singleton_self _
    have hmarks : ¬ [byteOrderMark, byteOrderMark] <+: markedCall := by decide
    exact ⟨source, rfl, _, hmade, rfl, edits_made_where_found hplaces hmarks .start hsource hmade⟩

/-! ## More than one mark -/

/-- Where the loop holds a text that begins with a mark, an edit replaces what stands three bytes
before its span in the text that the findings come from. -/
theorem marked_edits_shifted {code : List Char} {source : Source}
    (hsource : parseSourceWith read path (byteOrderMark :: code) = .ok source) {e : Edit}
    (he : e ∈ madeEdits strictness (byteOrderMark :: code) source) (hstart : 3 ≤ e.span.start) :
    ∃ cut, sliceChars? (byteOrderMark :: code) e.span = some cut ∧
      sliceChars? source.code ⟨e.span.start - 3, e.span.stop - 3⟩ = some cut := by
  have hfits : e.fits (byteOrderMark :: code) = true := (Edit.mem_of_mem_accept he).2
  obtain ⟨cut, hcut⟩ := Option.isSome_iff_exists.mp hfits
  obtain ⟨-, -, -, -, hlength⟩ := (sliceChars?_eq_some_iff ..).mp hcut
  have hcode : source.code = code := by
    have hstrip : stripMark (byteOrderMark :: code) = (code, true) := by simp [stripMark]
    unfold parseSourceWith at hsource
    simp only [hstrip] at hsource
    split at hsource
    case h_1 =>
      cases hsource
      rfl
    case h_2 => cases hsource
  have hsize : byteOrderMark.utf8Size = 3 := by decide
  refine ⟨cut, hcut, ?_⟩
  rw [← hcut, hcode, sliceChars?_cons (by omega) (by omega), hsize]

/-- Two marks before a call and a statement. -/
def twoMarks : List Char := "\uFEFF\uFEFFinit(a);\n_.map([0], f  );\n".toList

set_option maxRecDepth 100000 in
/-- Behind a second mark, the edit of the only finding covers the end of the statement before the call
and leaves the end of the call. What comes out parses, so nothing is taken back. -/
theorem second_mark_garbles :
    ((parseSource "a.js" (stripMark twoMarks).1).toOption.map fun source =>
        (madeEdits .strict (stripMark twoMarks).1 source).map fun e =>
          (sliceChars? (stripMark twoMarks).1 e.span, sliceChars? source.code e.span)) =
      some [(some ");\n_.map([0], f".toList, some "_.map([0], f  )".toList)] ∧
    ((repairSource "a.js" .strict twoMarks).toOption.map fun r =>
        (r.text, r.passes, r.reverted.isNone)) =
      some ("\uFEFF\uFEFFinit(a[0].map(f)  );\n".toList, 1, true) := by
  decide +kernel

end MapLint.Lint
