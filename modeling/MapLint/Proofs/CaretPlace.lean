import MapLint.Report.Render
import MapLint.Proofs.DisplayWidth
import MapLint.Proofs.LinePlaces

/-!
# Where the caret stands

Below a line of source the report puts a caret, as far to the right as a number of characters at the start
of the line is wide. The number is that of the columns in front of the method's name, less what the
columns of the location count. The two agree where each character counts one column.

## Architecture

- `shownLine_eq` says what of a line is shown: all in front of the name, and the name;
- `caretIndent_cases` is the caret seen from the text in front of the name;
- `caret_below_name_iff` says of every issue of a file when the caret stands below the name.
-/

namespace MapLint

/-! ## The shown line -/

section Shown

variable {c : Char} {front rest : List Char}

/-- Nothing is trimmed in front of a character that is not blank. -/
theorem trimEnd_append_cons (hc : isBlank c = false) (front rest : List Char) :
    trimEnd (front ++ c :: rest) = front ++ c :: trimEnd rest := by
  have hkeeps : (c :: front.reverse).dropWhile isBlank = c :: front.reverse := by
    rw [List.dropWhile_cons, hc, if_neg Bool.false_ne_true]
  unfold trimEnd
  rw [List.reverse_append, List.reverse_cons, List.append_assoc, List.singleton_append,
    List.dropWhile_append, hkeeps]
  split
  case isTrue hnone => simp [List.isEmpty_iff.mp hnone]
  case isFalse => simp

/-- The line is shown up to a character that is not blank, and with it. -/
theorem LinePlace.Cuts.shownLine_eq {place : LinePlace} (h : place.Cuts front (c :: rest))
    (hc : isBlank c = false) : ∃ more, place.shownLine = place.before ++ c :: more := by
  obtain ⟨-, -, -, hends⟩ := h.before
  have hbefore : ∀ d ∈ place.before, (d != '\n') = true := by
    intro d hd
    rw [bne_iff_ne]
    rintro rfl
    exact not_mem_of_lineEnds_eq_zero hends hd
  have hfeed : c ≠ '\n' := by
    rintro rfl
    exact absurd hc (by decide)
  refine ⟨trimEnd (rest.takeWhile (· != '\n')), ?_⟩
  unfold LinePlace.shownLine
  rw [h.after, List.takeWhile_append_of_pos hbefore,
    List.takeWhile_cons_of_pos (p := (· != '\n')) (bne_iff_ne.mpr hfeed), trimEnd_append_cons hc]

theorem NameAt.isBlank {body : List Char} {start : Nat} (h : NameAt body start front c rest) :
    isBlank c = false := by
  rcases h.first with rfl | rfl <;> rfl

theorem NameAt.separate {body : List Char} {start : Nat} (h : NameAt body start front c rest) :
    Separate c := by
  rcases h.first with rfl | rfl <;> exact ⟨by decide, by decide, by decide⟩

end Shown

/-- The columns that a location counts for what stands before a place on its line. -/
def LinePlace.counted (place : LinePlace) : Nat := (place.before.map locationColumns).foldr (· + ·) 0

theorem LinePlace.counted_eq_length {place : LinePlace}
    (h : ∀ d ∈ place.before, locationColumns d = 1) : place.counted = place.before.length := by
  unfold LinePlace.counted
  generalize place.before = before at h
  induction before with
  | nil => rfl
  | cons d ds ih =>
    obtain ⟨hd, hds⟩ := List.forall_mem_cons.mp h
    rw [List.map_cons, List.foldr_cons, hd, ih hds, List.length_cons, Nat.add_comm]

end MapLint

namespace MapLint.Report

open MapLint.Lint (Issue Finding Strictness)

/-! ## The caret -/

section Caret

variable {issue : Issue} {before more : List Char} {c : Char}

/-- As many characters as the column counts are measured. Within the text in front of the name these are
a part of that text, and beyond it the name is measured too. -/
theorem caretIndent_cases (hc : Separate c) (hline : issue.sourceLine = before ++ c :: more) :
    (issue.column - 1 ≤ before.length ∧
        caretIndent issue = textColumns (before.take (issue.column - 1))) ∨
      (before.length < issue.column - 1 ∧ textColumns before < caretIndent issue) := by
  unfold caretIndent
  rw [hline]
  rcases Nat.lt_or_ge before.length (issue.column - 1) with hlt | hle
  · obtain ⟨n, hn⟩ := Nat.exists_eq_add_of_lt hlt
    rw [hn, Nat.add_assoc, List.take_length_add_append, List.take_succ_cons, textColumns_append hc]
    exact .inr ⟨by omega, Nat.lt_add_of_pos_right (textColumns_pos hc _)⟩
  · exact .inl ⟨hle, by rw [List.take_append_of_le_length hle]⟩

end Caret

variable {source : Source} {path : Path} {strictness : Strictness} {issue : Issue}

/-- When the caret stands below the name. For every issue of a file the shown line consists of what stands
in front of the method's name on its line, the name, and more. The caret is indented as far as the text in
front of the name is wide if and only if the columns counted for this text are no more than it has
characters, and as many of its characters are as wide as all of them. With more columns than characters it
stands too far to the right; with one column for each character it stands below the name. -/
theorem caret_below_name_iff (hnames : source.NamesWritten)
    (h : issue ∈ source.issues path strictness) :
    ∃ finding ∈ source.findings strictness, issue = source.issueOf path finding ∧
      ∃ front c rest, NameAt source.body finding.anchor.start front c rest ∧
        let place := placeAt source.body finding.anchor.start
        place.Cuts front (c :: rest) ∧
        (∃ more, issue.sourceLine = place.before ++ c :: more) ∧
        (caretIndent issue = textColumns place.before ↔
          place.counted ≤ place.before.length ∧
            textColumns (place.before.take place.counted) = textColumns place.before) ∧
        (place.before.length < place.counted → textColumns place.before < caretIndent issue) ∧
        ((∀ d ∈ place.before, locationColumns d = 1) →
          caretIndent issue = textColumns place.before) := by
  obtain ⟨finding, hfinding, rfl⟩ := List.mem_map.mp h
  obtain ⟨front, c, rest, hname⟩ := Source.exists_nameAt hnames hfinding
  refine ⟨finding, hfinding, rfl, front, c, rest, hname, hname.cuts, ?_⟩
  generalize hplace : placeAt source.body finding.anchor.start = place
  obtain ⟨more, hline⟩ := (hplace ▸ hname.cuts).shownLine_eq hname.isBlank
  have hline' : (source.issueOf path finding).sourceLine = place.before ++ c :: more := by
    rw [← hline, ← hplace]
    rfl
  have hcolumn : (source.issueOf path finding).column - 1 = place.counted := by
    rw [← hplace]
    rfl
  have hcases := caretIndent_cases hname.separate hline'
  rw [hcolumn] at hcases
  have hiff : caretIndent (source.issueOf path finding) = textColumns place.before ↔
      place.counted ≤ place.before.length ∧
        textColumns (place.before.take place.counted) = textColumns place.before := by
    rcases hcases with ⟨hle, heq⟩ | ⟨hlt, hwide⟩
    · rw [heq]
      exact ⟨fun h => ⟨hle, h⟩, And.right⟩
    · exact ⟨fun h => absurd h (by omega), fun h => absurd h.1 (by omega)⟩
  refine ⟨⟨more, hline'⟩, hiff, fun hlt => ?_, fun hone => hiff.mpr ?_⟩
  · rcases hcases with ⟨hle, -⟩ | ⟨-, hwide⟩
    · omega
    · exact hwide
  · rw [LinePlace.counted_eq_length hone]
    exact ⟨Nat.le_refl _, by rw [List.take_length]⟩

/-- A call behind a text with an accent. -/
def behindAccent : List Char := "'é'; _.map([1], f);\n".toList

set_option maxRecDepth 100000 in
/-- There the caret stands below the name. -/
theorem caret_below_name_behindAccent :
    ∃ source, parseSource "a.js" behindAccent = .ok source ∧ source.NamesWritten ∧
      ∃ issue ∈ source.issues "a.js" .strict, caretIndent issue = textColumns "'é'; _.".toList := by
  have hfacts : (parseSource "a.js" behindAccent).toOption.any (fun source =>
      decide source.NamesWritten && !(source.issues "a.js" .strict).isEmpty &&
        (source.findings .strict).all fun finding =>
          (placeAt source.body finding.anchor.start).before == "'é'; _.".toList) = true := by
    decide +kernel
  have hones : "'é'; _.".toList.all (locationColumns · == 1) = true := by decide +kernel
  cases hsource : parseSource "a.js" behindAccent with
  | error failure =>
    rw [hsource] at hfacts
    cases hfacts
  | ok source =>
    rw [hsource] at hfacts
    simp only [Except.toOption, Option.any_some, Bool.and_eq_true, decide_eq_true_eq] at hfacts
    obtain ⟨⟨hnames, hsome⟩, hbefore⟩ := hfacts
    obtain ⟨issue, hissue⟩ := List.exists_mem_of_ne_nil _ (by simpa using hsome)
    obtain ⟨finding, hfinding, -, _, _, _, -, -, -, -, -, hone⟩ := caret_below_name_iff hnames hissue
    have hplace := eq_of_beq (List.all_eq_true.mp hbefore finding hfinding)
    rw [hplace] at hone
    exact ⟨source, rfl, hnames, issue, hissue, hone fun d hd => eq_of_beq (List.all_eq_true.mp hones d hd)⟩

set_option maxRecDepth 100000 in
/-- A tab counts four columns but is one character, of which the report takes four. -/
theorem caret_beyond_name_behind_tab :
    ((parseSource "a.js" "\t_.map([1], f);\n".toList).toOption.map fun source =>
        (source.issues "a.js" .strict).map fun issue => (issue.sourceLine, caretIndent issue)) =
      some [("\t_.map([1], f);".toList, 6)] ∧
    textColumns "\t_.".toList = 3 := by
  decide +kernel

end MapLint.Report
