import Mathlib.Order.Compare
import Mathlib.Data.String.Basic
import Mathlib.Data.List.Nodup
import MapLint.Project.Survey
import MapLint.Proofs.LinePlaces
import MapLint.Proofs.Sorting

/-!
# The order of issues

The issues of a survey are sorted by path, line and column, and say nothing of bytes. They come in the
order of the text all the same, because the name that an issue stands at takes room: whatever follows it is
on a later line or in a later column. So no two issues are at one location, and the order does not depend
on the order in which the files were looked at.

## Architecture

- `Found` is a finding with its file, `Found.Precedes` the order by path and byte;
- `Source.findings_apart` says that no two findings of a file begin at the same byte, and
  `Source.place_before` that what is further on in the text has a later place;
- `sortBy_map` moves the sort from issues to findings;
- `Survey.issues_in_text_order` puts these together.
-/

namespace MapLint

open MapLint.Lint

/-! ## Columns -/

/-- The columns that a character takes on a terminal with tab stops of four, control characters none. -/
def displayColumns (c : Char) : Nat := if c == '\t' then 4 else (charColumns? c).getD 0

/-- The character has two code units in UTF-16. -/
def isAstral (c : Char) : Bool := 0x10000 ≤ c.toNat

theorem locationColumns_eq (c : Char) :
    locationColumns c = displayColumns c + if isAstral c then 1 else 0 := by
  unfold locationColumns displayColumns isAstral
  by_cases htab : c = '\t'
  · subst htab
    rfl
  · have hne : (c == '\t') = false := beq_eq_false_iff_ne.mpr htab
    rw [hne, if_neg Bool.false_ne_true, if_neg Bool.false_ne_true]
    by_cases hlow : c.toNat < 0x10000
    · simp [hlow]
    · simp [hlow, Nat.le_of_not_lt hlow]

/-- A column is what the characters before it take, and one more for each of them that has two code
units. -/
theorem LinePlace.column_eq (place : LinePlace) :
    place.column =
      1 + (place.before.map displayColumns).foldr (· + ·) 0 + place.before.countP isAstral := by
  have hcounted : ∀ before : List Char, (before.map locationColumns).foldr (· + ·) 0 =
      (before.map displayColumns).foldr (· + ·) 0 + before.countP isAstral := by
    intro before
    induction before with
    | nil => rfl
    | cons c cs ih =>
      rw [List.map_cons, List.map_cons, List.foldr_cons, List.foldr_cons, ih, locationColumns_eq,
        List.countP_cons]
      omega
  unfold LinePlace.column
  rw [hcounted]
  omega

/-! ## Findings of one file -/

/-- The names of the methods of the calls share no byte. -/
def Source.NamesApart (source : Source) : Prop :=
  (callSites (programEvents source.program)).Pairwise fun a b =>
    a.methodSpan.overlaps b.methodSpan = false

instance (source : Source) : Decidable source.NamesApart :=
  inferInstanceAs (Decidable (List.Pairwise _ _))

/-- Findings are anchored at the names of calls, in their order and each at another one. -/
theorem Lint.anchors_sublist (strictness : Strictness) (text : List Char) (state : PassState)
    (events : List Event) :
    ((findingsFrom strictness text state events).map Finding.anchor).Sublist
      ((callSites events).map CallSite.methodSpan) := by
  -- a call adds one finding or none, and an assignment only changes the state
  induction events generalizing state with
  | nil => exact .slnil
  | cons event events ih =>
    unfold findingsFrom
    cases event with
    | receiverAssigned span => exact ih ⟨true⟩
    | call site =>
      have hspans : (callSites (.call site :: events)).map CallSite.methodSpan =
          site.methodSpan :: (callSites events).map CallSite.methodSpan := rfl
      rw [hspans]
      cases hjudge : judge strictness text state site with
      | error reason =>
        simp only [step, hjudge, Option.toList_none, List.nil_append]
        exact (ih state).cons site.methodSpan
      | ok finding =>
        have hanchor : finding.anchor = site.methodSpan := by
          obtain ⟨-, -, -, _, _, _, -, -, -, -, rfl⟩ := judge_eq_ok_iff.mp hjudge
          rfl
        simp only [step, hjudge, Option.toList_some, List.singleton_append, List.map_cons, hanchor]
        exact (ih state).cons_cons site.methodSpan

namespace Source

variable {source : Source} {strictness : Strictness} {a b : Finding}

/-- An anchor covers a byte at least. -/
theorem anchor_start_lt_stop (hnames : source.NamesWritten) (h : a ∈ source.findings strictness) :
    a.anchor.start < a.anchor.stop := by
  obtain ⟨site, hsite, -, hanchor⟩ := exists_site_of_mem_findings h
  obtain ⟨text, hslice, hwrites⟩ := (Option.any_eq_true _ _).mp (hnames site hsite)
  obtain ⟨c, cs, rfl, -⟩ := writesName_iff.mp hwrites
  obtain ⟨front, after, -, -, hstop⟩ := (sliceChars?_eq_some_iff ..).mp hslice
  rw [hanchor, ← hstop, byteSize]
  have := c.utf8Size_pos
  omega

theorem findings_apart (hnames : source.NamesWritten) (hapart : source.NamesApart)
    (strictness : Strictness) :
    (source.findings strictness).Pairwise fun a b => a.anchor.start ≠ b.anchor.start := by
  have hsublist : ((source.findings strictness).map Finding.anchor).Sublist
      ((callSites (programEvents source.program)).map CallSite.methodSpan) :=
    (List.filter_sublist.map _).trans (anchors_sublist strictness source.code {} _)
  have hspans : ((source.findings strictness).map Finding.anchor).Pairwise
      fun s t => s.overlaps t = false := by
    refine List.Pairwise.sublist hsublist ?_
    rw [List.pairwise_map]
    exact hapart
  refine List.Pairwise.imp_of_mem (fun {a b} ha hb hoverlap heq => ?_) (List.pairwise_map.mp hspans)
  have hlt := anchor_start_lt_stop hnames ha
  have hlt' := anchor_start_lt_stop hnames hb
  simp only [Span.overlaps, Bool.and_eq_false_iff, decide_eq_false_iff_not] at hoverlap
  omega

/-- What is further on in the text has a later place. -/
theorem place_before (hnames : source.NamesWritten) (ha : a ∈ source.findings strictness)
    {offset : Nat} (hlt : a.anchor.start < offset) :
    (placeAt source.body a.anchor.start).Before (placeAt source.body offset) := by
  obtain ⟨front, c, rest, hname⟩ := exists_nameAt hnames ha
  exact hname.placeAt_before hlt

end Source

/-! ## Findings of several files -/

/-- A finding and the file in which it was found. -/
structure Found where
  path : Path
  source : Source
  finding : Finding

namespace Found

/-- The issue that is reported. -/
def issue (found : Found) : Issue := found.source.issueOf found.path found.finding

/-- Findings are in order by path, and by byte within a file. -/
def Precedes (f g : Found) : Prop :=
  f.path < g.path ∨ f.path = g.path ∧ f.finding.anchor.start < g.finding.anchor.start

/-- Findings of one path begin at different bytes. -/
def Apart (f g : Found) : Prop :=
  f.path = g.path → f.finding.anchor.start ≠ g.finding.anchor.start

end Found

/-- All findings of the sources, one source after the other. -/
def Survey.found (s : Survey) : List Found :=
  s.sources.flatMap fun (path, source) =>
    (source.findings s.config.strictness).map fun finding => ⟨path, source, finding⟩

/-! ## Sorting -/

/-- Sorting images is sorting by the images. -/
theorem sortBy_map {α β : Type} (le : β → β → Bool) (f : α → β) (as : List α) :
    sortBy le (as.map f) = (sortBy (fun a b => le (f a) (f b)) as).map f := by
  rw [sortBy_eq_insertionSort, sortBy_eq_insertionSort]
  exact (List.map_insertionSort _ _ f as fun _ _ _ _ => Iff.rfl).symm

namespace Lint.Issue

variable {a b c : Issue}

instance : Std.TransCmp compareLocation :=
  inferInstanceAs (Std.TransCmp (compareLex (compareOn Issue.path)
    (compareLex (compareOn Issue.line) (compareOn Issue.column))))

theorem compareLocation_swap (a b : Issue) : a.compareLocation b = (b.compareLocation a).swap :=
  Std.OrientedCmp.eq_swap

theorem compareLocation_trans (hab : (a.compareLocation b).isLE = true)
    (hbc : (b.compareLocation c).isLE = true) : (a.compareLocation c).isLE = true :=
  Std.TransCmp.isLE_trans hab hbc

theorem compareLocation_eq_lt_iff : a.compareLocation b = .lt ↔
    a.path < b.path ∨ a.path = b.path ∧ (a.line < b.line ∨ a.line = b.line ∧ a.column < b.column) := by
  unfold compareLocation
  simp [Ordering.then_eq_lt, compare_lt_iff_lt]

end Lint.Issue

namespace Survey

variable {s t : Survey} {f g : Found}

/-- The findings in the order of their issues. -/
def ordered (s : Survey) : List Found :=
  sortBy (fun f g => (f.issue.compareLocation g.issue).isLE) s.found

theorem ordered_perm (s : Survey) : s.ordered.Perm s.found := sortBy_perm _ _

theorem issues_eq_map (s : Survey) : s.issues = s.ordered.map Found.issue := by
  have hissues : (s.sources.flatMap fun source => source.2.issues source.1 s.config.strictness) =
      s.found.map Found.issue := by
    unfold found
    rw [List.map_flatMap]
    congr 1
    funext source
    simp only [Source.issues, List.map_map]
    rfl
  rw [issues, hissues, sortBy_map, ordered]

/-- What is relied on in the files of a survey: each is there once, and the names in it are written where
the reader of scripts says, none over another. -/
structure Readable (s : Survey) : Prop where
  paths : (s.sources.map Prod.fst).Nodup
  written : ∀ source ∈ s.sources, source.2.NamesWritten
  apart : ∀ source ∈ s.sources, source.2.NamesApart

instance (s : Survey) : Decidable s.Readable :=
  decidable_of_iff ((s.sources.map Prod.fst).Nodup ∧ (∀ source ∈ s.sources, source.2.NamesWritten) ∧
    ∀ source ∈ s.sources, source.2.NamesApart)
    ⟨fun ⟨hpaths, hwritten, hapart⟩ => ⟨hpaths, hwritten, hapart⟩, fun h => ⟨h.paths, h.written, h.apart⟩⟩

theorem mem_found_iff : f ∈ s.found ↔
    (f.path, f.source) ∈ s.sources ∧ f.finding ∈ f.source.findings s.config.strictness := by
  unfold found
  rw [List.mem_flatMap]
  constructor
  · rintro ⟨⟨path, source⟩, hsource, hmem⟩
    obtain ⟨finding, hfinding, rfl⟩ := List.mem_map.mp hmem
    exact ⟨hsource, hfinding⟩
  · exact fun ⟨hsource, hfinding⟩ => ⟨_, hsource, List.mem_map.mpr ⟨_, hfinding, rfl⟩⟩

/-- There is one source for a path. -/
theorem Readable.source_eq (h : s.Readable) (hf : f ∈ s.found) (hg : g ∈ s.found)
    (hpath : f.path = g.path) : f.source = g.source :=
  (Prod.mk.inj (List.inj_on_of_nodup_map h.paths (mem_found_iff.mp hf).1 (mem_found_iff.mp hg).1
    hpath)).2

theorem found_apart (h : s.Readable) : s.found.Pairwise Found.Apart := by
  unfold found
  rw [List.pairwise_flatMap]
  constructor
  · -- within a file the bytes differ, and between two files the paths do
    rintro ⟨path, source⟩ hsource
    rw [List.pairwise_map]
    exact (source.findings_apart (h.written _ hsource) (h.apart _ hsource) _).imp
      fun hne (_ : path = path) => hne
  · refine (List.pairwise_map.mp h.paths).imp ?_
    rintro ⟨path, source⟩ ⟨path', source'⟩ hne f hf g hg heq
    obtain ⟨_, -, rfl⟩ := List.mem_map.mp hf
    obtain ⟨_, -, rfl⟩ := List.mem_map.mp hg
    exact absurd heq hne

/-- Within a file a name further on has a later location. -/
theorem location_lt (h : s.Readable) (hf : f ∈ s.found) (hg : g ∈ s.found) (hpath : f.path = g.path)
    (hlt : f.finding.anchor.start < g.finding.anchor.start) :
    f.issue.line < g.issue.line ∨ f.issue.line = g.issue.line ∧ f.issue.column < g.issue.column := by
  obtain ⟨hsource, hfinding⟩ := mem_found_iff.mp hf
  have hplace := Source.place_before (h.written _ hsource) hfinding hlt
  unfold Found.issue
  rw [← h.source_eq hf hg hpath]
  exact hplace

/-- The order of findings is that of the locations of their issues. -/
theorem compareLocation_of_precedes (h : s.Readable) (hf : f ∈ s.found) (hg : g ∈ s.found)
    (hfg : f.Precedes g) : f.issue.compareLocation g.issue = .lt :=
  Issue.compareLocation_eq_lt_iff.mpr
    (hfg.imp_right fun ⟨hpath, hlt⟩ => ⟨hpath, location_lt h hf hg hpath hlt⟩)

theorem precedes_of_isLE (h : s.Readable) (hf : f ∈ s.found) (hg : g ∈ s.found) (hapart : f.Apart g)
    (hle : (f.issue.compareLocation g.issue).isLE = true) : f.Precedes g := by
  -- the other orders would put `g` at the earlier location
  have hnot : ¬ g.Precedes f := by
    intro hgf
    rw [Issue.compareLocation_swap, compareLocation_of_precedes h hg hf hgf] at hle
    cases hle
  rcases lt_trichotomy f.path g.path with hlt | heq | hgt
  · exact .inl hlt
  · rcases Nat.lt_trichotomy f.finding.anchor.start g.finding.anchor.start with hlt | hsame | hgt
    · exact .inr ⟨heq, hlt⟩
    · exact absurd hsame (hapart heq)
    · exact absurd (.inr ⟨heq.symm, hgt⟩) hnot
  · exact absurd (.inl hgt) hnot

theorem ordered_pairwise (h : s.Readable) : s.ordered.Pairwise Found.Precedes := by
  have hsorted : s.ordered.Pairwise fun f g => (f.issue.compareLocation g.issue).isLE = true := by
    refine sortBy_pairwise (fun f g => ?_) (fun f g k hfg hgk => ?_) _
    · rw [Issue.compareLocation_swap g.issue]
      cases f.issue.compareLocation g.issue <;> decide
    · exact Issue.compareLocation_trans hfg hgk
  -- that anchors are apart does not depend on the order, so the sort keeps it
  have hapart : s.ordered.Pairwise Found.Apart := by
    refine ((ordered_perm s).pairwise_iff ?_).mpr (found_apart h)
    exact fun hfg hpath => (hfg hpath.symm).symm
  refine (hsorted.and hapart).imp_of_mem fun hf hg ⟨hle, hfg⟩ => ?_
  exact precedes_of_isLE h ((ordered_perm s).mem_iff.mp hf) ((ordered_perm s).mem_iff.mp hg) hfg hle

theorem issues_pairwise (h : s.Readable) :
    s.issues.Pairwise fun a b => a.compareLocation b = .lt := by
  have hordered : s.ordered.Pairwise fun f g => f.issue.compareLocation g.issue = .lt :=
    (ordered_pairwise h).imp_of_mem fun hf hg hfg => compareLocation_of_precedes h
      ((ordered_perm s).mem_iff.mp hf) ((ordered_perm s).mem_iff.mp hg) hfg
  rw [issues_eq_map, List.pairwise_map]
  exact hordered

theorem found_perm (hperm : t.sources.Perm s.sources)
    (hstrictness : t.config.strictness = s.config.strictness) : t.found.Perm s.found := by
  unfold found
  rw [hstrictness]
  exact hperm.flatMap_right _

theorem Readable.of_perm (h : s.Readable) (hperm : t.sources.Perm s.sources) : t.Readable where
  paths := (hperm.map Prod.fst).nodup_iff.mpr h.paths
  written source hsource := h.written source (hperm.mem_iff.mp hsource)
  apart source hsource := h.apart source (hperm.mem_iff.mp hsource)

theorem issues_eq_of_perm (h : s.Readable) (hperm : t.sources.Perm s.sources)
    (hstrictness : t.config.strictness = s.config.strictness) : t.issues = s.issues := by
  refine List.Perm.eq_of_pairwise (fun a b _ _ hab hba => ?_) (issues_pairwise (h.of_perm hperm))
    (issues_pairwise h) ?_
  · rw [Issue.compareLocation_swap, hba] at hab
    cases hab
  · rw [issues_eq_map, issues_eq_map]
    refine List.Perm.map _ ?_
    exact (ordered_perm t).trans ((found_perm hperm hstrictness).trans (ordered_perm s).symm)

/-- Where an issue stands: its line is one more than the number of line ends in front of the name, and its
column is what the characters in front of the name on its line take on a terminal, one more, and one more
for each of these characters that has two code units. -/
theorem location_eq (h : s.Readable) (hf : f ∈ s.found) :
    ∃ front c rest, NameAt f.source.body f.finding.anchor.start front c rest ∧
      let place := placeAt f.source.body f.finding.anchor.start
      place.Cuts front (c :: rest) ∧ f.issue.line = 1 + lineEnds front (c :: rest) ∧
        f.issue.column =
          1 + (place.before.map displayColumns).foldr (· + ·) 0 + place.before.countP isAstral := by
  obtain ⟨hsource, hfinding⟩ := mem_found_iff.mp hf
  obtain ⟨front, c, rest, hname⟩ := Source.exists_nameAt (h.written _ hsource) hfinding
  exact ⟨front, c, rest, hname, hname.cuts, hname.cuts.line, LinePlace.column_eq _⟩

/-- Issues come in the order of the text. Within a file a name further on has a later location, which is
counted as `location_eq` says. The issues of a survey are those of all its findings, each once, by path and
then by byte; each has a later location than the one before, so that no two have the same. And the files
may be taken in any order. -/
theorem issues_in_text_order (h : s.Readable) :
    (∀ f ∈ s.found, ∀ g ∈ s.found, f.path = g.path →
      f.finding.anchor.start < g.finding.anchor.start →
        f.issue.line < g.issue.line ∨ f.issue.line = g.issue.line ∧ f.issue.column < g.issue.column) ∧
    (∀ f ∈ s.found, ∃ front c rest, NameAt f.source.body f.finding.anchor.start front c rest ∧
      let place := placeAt f.source.body f.finding.anchor.start
      place.Cuts front (c :: rest) ∧ f.issue.line = 1 + lineEnds front (c :: rest) ∧
        f.issue.column =
          1 + (place.before.map displayColumns).foldr (· + ·) 0 + place.before.countP isAstral) ∧
    (∃ found : List Found, found.Perm s.found ∧ found.Pairwise Found.Precedes ∧
      s.issues = found.map Found.issue) ∧
    s.issues.Pairwise (fun a b => a.compareLocation b = .lt) ∧
    ∀ t : Survey, t.sources.Perm s.sources → t.config.strictness = s.config.strictness →
      t.issues = s.issues :=
  ⟨fun _ hf _ hg => location_lt h hf hg, fun _ hf => location_eq h hf,
    ⟨s.ordered, ordered_perm s, ordered_pairwise h, issues_eq_map s⟩, issues_pairwise h,
    fun _ => issues_eq_of_perm h⟩

/-- A project of two files, one of them with two findings on one line. -/
def twoScripts : FileTree :=
  .dir [.mk "b.js" (.file (.text "_.map([1], f);\n".toList)),
    .mk "a.js" (.file (.text "\r\n\r_.map([2], f); _.map([3], f);\n".toList))]

set_option maxRecDepth 100000 in
/-- Its issues, which are the same ones with the files taken in the other order. -/
theorem issues_in_text_order_twoScripts :
    ∃ s, survey twoScripts {} = .ok s ∧ s.Readable ∧
      s.issues.map (fun issue => (issue.path, issue.line, issue.column)) =
        [("./a.js", 3, 3), ("./a.js", 3, 18), ("./b.js", 1, 3)] ∧
      ({ s with sources := s.sources.reverse } : Survey).issues = s.issues := by
  have hfacts : (survey twoScripts {}).toOption.any (fun s => decide s.Readable &&
      s.issues.map (fun issue => (issue.path, issue.line, issue.column)) ==
        [("./a.js", 3, 3), ("./a.js", 3, 18), ("./b.js", 1, 3)]) = true := by decide +kernel
  cases hsurvey : survey twoScripts {} with
  | error e =>
    rw [hsurvey] at hfacts
    cases hfacts
  | ok s =>
    rw [hsurvey] at hfacts
    simp only [Except.toOption, Option.any_some, Bool.and_eq_true, decide_eq_true_eq, beq_iff_eq] at hfacts
    obtain ⟨hreadable, hlocations⟩ := hfacts
    obtain ⟨-, -, -, -, hreordered⟩ := issues_in_text_order hreadable
    exact ⟨s, rfl, hreadable, hlocations, hreordered _ s.sources.reverse_perm rfl⟩

set_option maxRecDepth 100000 in
/-- An emoji takes two columns, for a report as for the caret below it, and counts three. -/
theorem column_counts_code_units :
    ((parseSource "a.js" "'😀'; _.map([0], f)".toList).toOption.map fun source =>
        (source.issues "a.js" .strict).map Issue.column) = some [10] ∧
      1 + ("'😀'; _.".toList.map displayColumns).foldr (· + ·) 0 = 9 ∧
      textColumns "'😀'; _.".toList = 8 := by
  decide +kernel

end Survey

end MapLint
