import MapLint.Proofs.FilePlaces
import MapLint.Proofs.RepairFixpoint
import MapLint.Proofs.SurveyedFiles

/-!
# What a command writes

Only a fix that is to be applied writes to files, and what it writes are the repaired texts of files
that have issues. Here the project after a run is compared with the project before it, location by
location, whatever the order in which the files are written.

## Architecture

- `mem_repairs_iff` says which files are repaired, and `mem_writes_iff` which of them are written;
- `Survey.Rewrites` is what a file should hold in the end, said without the run, and
  `Survey.Rewrites.text_eq` that this does not depend on the path under which the file was found;
- `parses_of_repairSourceWith` says when a repaired text can be read again;
- `WrittenAt` compares one location and `writtenAt_of_writes` all of them, for any order of the writes;
- `RepairsWritten` is what follows from that, and `run_writes_repairs` says it of every run.
-/

namespace MapLint

open MapLint.Script MapLint.Lint MapLint.FileTree

variable {top : FileTree} {path : Path} {text : List Char} {source : Source} {strictness : Strictness}
  {target : Target} {read : ScriptReader} {s : Survey} {location : List String}

/-! ## Texts that are read again -/

theorem restoreMark_stripMark (text : List Char) :
    restoreMark (stripMark text).2 (stripMark text).1 = text := by
  rcases stripMark_cases text with ⟨-, hcode⟩ | ⟨code, rfl, hcode⟩
  · rw [hcode]
    rfl
  · rw [hcode]
    rfl

theorem stripMark_of_parseSourceWith (h : parseSourceWith read path text = .ok source) :
    stripMark text = (source.code, source.marked) := by
  unfold parseSourceWith at h
  dsimp only at h
  split at h
  case h_1 =>
    cases h
    rfl
  case h_2 => cases h

/-- A repaired file holds a settled text, behind the mark if there was one. -/
theorem Lint.exists_settled_of_repairSourceWith {r : Repaired ParseFailure}
    (h : repairSourceWith read path strictness text = .ok r) :
    ∃ inner : Repaired ParseFailure,
      inner.Settled (parseSourceWith read path) (repairEdits strictness) (stripMark text).1 ∧
        r = { inner with text := restoreMark (stripMark text).2 inner.text } := by
  obtain ⟨inner, hinner, hr⟩ := repairSourceWith_eq_ok_iff.mp h
  have hsettled :=
    repair_settled (parseSourceWith read path) (repairEdits strictness) (stripMark text).1
  rw [show repair (parseSourceWith read path) _ _ = .ok inner from hinner] at hsettled
  exact ⟨inner, hsettled, hr⟩

/-- A repaired text parses, unless the file began with a mark and the text begins with three: the
loop has looked at the text without its first mark, and two are taken off before a text is read. -/
theorem Lint.parses_of_repairSourceWith {r : Repaired ParseFailure}
    (h : repairSourceWith read path strictness text = .ok r) :
    (∃ source, parseSourceWith read path r.text = .ok source) ∨
      (stripMark text).2 = true ∧ [byteOrderMark, byteOrderMark, byteOrderMark] <+: r.text := by
  obtain ⟨inner, hsettled, rfl⟩ := exists_settled_of_repairSourceWith h
  have hparses := hsettled.parses
  cases hmarked : (stripMark text).2 with
  | false => exact .inl hparses
  | true =>
    by_cases hmarks : [byteOrderMark, byteOrderMark] <+: inner.text
    · exact .inr ⟨rfl, List.cons_prefix_cons.mpr ⟨rfl, hmarks⟩⟩
    · refine .inl (exists_parseSourceWith_iff.mpr ?_)
      have hbody := exists_parseSourceWith_iff.mp hparses
      rw [(unmarked_stripMark hmarks).stripMark_eq] at hbody
      exact hbody

theorem Lint.Passes.applied_eq_zero {α ε : Type} {parse : List Char → Except ε α}
    {editsFor : Nat → α → List Edit} {p : Progress} (h : Passes parse editsFor text p)
    (hpasses : p.passes = 0) : p.applied = 0 := by
  cases h with
  | start => rfl
  | pass _ step =>
    have hcount := step.passes_eq
    omega

/-! ## Surveyed files -/

theorem readText_eq_ok_iff :
    top.readText path = .ok text ↔ ∃ location, top.locate path = .ok (location, .file (.text text)) := by
  unfold readText
  cases top.locate path with
  | error e => simp
  | ok found =>
    obtain ⟨location, tree⟩ := found
    cases tree with
    | dir entries => simp
    | link target => simp
    | file content => cases content <;> simp

theorem loadSource_eq_ok_iff :
    loadSource top path read = .ok source ↔
      ∃ text, top.readText path = .ok text ∧ parseSourceWith read path text = .ok source := by
  unfold loadSource
  cases top.readText path with
  | error e => simp
  | ok text =>
    cases hparse : parseSourceWith read path text <;> simp [hparse]

/-- An issue is one of a source. -/
theorem Survey.exists_mem_sources_of_mem_issues {issue : Issue} (h : issue ∈ s.issues) :
    ∃ source, (issue.path, source) ∈ s.sources := by
  rw [Survey.issues, (sortBy_perm _ _).mem_iff] at h
  obtain ⟨entry, hentry, hissue⟩ := List.mem_flatMap.mp h
  obtain ⟨finding, -, rfl⟩ := List.mem_map.mp hissue
  exact ⟨entry.2, hentry⟩

theorem SurveyOf.lookup_eq_some_iff (hof : SurveyOf top target read s) :
    s.sources.lookup path = some source ↔ (path, source) ∈ s.sources := by
  constructor
  · intro h
    obtain ⟨before, after, heq, -⟩ := List.lookup_eq_some_iff.mp h
    rw [heq]
    simp
  · intro h
    cases hlookup : s.sources.lookup path with
    | none =>
      have hne := List.lookup_eq_none_iff.mp hlookup (path, source) h
      simp at hne
    | some found =>
      obtain ⟨before, after, heq, -⟩ := List.lookup_eq_some_iff.mp hlookup
      have hfound : (path, found) ∈ s.sources := by
        rw [heq]
        simp
      -- a path has one source
      have hload := (hof.mem_sources_iff.mp h).2.symm.trans (hof.mem_sources_iff.mp hfound).2
      cases hload
      rfl

/-- What the file at a location is to be rewritten to: it has an issue, and repairing all of its text
made at least one edit. -/
def Survey.Rewrites (s : Survey) (read : ScriptReader) (top : FileTree) (location : List String)
    (text : List Char) : Prop :=
  ∃ issue ∈ s.issues, ∃ before r, top.locate issue.path = .ok (location, .file (.text before)) ∧
    repairSourceWith read issue.path s.config.strictness before = .ok r ∧ 0 < r.applied ∧ r.text = text

section Places

variable (hof : SurveyOf top target read s) (hnamed : top.wellNamed = true)

include hof hnamed

theorem SurveyOf.endsAtFile (h : path ∈ s.files) {tree : FileTree}
    (hlocate : top.locate path = .ok (location, tree)) : EndsAtFile top path location := by
  obtain ⟨place, hplace⟩ := exists_endsAtFile_of_mem_scan hnamed (hof.files ▸ h)
  obtain ⟨content, hfile⟩ := hplace.file
  have heq := (hplace.locate_eq hfile).symm.trans hlocate
  cases heq
  exact hplace

/-- A file that is rewritten was scanned and parsed, and whatever path it was scanned under, its repair
is the same. -/
theorem Survey.Rewrites.of_path (h : s.Rewrites read top location text) (hpath : path ∈ s.files)
    {tree : FileTree} (hlocate : top.locate path = .ok (location, tree)) :
    ∃ before source r, tree = .file (.text before) ∧ parseSourceWith read path before = .ok source ∧
      repairSourceWith read path s.config.strictness before = .ok r ∧ 0 < r.applied ∧
      r.text = text := by
  obtain ⟨issue, hissue, before, r, hissuePath, hrepair, happlied, htext⟩ := h
  obtain ⟨source, hsource⟩ := s.exists_mem_sources_of_mem_issues hissue
  obtain ⟨hfile, hload⟩ := hof.mem_sources_iff.mp hsource
  have hdialect := (hof.endsAtFile hnamed hfile hissuePath).dialectOf_eq
    (hof.endsAtFile hnamed hpath hlocate)
  -- both paths lead to the same text
  have htree : tree = .file (.text before) := Option.some.inj
    ((at?_of_locate hlocate).symm.trans (at?_of_locate hissuePath))
  obtain ⟨read, hread, hparse⟩ := loadSource_eq_ok_iff.mp hload
  have hbefore : read = before := by
    have heq := hread.symm.trans (readText_eq_ok_iff.mpr ⟨location, hissuePath⟩)
    cases heq
    rfl
  obtain ⟨source', hparse'⟩ := exists_parseSourceWith_of_dialectOf_eq hdialect (hbefore ▸ hparse)
  obtain ⟨r', hrepair', hsame⟩ := exists_repairSourceWith_of_dialectOf_eq hdialect hrepair
  refine ⟨before, source', r', htree, hparse', hrepair', ?_, ?_⟩
  · rw [hsame]
    exact happlied
  · rw [hsame]
    exact htext

/-- A file is to hold one text, although it may have been scanned under several paths. -/
theorem Survey.Rewrites.text_eq {other : List Char} (h : s.Rewrites read top location text)
    (hother : s.Rewrites read top location other) : text = other := by
  obtain ⟨issue, hissue, before, r, hlocate, hrepair, -, hr⟩ := hother
  obtain ⟨source, hsource⟩ := s.exists_mem_sources_of_mem_issues hissue
  obtain ⟨before', -, r', htree, -, hrepair', -, hr'⟩ :=
    h.of_path hof hnamed (hof.mem_sources_iff.mp hsource).1 hlocate
  cases htree
  rw [hrepair] at hrepair'
  cases hrepair'
  exact hr'.symm.trans hr

end Places

end MapLint

namespace MapLint.Command

open MapLint.Script MapLint.Lint MapLint.FileTree

variable {top : FileTree} {target : Target} {read : ScriptReader} {s : Survey} {location : List String}

/-! ## What is written -/

/-- Files with an issue are repaired, and what is repaired is all of their text. -/
theorem mem_repairs_iff (hof : SurveyOf top target read s) {f : RepairedFile} :
    f ∈ repairs s read ↔ (∃ issue ∈ s.issues, issue.path = f.path) ∧ ∃ text,
      top.readText f.path = .ok text ∧
        repairSourceWith read f.path s.config.strictness text = .ok f.repaired := by
  obtain ⟨path, repaired⟩ := f
  have hpath : path ∈ s.issuePaths ↔ ∃ issue ∈ s.issues, issue.path = path := by
    rw [Survey.issuePaths, mem_sortedPaths, List.mem_map]
  have hread : ∀ source, (path, source) ∈ s.sources →
      top.readText path = .ok (restoreMark source.marked source.code) := by
    intro source hsource
    obtain ⟨text, htext, hparse⟩ := loadSource_eq_ok_iff.mp (hof.mem_sources_iff.mp hsource).2
    have hmark := restoreMark_stripMark text
    rw [stripMark_of_parseSourceWith hparse] at hmark
    rw [hmark]
    exact htext
  rw [repairs, List.mem_filterMap]
  dsimp only
  constructor
  · rintro ⟨found, hfound, hsome⟩
    split at hsome
    case h_1 => cases hsome
    case h_2 source hlookup =>
      split at hsome
      case h_2 => cases hsome
      case h_1 r hrepair =>
        cases hsome
        exact ⟨hpath.mp hfound, _, hread source (hof.lookup_eq_some_iff.mp hlookup), hrepair⟩
  · rintro ⟨hissue, text, htext, hrepair⟩
    refine ⟨path, hpath.mpr hissue, ?_⟩
    obtain ⟨issue, hissue, rfl⟩ := hissue
    obtain ⟨source, hsource⟩ := s.exists_mem_sources_of_mem_issues hissue
    have heq := (hread source hsource).symm.trans htext
    cases heq
    rw [hof.lookup_eq_some_iff.mpr hsource]
    dsimp only
    rw [hrepair]

/-- The repaired texts that are written: those in which something was changed. -/
def repairWrites (s : Survey) (read : ScriptReader) : List (Path × List Char) :=
  ((repairs s read).filter (·.repaired.changed)).map fun f => (f.path, f.repaired.text)

theorem writes_fixOutcome {options : Options} (h : survey top options.target read = .ok s)
    (happly : options.apply = true) (styled : Bool) :
    (fixOutcome top styled options read).writes = repairWrites s read := by
  rw [fixOutcome, h]
  dsimp only
  split
  case isTrue hempty =>
    have hnone : repairs s read = [] := by
      rw [repairs, Survey.issuePaths, List.isEmpty_iff.mp hempty]
      rfl
    rw [repairWrites, hnone]
    rfl
  case isFalse => rfl

theorem writes_fixOutcome_of_not_apply {options : Options} (happly : options.apply = false)
    (styled : Bool) : (fixOutcome top styled options read).writes = [] := by
  rw [fixOutcome]
  split
  case h_1 => rfl
  case h_2 =>
    dsimp only
    split
    case isTrue => rfl
    case isFalse =>
      rw [happly]
      rfl

theorem writes_checkOutcome (top : FileTree) (styled : Bool) (options : Options)
    (read : ScriptReader) : (checkOutcome top styled options read).writes = [] := by
  rw [checkOutcome]
  split <;> rfl

theorem mem_writes_iff (hof : SurveyOf top target read s) {w : Path × List Char} :
    w ∈ repairWrites s read ↔
      ∃ issue ∈ s.issues, issue.path = w.1 ∧ ∃ location before r,
        top.locate w.1 = .ok (location, .file (.text before)) ∧
          repairSourceWith read w.1 s.config.strictness before = .ok r ∧
            0 < r.applied ∧ r.text = w.2 := by
  rw [repairWrites, List.mem_map]
  constructor
  · rintro ⟨f, hf, rfl⟩
    obtain ⟨hf, hchanged⟩ := List.mem_filter.mp hf
    obtain ⟨⟨issue, hissue, hpath⟩, before, hread, hrepair⟩ := (mem_repairs_iff hof).mp hf
    obtain ⟨location, hlocate⟩ := readText_eq_ok_iff.mp hread
    exact ⟨issue, hissue, hpath, location, before, f.repaired, hlocate, hrepair,
      of_decide_eq_true hchanged, rfl⟩
  · rintro ⟨issue, hissue, hpath, location, before, r, hlocate, hrepair, happlied, htext⟩
    refine ⟨⟨w.1, r⟩, List.mem_filter.mpr ⟨(mem_repairs_iff hof).mpr ?_, ?_⟩, ?_⟩
    · exact ⟨⟨issue, hissue, hpath⟩, before, readText_eq_ok_iff.mpr ⟨location, hlocate⟩, hrepair⟩
    · exact decide_eq_true happlied
    · rw [htext]

/-! ## Before and after -/

/-- A location holds what its file is to be rewritten to, or else what it held. -/
def WrittenAt (read : ScriptReader) (top after : FileTree) (s : Survey) (location : List String) :
    Prop :=
  (∃ text, s.Rewrites read top location text ∧ after.itemAt? location = some (.file (.text text))) ∨
    (∀ text, ¬ s.Rewrites read top location text) ∧ after.itemAt? location = top.itemAt? location

theorem WrittenAt.kept {after : FileTree} (h : WrittenAt read top after s location)
    (hnone : ∀ text, ¬ s.Rewrites read top location text) :
    after.itemAt? location = top.itemAt? location := by
  rcases h with ⟨text, htext, -⟩ | ⟨-, hitem⟩
  · exact absurd htext (hnone text)
  · exact hitem

/-- What a project holds after a fix of what was surveyed. -/
structure RepairsWritten (read : ScriptReader) (top after : FileTree) (s : Survey) : Prop where
  /-- A file with an issue whose repair made an edit holds what the repair gave. -/
  rewritten : ∀ location text, s.Rewrites read top location text →
    after.itemAt? location = some (.file (.text text))
  /-- Nothing else has changed, been added or gone: no file, no directory and no link. -/
  kept : ∀ location, (∀ text, ¬ s.Rewrites read top location text) →
    after.itemAt? location = top.itemAt? location
  /-- What parsed before still parses, except for a file that was rewritten, had a mark in front, and
  now begins with three. -/
  parses : ∀ path source, (path, source) ∈ s.sources → ∃ text, after.readText path = .ok text ∧
    ((∃ again, parseSourceWith read path text = .ok again) ∨
      top.readText path ≠ .ok text ∧ source.marked = true ∧
        [byteOrderMark, byteOrderMark, byteOrderMark] <+: text)
  /-- A file that could not be read or parsed holds what it held. -/
  failed : ∀ failure ∈ s.failures, ∃ location content,
    top.locate failure.path = .ok (location, .file content) ∧
      after.itemAt? location = some (.file content)
  /-- So does what is not among the scanned files. -/
  unscanned : ∀ location, (∀ path ∈ s.files, ∀ tree, top.locate path ≠ .ok (location, tree)) →
    after.itemAt? location = top.itemAt? location
  /-- So does a file whose first pass was taken back, or that had none. -/
  unpassed : ∀ path ∈ s.files, ∀ location before r,
    top.locate path = .ok (location, .file (.text before)) →
      repairSourceWith read path s.config.strictness before = .ok r → r.passes = 0 →
        after.itemAt? location = some (.file (.text before))

section Comparison

variable {after : FileTree} (hof : SurveyOf top target read s) (hnamed : top.wellNamed = true)

include hof hnamed

/-- Whatever the order of the writes, every location comes out as it should. -/
theorem writtenAt_of_writes {writes : List (Path × List Char)}
    (hwrites : writes.Perm (repairWrites s read)) :
    let after := writes.foldl (fun top w => top.writeText w.1 w.2) top
    Alike top after ∧ ∀ location, WrittenAt read top after s location := by
  intro after
  have hmem : ∀ w, w ∈ writes ↔ _ := fun w => hwrites.mem_iff.trans (mem_writes_iff hof)
  have hends : ∀ {path tree place}, (∃ issue ∈ s.issues, issue.path = path) →
      top.locate path = .ok (place, tree) → EndsAtFile top path place := by
    rintro path tree place ⟨issue, hissue, rfl⟩ hlocate
    obtain ⟨source, hsource⟩ := s.exists_mem_sources_of_mem_issues hissue
    exact hof.endsAtFile hnamed (hof.mem_sources_iff.mp hsource).1 hlocate
  have hplaces : ∀ w ∈ writes, ∃ place, EndsAtFile top w.1 place := by
    intro w hw
    obtain ⟨issue, hissue, hpath, place, before, r, hlocate, -⟩ := (hmem w).mp hw
    exact ⟨place, hends ⟨issue, hissue, hpath⟩ hlocate⟩
  obtain ⟨halike, hitems⟩ := foldl_writeText hplaces
  refine ⟨halike, fun location => ?_⟩
  rcases hitems location with ⟨w, hw, hplace, hitem⟩ | ⟨hnone, hitem⟩
  · obtain ⟨issue, hissue, hpath, place, before, r, hlocate, hrepair, happlied, htext⟩ :=
      (hmem w).mp hw
    obtain rfl : place = location :=
      (hends ⟨issue, hissue, hpath⟩ hlocate).location_eq hplace
    rw [← hpath] at hlocate hrepair
    exact .inl ⟨w.2, ⟨issue, hissue, before, r, hlocate, hrepair, happlied, htext⟩, hitem⟩
  · refine .inr ⟨?_, hitem⟩
    rintro text ⟨issue, hissue, before, r, hlocate, hrepair, happlied, htext⟩
    refine hnone (issue.path, text) ((hmem _).mpr ?_) (hends ⟨issue, hissue, rfl⟩ hlocate)
    exact ⟨issue, hissue, rfl, location, before, r, hlocate, hrepair, happlied, htext⟩

theorem not_rewrites_of_mem_failures {failure : FileFailure} {tree : FileTree}
    (hfailure : failure ∈ s.failures) (hlocate : top.locate failure.path = .ok (location, tree))
    (text : List Char) : ¬ s.Rewrites read top location text := by
  intro htext
  obtain ⟨hpath, hload⟩ := hof.mem_failures_iff.mp hfailure
  obtain ⟨before, source, -, rfl, hparse, -⟩ := htext.of_path hof hnamed hpath hlocate
  have hok := loadSource_eq_ok_iff.mpr ⟨before, readText_eq_ok_iff.mpr ⟨location, hlocate⟩, hparse⟩
  rw [hload] at hok
  cases hok

theorem not_rewrites_of_passes_eq_zero {path : Path} {before : List Char} {r : Repaired ParseFailure}
    (hpath : path ∈ s.files) (hlocate : top.locate path = .ok (location, .file (.text before)))
    (hrepair : repairSourceWith read path s.config.strictness before = .ok r) (hpasses : r.passes = 0)
    (text : List Char) : ¬ s.Rewrites read top location text := by
  intro htext
  obtain ⟨before', -, r', htree, -, hrepair', happlied, -⟩ := htext.of_path hof hnamed hpath hlocate
  cases htree
  rw [hrepair] at hrepair'
  cases hrepair'
  obtain ⟨inner, hsettled, rfl⟩ := exists_settled_of_repairSourceWith hrepair
  exact absurd (hsettled.passes.applied_eq_zero hpasses) (Nat.ne_of_gt happlied)

theorem exists_readText_of_writtenAt {path : Path} {source : Source} (halike : Alike top after)
    (hwritten : ∀ location, WrittenAt read top after s location) (hsource : (path, source) ∈ s.sources) :
    ∃ text, after.readText path = .ok text ∧
      ((∃ again, parseSourceWith read path text = .ok again) ∨
        top.readText path ≠ .ok text ∧ source.marked = true ∧
          [byteOrderMark, byteOrderMark, byteOrderMark] <+: text) := by
  obtain ⟨hpath, hload⟩ := hof.mem_sources_iff.mp hsource
  obtain ⟨before, hread, hparse⟩ := loadSource_eq_ok_iff.mp hload
  obtain ⟨location, hlocate⟩ := readText_eq_ok_iff.mp hread
  have hends := (hof.endsAtFile hnamed hpath hlocate).alike halike
  rcases hwritten location with ⟨text, htext, hitem⟩ | ⟨-, hitem⟩
  · refine ⟨text, readText_eq_ok_iff.mpr ⟨location, hends.locate_eq hitem⟩, ?_⟩
    obtain ⟨before', -, r, htree, -, hrepair, -, rfl⟩ := htext.of_path hof hnamed hpath hlocate
    cases htree
    rcases parses_of_repairSourceWith hrepair with hagain | ⟨hmarked, hmarks⟩
    · exact .inl hagain
    by_cases hsame : before = r.text
    · exact .inl ⟨source, hsame ▸ hparse⟩
    rw [stripMark_of_parseSourceWith hparse] at hmarked
    exact .inr ⟨fun heq => hsame (Except.ok.inj (hread.symm.trans heq)), hmarked, hmarks⟩
  · rw [itemAt?_eq_file_iff.mpr (at?_of_locate hlocate)] at hitem
    exact ⟨before, readText_eq_ok_iff.mpr ⟨location, hends.locate_eq hitem⟩, .inl ⟨source, hparse⟩⟩

theorem repairsWritten_of_writes {writes : List (Path × List Char)}
    (hwrites : writes.Perm (repairWrites s read)) :
    RepairsWritten read top (writes.foldl (fun top w => top.writeText w.1 w.2) top) s := by
  obtain ⟨halike, hwritten⟩ := writtenAt_of_writes hof hnamed hwrites
  refine ⟨fun location text htext => ?_, fun location => (hwritten location).kept,
    fun path source => exists_readText_of_writtenAt hof hnamed halike hwritten,
    fun failure hfailure => ?_, fun location hlocation => (hwritten location).kept ?_,
    fun path hpath location before r hlocate hrepair hpasses => ?_⟩
  · rcases hwritten location with ⟨other, hother, hitem⟩ | ⟨hnone, -⟩
    · rw [htext.text_eq hof hnamed hother]
      exact hitem
    · exact absurd htext (hnone text)
  · obtain ⟨location, hends⟩ :=
      exists_endsAtFile_of_mem_scan hnamed (hof.files ▸ (hof.mem_failures_iff.mp hfailure).1)
    obtain ⟨content, hfile⟩ := hends.file
    have hlocate := hends.locate_eq hfile
    refine ⟨location, content, hlocate, ((hwritten location).kept ?_).trans hfile⟩
    exact not_rewrites_of_mem_failures hof hnamed hfailure hlocate
  · rintro text ⟨issue, hissue, before, r, hlocate, -⟩
    obtain ⟨source, hsource⟩ := s.exists_mem_sources_of_mem_issues hissue
    exact hlocation _ (hof.mem_sources_iff.mp hsource).1 _ hlocate
  · rw [← itemAt?_eq_file_iff.mpr (at?_of_locate hlocate)]
    exact (hwritten location).kept
      (not_rewrites_of_passes_eq_zero hof hnamed hpath hlocate hrepair hpasses)

end Comparison

/-- What the commands write, for every project and every line of arguments, whatever reads the scripts
and in whatever order the files are written. A check and a fix that is not applied leave the project as
it is, and so does one that could not survey it. A fix that is applied leaves in every file that has an
issue what its repair gave, if that made an edit, and nothing else has changed: `RepairsWritten` says in
full what that comes to. -/
theorem run_writes_repairs {read : ScriptReader} {top : FileTree} (hnamed : top.wellNamed = true)
    (env : Environment) (arguments : List String) {writes : List (Path × List Char)}
    (hwrites : writes.Perm (run env top arguments read).writes) :
    let after := Outcome.applyTo { run env top arguments read with writes } top
    (∀ options, readArguments env.strictness arguments = .ok (.check options) → after = top) ∧
    ∀ options, readArguments env.strictness arguments = .ok (.fix options) →
      (options.apply = false → after = top) ∧
      (∀ e, survey top options.target read = .error e → after = top) ∧
      (options.apply = true → ∀ s, survey top options.target read = .ok s →
        RepairsWritten read top after s) := by
  intro after
  have hnone : (run env top arguments read).writes = [] → after = top := by
    intro hnil
    rw [hnil] at hwrites
    show writes.foldl _ top = top
    rw [hwrites.eq_nil]
    rfl
  refine ⟨fun options hoptions => hnone ?_, fun options hoptions => ⟨fun happly => hnone ?_,
    fun e he => hnone ?_, fun happly s hs => ?_⟩⟩
  · rw [run, hoptions]
    exact writes_checkOutcome top env.styled options read
  · rw [run, hoptions]
    exact writes_fixOutcome_of_not_apply happly env.styled
  · rw [run, hoptions]
    show (fixOutcome top env.styled options read).writes = []
    rw [fixOutcome, he]
    rfl
  · refine repairsWritten_of_writes (surveyOf hs) hnamed ?_
    rw [run, hoptions] at hwrites
    rwa [← writes_fixOutcome hs happly env.styled]

/-- Two files with a call each, one that does not parse, and a link. -/
def twoCalls : FileTree :=
  .dir [.mk "a.js" (.file (.text "_.map([0], f);\n".toList)), .mk "b.js" (.file (.text "(".toList)),
    .mk "c.js" (.file (.text "_.map([1], g);\n".toList)), .mk "d.js" (.link "a.js")]

set_option maxRecDepth 100000 in
/-- Written from the last to the first, both calls are replaced, and the file that does not parse is
left alone. -/
theorem run_writes_repairs_backwards :
    let outcome := run {} twoCalls ["fix", "--apply"]
    let after := Outcome.applyTo { outcome with writes := outcome.writes.reverse } twoCalls
    ∃ s, survey twoCalls {} = .ok s ∧ s.issues.map Issue.path = ["./a.js", "./c.js"] ∧
      RepairsWritten parseChars twoCalls after s ∧
      after.itemAt? ["a.js"] = some (.file (.text "[0].map(f);\n".toList)) := by
  intro outcome after
  have hread : (survey twoCalls {}).toOption.map (fun s =>
      (s.issues.map Issue.path, s.config.strictness)) =
        some (["./a.js", "./c.js"], Strictness.strict) := by decide +kernel
  have hrepair : (repairSource "./a.js" .strict "_.map([0], f);\n".toList).toOption.map
      Repaired.toProgress = some ⟨"[0].map(f);\n".toList, 1, 1⟩ := by decide +kernel
  have hoptions : readArguments none ["fix", "--apply"] = .ok (.fix { apply := true }) := by
    decide +kernel
  obtain ⟨s, hs, hissues, hstrictness⟩ : ∃ s, survey twoCalls {} = .ok s ∧
      s.issues.map Issue.path = ["./a.js", "./c.js"] ∧ s.config.strictness = .strict := by
    cases hsurvey : survey twoCalls {} with
    | error e =>
      rw [hsurvey] at hread
      cases hread
    | ok s =>
      rw [hsurvey] at hread
      have hboth := Prod.mk.inj (Option.some.inj hread)
      exact ⟨s, rfl, hboth.1, hboth.2⟩
  obtain ⟨r, hr, hprogress⟩ : ∃ r, repairSource "./a.js" .strict "_.map([0], f);\n".toList = .ok r ∧
      r.toProgress = ⟨"[0].map(f);\n".toList, 1, 1⟩ := by
    cases hresult : repairSource "./a.js" .strict "_.map([0], f);\n".toList with
    | error e =>
      rw [hresult] at hrepair
      cases hrepair
    | ok r =>
      rw [hresult] at hrepair
      exact ⟨r, rfl, Option.some.inj hrepair⟩
  have hafter : RepairsWritten parseChars twoCalls after s :=
    ((run_writes_repairs (by decide +kernel) {} ["fix", "--apply"] (List.reverse_perm _)).2 _
      hoptions).2.2 rfl s hs
  refine ⟨s, hs, hissues, hafter, hafter.rewritten ["a.js"] _ ?_⟩
  obtain ⟨issue, hissue, hpath⟩ : ∃ issue ∈ s.issues, issue.path = "./a.js" := by
    rw [← List.mem_map, hissues]
    exact List.mem_cons_self
  refine ⟨issue, hissue, "_.map([0], f);\n".toList, r, ?_, ?_, ?_, ?_⟩
  · rw [hpath]
    rfl
  · rw [hpath, hstrictness]
    exact hr
  · rw [hprogress]
    exact Nat.one_pos
  · rw [hprogress]

/-- A call behind three marks. -/
def threeMarks : FileTree :=
  .dir [.mk "a.js" (.file (.text ("\uFEFF\uFEFF\uFEFF;;;;;\n_.map(//#!\nitems, ()=>g(1,2)     )\n" ++
    "var items=[1];\n").toList))]

set_option maxRecDepth 100000 in
/-- The exception is met: of the three marks in front two are taken off before the file is read, but the
loop has taken off one more, so that it sees a first line where a reader of the file sees none. -/
theorem rewritten_file_stops_parsing :
    let after := (run {} threeMarks ["fix", "--apply", "--strictness", "loose"]).applyTo threeMarks
    ∃ old new, threeMarks.readText "./a.js" = .ok old ∧ (parseSource "./a.js" old).toBool = true ∧
      after.readText "./a.js" = .ok new ∧ (parseSource "./a.js" new).toBool = false :=
  ⟨"\uFEFF\uFEFF\uFEFF;;;;;\n_.map(//#!\nitems, ()=>g(1,2)     )\nvar items=[1];\n".toList,
    "\uFEFF\uFEFF\uFEFF#!\nit.map(s, ()=>g(1)     )\nvar items=[1];\n".toList,
    by decide +kernel, by decide +kernel, by decide +kernel, by decide +kernel⟩

end MapLint.Command
