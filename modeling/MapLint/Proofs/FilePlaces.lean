import MapLint.Lint.Repair
import MapLint.Proofs.ScannedFiles
import MapLint.Proofs.TreeWrites

/-!
# One file under several paths

A scan may find a file more than once, under different paths, and the dialect in which the file is
read depends on the path. But it depends on the name at the end of the path only, and since a scan
follows no link to a file, that is the name of the file itself. So all paths of a file agree on
whether it parses and on what a repair makes of it.

## Architecture

- `exists_endsAtFile_of_mem_scan` says that scanned paths end at a file;
- `EndsAtFile.dialectOf_eq` compares the dialects of two such paths;
- `repairFrom_progress_eq` says that a repair depends on the parser only through what it accepts, and
  `exists_repairSourceWith_of_dialectOf_eq` joins the two.
-/

namespace MapLint

open MapLint.Script

/-! ## Scanned paths -/

namespace FileTree

variable {top tree : FileTree} {path : Path} {content : Content} {location names : List String}

theorem exists_endsAtFile_of_locateEntry (h : top.locateEntry path = .ok (.file content))
    (hname : path.fileName? ≠ none) : ∃ location, EndsAtFile top path location := by
  rcases locateEntry_cases h with ⟨hdir | hnone, location, hlocate⟩ |
      ⟨front, name, place, hpath, hdir, hplace, hat⟩
  · -- a path that asks for a directory does not lead to a file
    have hisDir := (locate_eq_ok_iff_resolve.mp hlocate).2.2.2 hdir
    cases hisDir
  · exact absurd hnone hname
  · exact ⟨place ++ [name], ⟨front, name, place, hpath, hplace, rfl⟩, hdir, content,
      itemAt?_eq_file_iff.mpr hat⟩

theorem endsAtFile_descend (hpath : top.locate path = .ok (location, tree))
    (hfile : tree.at? names = some (.file content)) (hnames : ∀ name ∈ names, Path.IsName name)
    (hne : names ≠ []) : EndsAtFile top (path.descend names) (location ++ names) := by
  obtain ⟨-, hresolve, hat, -⟩ := locate_eq_ok_iff_resolve.mp hpath
  have hend : top.at? (location ++ names) = some (.file content) := by
    rw [at?_append, hat, Option.bind_some, hfile]
  obtain ⟨front, last, rfl⟩ : ∃ front last, names = front ++ [last] :=
    ⟨_, _, (List.dropLast_concat_getLast hne).symm⟩
  obtain ⟨entries, hdir, -⟩ := exists_dir_of_at?_concat hfile
  refine ⟨⟨path.components ++ front.map .name, last, location ++ front, ?_, ?_, ?_⟩, ?_, content,
    itemAt?_eq_file_iff.mpr hend⟩
  · rw [Path.components_descend hnames, List.map_append, List.append_assoc]
    rfl
  · exact resolve_append hresolve (advance_names_of_ne_link hat hdir fun target => nofun)
  · exact (List.append_assoc ..).symm
  · exact namesDirectory_descend hnames hne

end FileTree

open FileTree in
/-- A scan finds files, each by its own name. -/
theorem exists_endsAtFile_of_mem_scan {top : FileTree} (hnamed : top.wellNamed = true) {base : Path}
    {includes ignores : List String} {ignoreTestFiles : Bool} {file : Path}
    (h : file ∈ (scan top base includes ignores ignoreTestFiles).files) :
    ∃ location, EndsAtFile top file location := by
  obtain ⟨hscript, -, root, -, files, hfiles, hfile⟩ := mem_scan_iff.mp h
  obtain ⟨location, tree, hlocate, hwalk, hentry⟩ := exists_walk_of_scanRoot hfiles hfile
  have htree : tree.wellNamed = true := everywhere_at? hnamed (at?_of_locate hlocate)
  obtain ⟨names, content, rfl, hat, -⟩ := (mem_filesBelow_iff htree).mp hwalk
  cases hcase : names with
  | cons name rest =>
    rw [← hcase]
    have hne : names ≠ [] := by
      rw [hcase]
      exact List.cons_ne_nil _ _
    exact ⟨_, endsAtFile_descend hlocate hat (isName_of_at? htree hat) hne⟩
  | nil =>
    -- the root itself is the file
    rw [hcase] at hat hscript
    cases hat
    have hroot := hentry.resolve_left Bool.false_ne_true
    refine exists_endsAtFile_of_locateEntry hroot fun hnone => ?_
    rw [isScript, Path.extension?, hnone] at hscript
    cases hscript

/-! ## The name at the end -/

namespace Path

theorem eq_or_exists_of_getLast?_splitSlashes {cs part : List Char}
    (h : (splitSlashes cs).getLast? = some part) : cs = part ∨ ∃ front, cs = front ++ '/' :: part := by
  obtain ⟨before, hbefore⟩ := List.getLast?_eq_some_iff.mp h
  have hpart : splitSlashes part = [part] :=
    splitSlashes_of_not_mem (not_mem_of_mem_splitSlashes (List.mem_of_getLast? h))
  cases hcase : before with
  | nil =>
    refine .inl (splitSlashes_inj ?_)
    rw [hbefore, hpart, hcase, List.nil_append]
  | cons first rest =>
    have hslash : ∀ p ∈ before, '/' ∉ p := fun p hp =>
      not_mem_of_mem_splitSlashes (hbefore ▸ List.mem_append_left _ hp)
    have hsplit : splitSlashes (['/'].intercalate before) = before := by
      rw [splitSlashes_eq_splitOn]
      exact List.splitOn_intercalate '/' hslash (by rw [hcase]; exact List.cons_ne_nil _ _)
    refine .inr ⟨['/'].intercalate before, splitSlashes_inj ?_⟩
    rw [splitSlashes_append_slash, hsplit, hpart, hbefore]

/-- A spelling that does not ask for a directory ends with the name of the file. -/
theorem getLast?_splitSlashes_of_fileName? {path : Path} {name : String}
    (hdir : FileTree.namesDirectory path = false) (h : path.fileName? = some name) :
    (splitSlashes path.toList).getLast? = some name.toList := by
  cases hlast : (splitSlashes path.toList).getLast? with
  | none => exact absurd (List.getLast?_eq_none_iff.mp hlast) (splitSlashes_ne_nil _)
  | some part =>
    rw [FileTree.namesDirectory, hlast] at hdir
    obtain ⟨hempty, hdot⟩ : part ≠ [] ∧ part ≠ ['.'] := by simpa using hdir
    obtain ⟨before, hbefore⟩ := List.getLast?_eq_some_iff.mp hlast
    have hparts : path.parts = before ++ [part] := by
      rw [parts, trimmed, hlast, if_neg (by simpa using hempty), hbefore]
    have hlead : lead? part = component? part := by
      rw [lead?, if_neg hempty, if_neg hdot]
    obtain ⟨c, hc⟩ := exists_lead part
    have hcomponents : path.components.getLast? = some c := by
      rw [components_eq, hparts]
      cases before with
      | nil => rw [List.nil_append, componentsOf, hc]; rfl
      | cons first rest =>
        rw [componentsOf_append (List.cons_ne_nil _ _), List.filterMap_cons, ← hlead, hc]
        exact List.getLast?_concat
    rw [fileName?, hcomponents] at h
    rw [hlead, component?, if_neg (by simp [hempty, hdot])] at hc
    split at hc
    case isTrue =>
      cases hc
      cases h
    case isFalse =>
      cases hc
      cases h
      rw [String.toList_ofList]

/-- Where the path ends in a text without a slash, the name does. -/
theorem endsIn_eq_of_fileName? {path : Path} {name text : String}
    (hdir : FileTree.namesDirectory path = false) (h : path.fileName? = some name)
    (htext : '/' ∉ text.toList) : path.endsIn text = text.toList.isSuffixOf name.toList := by
  rw [endsIn, Bool.eq_iff_iff, List.isSuffixOf_iff_suffix, List.isSuffixOf_iff_suffix]
  rcases eq_or_exists_of_getLast?_splitSlashes (getLast?_splitSlashes_of_fileName? hdir h) with
    heq | ⟨front, heq⟩
  · rw [heq]
  · rw [heq]
    constructor
    · intro hsuffix
      rcases List.suffix_or_suffix_of_suffix hsuffix
          (List.suffix_append_of_suffix (List.suffix_refl ('/' :: name.toList))) with hshort | hlong
      · rcases List.suffix_cons_iff.mp hshort with heq | hname
        · exact absurd (heq ▸ List.mem_cons_self) htext
        · exact hname
      · exact absurd (hlong.subset List.mem_cons_self) htext
    · exact fun hsuffix => hsuffix.trans ((List.suffix_cons _ _).trans (List.suffix_append _ _))

end Path

theorem dialectOf_eq {p q : Path} (hname : p.fileName? = q.fileName?) (hsome : p.fileName? ≠ none)
    (hp : FileTree.namesDirectory p = false) (hq : FileTree.namesDirectory q = false) :
    dialectOf p = dialectOf q := by
  obtain ⟨name, hpname⟩ := Option.ne_none_iff_exists'.mp hsome
  have hqname : q.fileName? = some name := hname ▸ hpname
  have hends : ∀ text : String, '/' ∉ text.toList → p.endsIn text = q.endsIn text := by
    intro text htext
    rw [Path.endsIn_eq_of_fileName? hp hpname htext, Path.endsIn_eq_of_fileName? hq hqname htext]
  have hextension : p.extension? = q.extension? := by
    rw [Path.extension?, Path.extension?, hname]
  rw [dialectOf, dialectOf, hextension, hends ".d.ts" (by decide), hends ".d.mts" (by decide),
    hends ".d.cts" (by decide)]

theorem FileTree.EndsAtFile.fileName?_eq {top : FileTree} {path : Path} {location : List String}
    (h : EndsAtFile top path location) : path.fileName? = location.getLast? := by
  obtain ⟨front, name, place, hcomponents, -, rfl⟩ := h.place
  rw [Path.fileName?, hcomponents, List.getLast?_concat, List.getLast?_concat]

/-- All paths of a file give it the same dialect. -/
theorem FileTree.EndsAtFile.dialectOf_eq {top : FileTree} {p q : Path} {location : List String}
    (hp : EndsAtFile top p location) (hq : EndsAtFile top q location) :
    MapLint.dialectOf p = MapLint.dialectOf q := by
  refine MapLint.dialectOf_eq (hp.fileName?_eq.trans hq.fileName?_eq.symm) ?_ hp.spelled hq.spelled
  obtain ⟨front, name, place, hcomponents, -, -⟩ := hp.place
  simp [Path.fileName?, hcomponents]

/-! ## Reading and repairing -/

variable {read : ScriptReader} {p q path : Path} {text : List Char}

theorem exists_parseSourceWith_iff :
    (∃ source, parseSourceWith read path text = .ok source) ↔
      ∃ parsed, read (dialectOf path) (stripMark (stripMark text).1).1 = .ok parsed := by
  unfold parseSourceWith
  dsimp only
  cases read (dialectOf path) (stripMark (stripMark text).1).1 <;> simp

theorem exists_parseSourceWith_of_dialectOf_eq (h : dialectOf p = dialectOf q) {source : Source}
    (hparse : parseSourceWith read p text = .ok source) :
    ∃ again, parseSourceWith read q text = .ok again := by
  have hparsed := exists_parseSourceWith_iff.mp ⟨source, hparse⟩
  rw [h] at hparsed
  exact exists_parseSourceWith_iff.mpr hparsed

theorem toOption_parseSourceWith_eq (h : dialectOf p = dialectOf q) (text : List Char) :
    (parseSourceWith read p text).toOption = (parseSourceWith read q text).toOption := by
  unfold parseSourceWith
  dsimp only
  rw [h]
  split <;> rfl

namespace Lint

variable {α ε ε' : Type} {parse : List Char → Except ε α} {parse' : List Char → Except ε' α}

/-- What a repair comes to depends on what parses, not on why something does not. Induction on the
rounds that are left. -/
theorem repairFrom_progress_eq (h : ∀ text, (parse text).toOption = (parse' text).toOption)
    (editsFor : Nat → α → List Edit) (n : Nat) (s : Loop) :
    (repairFrom parse editsFor n s).toOption.map Repaired.toProgress =
      (repairFrom parse' editsFor n s).toOption.map Repaired.toProgress := by
  induction n generalizing s with
  | zero => rfl
  | succ n ih =>
    have htext := h s.text
    rw [repairFrom, repairFrom, Loop.round, Loop.round]
    cases hleft : parse s.text with
    | error e =>
      cases hright : parse' s.text with
      | ok parsed =>
        rw [hleft, hright] at htext
        cases htext
      | error e' => cases s.lastGood <;> rfl
    | ok parsed =>
      cases hright : parse' s.text with
      | error e' =>
        rw [hleft, hright] at htext
        cases htext
      | ok parsed' =>
        rw [hleft, hright] at htext
        cases htext
        dsimp only
        by_cases hlast : s.passes = maxPasses
        · rw [if_pos hlast, if_pos hlast]
          rfl
        · rw [if_neg hlast, if_neg hlast]
          by_cases hnone : (applyEdits s.text (editsFor s.passes parsed)).applied = 0
          · rw [if_pos hnone, if_pos hnone]
            rfl
          · rw [if_neg hnone, if_neg hnone]
            exact ih _

theorem repairSourceWith_progress_eq (read : ScriptReader) (h : dialectOf p = dialectOf q)
    (strictness : Strictness) (text : List Char) :
    (repairSourceWith read p strictness text).toOption.map Repaired.toProgress =
      (repairSourceWith read q strictness text).toOption.map Repaired.toProgress := by
  -- the mark is put back behind the loop, whatever path the file was read under
  have hmark : ∀ path : Path,
      (repairSourceWith read path strictness text).toOption.map Repaired.toProgress =
      ((repairFrom (parseSourceWith read path) (repairEdits strictness) (maxPasses + 1)
        { text := (stripMark text).1 }).toOption.map Repaired.toProgress).map fun p =>
          { p with text := restoreMark (stripMark text).2 p.text } := by
    intro path
    have hunfold : repairSourceWith read path strictness text =
        (repairFrom (parseSourceWith read path) (repairEdits strictness) (maxPasses + 1)
          { text := (stripMark text).1 }).map
            fun r => { r with text := restoreMark (stripMark text).2 r.text } := rfl
    rw [hunfold]
    cases repairFrom (parseSourceWith read path) (repairEdits strictness) (maxPasses + 1)
      { text := (stripMark text).1 } <;> rfl
  rw [hmark, hmark, repairFrom_progress_eq (toOption_parseSourceWith_eq h)]

/-- All paths of one dialect agree on what a repair makes of a text. -/
theorem exists_repairSourceWith_of_dialectOf_eq (h : dialectOf p = dialectOf q)
    {strictness : Strictness} {r : Repaired ParseFailure}
    (hrepair : repairSourceWith read p strictness text = .ok r) :
    ∃ again, repairSourceWith read q strictness text = .ok again ∧ again.toProgress = r.toProgress := by
  have hprogress := repairSourceWith_progress_eq read h strictness text
  rw [hrepair] at hprogress
  cases hagain : repairSourceWith read q strictness text with
  | error e =>
    rw [hagain] at hprogress
    cases hprogress
  | ok again =>
    rw [hagain] at hprogress
    exact ⟨again, rfl, (Option.some.inj hprogress).symm⟩

end Lint

end MapLint
