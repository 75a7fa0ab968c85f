import MapLint.Project.Scan
import MapLint.Proofs.Locations
import Mathlib.Data.String.Basic
import MapLint.Proofs.Sorting

/-!
# Which files a scan finds

A scan walks from every root, filters what it met and sorts it. Here its outcome is told file by file:
what the walk below a root lists is the root gone on by the names that lead to a file, with nothing
ignored on the way, and a file of the scan comes from one of the roots.

## Architecture

- `FileTree.induction` is the induction that the walk follows: a directory is settled once all that is
  in it is;
- `mem_filesBelow_iff` is the walk, `RootOf` tells the roots apart, and `exists_walk_of_scanRoot` is
  the walk from one of them;
- `mem_scan_iff` is the scan, and `nodup_sortedPaths` that no spelling is listed twice;
- `not_prefix_of_not_ignores` is what the rules say of a path that is to be left out.
-/

namespace MapLint

/-! ## The walk -/

/-- A directory is settled once everything in it is. -/
theorem FileTree.induction {motive : FileTree → Prop} (file : ∀ content, motive (.file content))
    (link : ∀ target, motive (.link target))
    (dir : ∀ entries : List Entry, (∀ entry ∈ entries, motive entry.tree) → motive (.dir entries)) :
    ∀ tree, motive tree
  | .file content => file content
  | .link target => link target
  | .dir entries => dir entries fun entry hentry =>
    have hlt : sizeOf entry.tree < sizeOf (FileTree.dir entries) := by
      obtain ⟨name, tree⟩ := entry
      have hmem := List.sizeOf_lt_of_mem hentry
      simp only [Entry.mk.sizeOf_spec, FileTree.dir.sizeOf_spec, Entry.tree] at hmem ⊢
      omega
    FileTree.induction file link dir entry.tree
termination_by tree => sizeOf tree
decreasing_by exact hlt

variable {rules : IgnoreRules} {path root file : Path} {top tree : FileTree} {entries : List Entry}

theorem mem_filesOfEntries_iff :
    file ∈ filesOfEntries rules path entries ↔ ∃ entry ∈ entries,
      rules.ignores (path.join entry.name) = false ∧
        file ∈ filesBelow rules (path.join entry.name) entry.tree := by
  induction entries with
  | nil => simp [filesOfEntries]
  | cons entry entries ih =>
    obtain ⟨name, tree⟩ := entry
    rw [filesOfEntries, List.mem_append, ih]
    simp only [List.mem_cons, exists_eq_or_imp]
    refine or_congr_left ?_
    show _ ↔ rules.ignores (path.join name) = false ∧ file ∈ filesBelow rules (path.join name) tree
    cases rules.ignores (path.join name) <;> simp

/-- The walk below a path lists the files of the tree that stands there, each as the path gone on by
the names that lead to it; what is ignored on the way is not entered. -/
theorem mem_filesBelow_iff (hnamed : tree.wellNamed = true) :
    file ∈ filesBelow rules path tree ↔ ∃ names content, file = path.descend names ∧
      tree.at? names = some (.file content) ∧
      ∀ before, before <+: names → before ≠ [] → rules.ignores (path.descend before) = false := by
  induction tree using FileTree.induction generalizing path with
  | file content =>
    rw [filesBelow, List.mem_singleton]
    constructor
    · rintro rfl
      refine ⟨[], content, rfl, rfl, fun before hbefore hne => ?_⟩
      exact absurd (List.prefix_nil.mp hbefore) hne
    · rintro ⟨names, content', rfl, hat, -⟩
      cases names with
      | nil => rfl
      | cons name names => cases hat
  | link target =>
    rw [filesBelow]
    constructor
    · exact fun h => absurd h List.not_mem_nil
    · rintro ⟨names, content, -, hat, -⟩
      cases names with
      | nil => cases hat
      | cons name names => cases hat
  | dir entries ih =>
    rw [filesBelow, mem_filesOfEntries_iff]
    constructor
    · rintro ⟨entry, hentry, hignored, hfile⟩
      obtain ⟨names, content, rfl, hat, hway⟩ :=
        (ih entry hentry (FileTree.everywhere_of_mem hnamed hentry)).mp hfile
      refine ⟨entry.name :: names, content, rfl, ?_, ?_⟩
      · rw [FileTree.at?, FileTree.child?_of_mem hnamed hentry]
        exact hat
      · intro before hbefore hne
        obtain rfl | ⟨rest, rfl, hrest⟩ := List.prefix_cons_iff.mp hbefore
        · exact absurd rfl hne
        · cases hcase : rest with
          | nil => exact hignored
          | cons first rest' =>
            rw [Path.descend_cons, ← hcase]
            exact hway rest hrest (by rw [hcase]; exact List.cons_ne_nil _ _)
    · rintro ⟨names, content, rfl, hat, hway⟩
      cases names with
      | nil => cases hat
      | cons name names =>
        rw [FileTree.at?] at hat
        split at hat
        case h_2 => cases hat
        case h_1 child hchild =>
          obtain ⟨entries', entry, heq, hentry, rfl, rfl⟩ := FileTree.exists_entry_of_child? hchild
          cases heq
          refine ⟨entry, hentry, ?_, ?_⟩
          · exact hway [entry.name] (List.cons_prefix_cons.mpr ⟨rfl, List.nil_prefix⟩)
              (List.cons_ne_nil _ _)
          · refine (ih entry hentry (FileTree.everywhere_of_mem hnamed hentry)).mpr
              ⟨names, content, rfl, hat, fun before hbefore hne => ?_⟩
            exact hway (entry.name :: before) (List.cons_prefix_cons.mpr ⟨rfl, hbefore⟩)
              (List.cons_ne_nil _ _)

/-! ## Roots -/

/-- Where a root comes from. -/
inductive RootOf (top : FileTree) (base : Path) (includes : List String) (root : Path) : Prop where
  | base (hnone : includes = []) (hroot : root = base)
  | plain (text : String) (htext : text ∈ includes) (hplain : Glob.isPattern text = false)
      (hroot : root = base.join text)
  | found (text : String) (htext : text ∈ includes) (hpattern : Glob.isPattern text = true)
      (paths : List Path) (hpaths : Glob.expand top (base.join text) = .ok paths)
      (hroot : root ∈ paths)

theorem rootOf_of_mem_roots {base : Path} {includes : List String}
    (h : root ∈ (roots top base includes).1) : RootOf top base includes root := by
  unfold roots at h
  split at h
  case isTrue hnone => exact .base (List.isEmpty_iff.mp hnone) (List.mem_singleton.mp h)
  case isFalse =>
    obtain ⟨found, hfound, hroot⟩ := List.mem_flatMap.mp h
    obtain ⟨text, htext, rfl⟩ := List.mem_map.mp hfound
    unfold includeRoots at hroot
    split at hroot
    case isTrue hpattern =>
      split at hroot
      case h_1 paths hpaths => exact .found text htext hpattern paths hpaths hroot
      case h_2 => cases hroot
    case isFalse hplain =>
      dsimp only at hroot
      split at hroot
      case isTrue =>
        exact .plain text htext (Bool.eq_false_iff.mpr hplain) (List.mem_singleton.mp hroot)
      case isFalse => cases hroot

/-- The walk is that of the tree to which the root leads. A root that is a link is walked only if it
leads to a directory. -/
theorem exists_walk_of_scanRoot {files : List Path} (h : scanRoot top rules root = .ok files)
    (hfile : file ∈ files) :
    ∃ location tree, top.locate root = .ok (location, tree) ∧ file ∈ filesBelow rules root tree ∧
      (tree.isDir = true ∨ top.locateEntry root = .ok tree) := by
  unfold scanRoot at h
  split at h
  case h_1 => cases h
  case h_2 target hentry =>
    split at h
    case h_1 => cases h
    case h_2 location entries hlocate =>
      cases h
      exact ⟨location, .dir entries, hlocate, by rwa [filesBelow], .inl rfl⟩
    case h_3 =>
      cases h
      cases hfile
  case h_3 tree hlink hentry =>
    cases h
    obtain ⟨location, hlocate⟩ :=
      FileTree.exists_locate_of_ne_link hentry fun target heq => hlink target (heq ▸ rfl)
    exact ⟨location, tree, hlocate, hfile, .inr hentry⟩

/-- What is found at a root is the root gone on by names, also if the root is a link. -/
theorem exists_names_of_scanRoot (hnamed : top.wellNamed = true) {files : List Path}
    (h : scanRoot top rules root = .ok files) (hfile : file ∈ files) :
    root ≠ "" ∧ ∃ names, (∀ name ∈ names, Path.IsName name) ∧ file = root.descend names := by
  obtain ⟨location, tree, hlocate, hwalk, -⟩ := exists_walk_of_scanRoot h hfile
  obtain ⟨hroot, -, hat, -⟩ := FileTree.locate_eq_ok_iff_resolve.mp hlocate
  have htree : tree.wellNamed = true := FileTree.everywhere_at? hnamed hat
  obtain ⟨names, content, hdescend, hat', -⟩ := (mem_filesBelow_iff htree).mp hwalk
  exact ⟨hroot, names, FileTree.isName_of_at? htree hat', hdescend⟩

/-- Where there are no links, the walk is that of the tree to which the root leads. -/
theorem exists_locate_of_scanRoot (hlinks : top.linkless = true) {files : List Path}
    (h : scanRoot top rules root = .ok files) :
    ∃ location tree, top.locate root = .ok (location, tree) ∧
      files = filesBelow rules root tree := by
  unfold scanRoot at h
  split at h
  case h_1 => cases h
  case h_2 target hentry =>
    obtain ⟨location, hlocate⟩ := FileTree.exists_locate_of_locateEntry hlinks hentry
    exact absurd rfl
      (FileTree.ne_link_of_linkless hlinks (FileTree.at?_of_locate hlocate) target)
  case h_3 tree hlink hentry =>
    cases h
    obtain ⟨location, hlocate⟩ := FileTree.exists_locate_of_locateEntry hlinks hentry
    exact ⟨location, tree, hlocate, rfl⟩

/-! ## The scan -/

theorem mem_sortedPaths {paths : List Path} : path ∈ sortedPaths paths ↔ path ∈ paths := by
  rw [sortedPaths, mem_dropRepeats, (sortBy_perm _ paths).mem_iff]

/-- The comparison that paths are sorted by is their order. -/
theorem not_lt_path_iff {a b : Path} : (!decide (b < a)) = true ↔ a ≤ b := by
  rw [Bool.not_eq_true', decide_eq_false_iff_not, not_lt]

theorem sortBy_path_pairwise {α : Type} (key : α → Path) (as : List α) :
    (sortBy (fun a b => !decide (key b < key a)) as).Pairwise fun a b => key a ≤ key b := by
  have hsorted : (sortBy (fun a b => !decide (key b < key a)) as).Pairwise
      fun a b => (!decide (key b < key a)) = true := by
    refine sortBy_pairwise (fun a b => ?_) (fun a b c hab hbc => ?_) as
    · rw [not_lt_path_iff, not_lt_path_iff]
      exact le_total (key a) (key b)
    · rw [not_lt_path_iff] at hab hbc ⊢
      exact le_trans hab hbc
  exact hsorted.imp fun h => not_lt_path_iff.mp h

theorem nodup_sortedPaths (paths : List Path) : (sortedPaths paths).Nodup := by
  refine nodup_dropRepeats (fun a b hab hba => ?_)
    ((sortBy_path_pairwise id paths).imp fun h => not_lt_path_iff.mpr h)
  exact le_antisymm (not_lt_path_iff.mp hab) (not_lt_path_iff.mp hba)

theorem pairwise_sortedPaths (paths : List Path) : (sortedPaths paths).Pairwise (· < ·) := by
  have hle : (sortedPaths paths).Pairwise (· ≤ ·) :=
    (sortBy_path_pairwise id paths).sublist (dropRepeats_sublist _)
  exact (hle.and (nodup_sortedPaths paths)).imp fun h => lt_of_le_of_ne h.1 h.2

/-- A file of a scan has the extension of a script, is not ignored, and was found at a root. -/
theorem mem_scan_iff {base : Path} {includes ignores : List String} {ignoreTestFiles : Bool} :
    file ∈ (scan top base includes ignores ignoreTestFiles).files ↔
      isScript file = true ∧ (ignoreRules base ignores ignoreTestFiles).1.ignores file = false ∧
        ∃ root ∈ (roots top base includes).1, ∃ files,
          scanRoot top (ignoreRules base ignores ignoreTestFiles).1 root = .ok files ∧
            file ∈ files := by
  rw [scan, mem_sortedPaths, List.mem_filter, Bool.and_eq_true, Bool.not_eq_true', and_comm,
    and_assoc]
  refine and_congr_right fun _ => and_congr_right fun _ => ?_
  rw [List.mem_flatMap]
  constructor
  · rintro ⟨found, hfound, hfile⟩
    obtain ⟨root, hroot, rfl⟩ := List.mem_map.mp hfound
    refine ⟨root, hroot, ?_⟩
    dsimp only at hfile
    cases hscan : scanRoot top (ignoreRules base ignores ignoreTestFiles).1 root with
    | error e =>
      rw [hscan] at hfile
      cases hfile
    | ok files =>
      rw [hscan] at hfile
      exact ⟨files, rfl, hfile⟩
  · rintro ⟨root, hroot, files, hfiles, hfile⟩
    refine ⟨_, List.mem_map_of_mem hroot, ?_⟩
    dsimp only
    rw [hfiles]
    exact hfile

/-- A path that is not ignored does not lead to or below a plain path that is to be left out. -/
theorem not_prefix_of_not_ignores {base : Path} {ignores : List String} {ignoreTestFiles : Bool}
    {text : String} (htext : text ∈ ignores) (hplain : Glob.isPattern text = false)
    (h : (ignoreRules base ignores ignoreTestFiles).1.ignores file = false) :
    ¬ (base.join text).components <+: file.components := by
  have hpath : base.join text ∈ (ignoreRules base ignores ignoreTestFiles).1.paths :=
    List.mem_map_of_mem (List.mem_filter.mpr ⟨htext, by rw [hplain]; rfl⟩)
  rw [IgnoreRules.ignores, Bool.or_eq_false_iff, List.any_eq_false] at h
  have hstarts := h.1 _ hpath
  rwa [Path.startsWith, List.isPrefixOf_iff_prefix] at hstarts

end MapLint
