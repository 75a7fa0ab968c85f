import MapLint.Proofs.ScannedFiles

/-!
# The files that the rules select

A walk leaves out directories on its way and files at its end by the same rules, and a root is walked
whatever the rules say of it. Here this is said without a walk: a file is selected below a root if the
root goes on to it by names, and nothing between the two and not the file itself is ignored. Where there
are no links, a scan finds what is selected below one of its roots.

## Architecture

- `scanRoot_of_locate` is the walk from a root that leads somewhere;
- `SelectedBelow` is the rule, and `mem_scanRoot_iff` says that the walk follows it;
- `ignores_ignoreRules_iff` and `mem_roots_iff` open the rules and the roots, so that both can only grow
  with the lists that they are made of;
- `selected_files_scanned` joins them.
-/

namespace MapLint

variable {rules : IgnoreRules} {base path root file : Path} {top tree : FileTree}
  {location names : List String} {includes ignores : List String} {ignoreTestFiles : Bool}

/-! ## From a root to its files -/

section Linkless

variable (hlinks : top.linkless = true)

include hlinks

/-- Where there are no links, what a path leads to stands at the path itself. -/
theorem FileTree.locateEntry_of_locate (h : top.locate path = .ok (location, tree)) :
    top.locateEntry path = .ok tree := by
  have hmap : (top.locate path).map Prod.snd = .ok tree := by
    rw [h]
    rfl
  by_cases hname : namesDirectory path = false ∧ ∃ front name, path.components = front ++ [.name name]
  · obtain ⟨hdir, front, name, hfront⟩ := hname
    obtain ⟨-, harrived, hat, -⟩ := (locate_eq_ok_iff hlinks).mp h
    rw [hfront] at harrived
    have hadvance : top.advance [] (front ++ [name].map Component.name) = .ok (.arrived location) :=
      harrived
    obtain ⟨place, hplace, rfl⟩ := exists_place_of_advance_names hadvance
    obtain ⟨entries, hentries, hchild⟩ := exists_dir_of_at?_concat hat
    exact locateEntry_of_child? hfront hdir ((resolve_eq_ok_iff hlinks).mpr hplace) hentries hchild
  · -- the path is asked for what it leads to
    unfold locateEntry
    split
    case h_2 => exact hmap
    case h_1 name hlast =>
      obtain ⟨front, hfront⟩ := List.getLast?_eq_some_iff.mp hlast
      rw [if_pos (by simpa using fun hdir => hname ⟨hdir, front, name, hfront⟩), hmap]

theorem scanRoot_of_locate (rules : IgnoreRules) (h : top.locate root = .ok (location, tree)) :
    scanRoot top rules root = .ok (filesBelow rules root tree) := by
  have hentry := FileTree.locateEntry_of_locate hlinks h
  have hlink := FileTree.ne_link_of_linkless hlinks (FileTree.at?_of_locate h)
  unfold scanRoot
  rw [hentry]
  cases tree with
  | link target => exact absurd rfl (hlink target)
  | file content => rfl
  | dir entries => rfl

/-- A path that goes on by names from a path that leads somewhere leads below it. -/
theorem FileTree.at?_of_locate_descend {place : List String} {sub : FileTree}
    (hpath : top.locate path = .ok (place, tree)) (hnames : ∀ name ∈ names, Path.IsName name)
    (h : top.locate (path.descend names) = .ok (location, sub)) : tree.at? names = some sub := by
  obtain ⟨-, harrived, hat, -⟩ := (locate_eq_ok_iff hlinks).mp h
  obtain ⟨-, hplace, htree, -⟩ := (locate_eq_ok_iff hlinks).mp hpath
  rw [Path.components_descend hnames] at harrived
  obtain ⟨place', hplace', rfl⟩ := exists_place_of_advance_names harrived
  rw [hplace] at hplace'
  cases hplace'
  rwa [at?_append, htree, Option.bind_some] at hat

end Linkless

/-- A file that the rules select below a root. -/
structure SelectedBelow (top : FileTree) (rules : IgnoreRules) (root file : Path) : Prop where
  /-- The root is a path of the project. -/
  leads : top.leadsSomewhere root = true
  isFile : ∃ location content, top.locate file = .ok (location, .file content)
  script : isScript file = true
  kept : rules.ignores file = false
  /-- The root is the file or stands above it, and no directory between the two is ignored. The root
  itself may be. -/
  way : ∃ names, (∀ name ∈ names, Path.IsName name) ∧ file = root.descend names ∧
    ∀ between, between <+: names → between ≠ [] → between ≠ names →
      rules.ignores (root.descend between) = false

/-- The walk from a root meets the scripts that are selected below it. -/
theorem mem_scanRoot_iff (hlinks : top.linkless = true) (hnamed : top.wellNamed = true) :
    (isScript file = true ∧ rules.ignores file = false ∧
        ∃ files, scanRoot top rules root = .ok files ∧ file ∈ files) ↔
      SelectedBelow top rules root file := by
  constructor
  · rintro ⟨hscript, hkept, files, hfiles, hmem⟩
    obtain ⟨location, tree, hlocate, rfl⟩ := exists_locate_of_scanRoot hlinks hfiles
    have htree : tree.wellNamed = true :=
      FileTree.everywhere_at? hnamed (FileTree.at?_of_locate hlocate)
    obtain ⟨names, content, rfl, hat, hway⟩ := (mem_filesBelow_iff htree).mp hmem
    have hnames := FileTree.isName_of_at? htree hat
    exact ⟨FileTree.leadsSomewhere_iff.mpr ⟨_, _, hlocate⟩,
      ⟨_, content, FileTree.locate_descend hlinks hlocate hat hnames⟩, hscript, hkept, names, hnames, rfl,
      fun between hbefore hne _ => hway between hbefore hne⟩
  · rintro ⟨hroot, ⟨location, content, hfile⟩, hscript, hkept, names, hnames, rfl, hway⟩
    obtain ⟨place, tree, hlocate⟩ := FileTree.leadsSomewhere_iff.mp hroot
    have htree : tree.wellNamed = true :=
      FileTree.everywhere_at? hnamed (FileTree.at?_of_locate hlocate)
    have hat := FileTree.at?_of_locate_descend hlinks hlocate hnames hfile
    refine ⟨hscript, hkept, _, scanRoot_of_locate hlinks rules hlocate,
      (mem_filesBelow_iff htree).mpr ⟨names, content, rfl, hat, fun between hbefore hne => ?_⟩⟩
    -- the walk asks once more about the file at the end of the way
    by_cases hall : between = names
    · rw [hall]
      exact hkept
    · exact hway between hbefore hne hall

/-! ## Rules and roots -/

theorem mem_readPatterns_iff {texts : List String} {glob : Glob} :
    glob ∈ (readPatterns texts).1 ↔ ∃ text ∈ texts, Glob.parse text = .ok glob := by
  induction texts with
  | nil => simp [readPatterns]
  | cons text texts ih =>
    rw [List.exists_mem_cons_iff, ← ih, readPatterns]
    dsimp only
    cases hparse : Glob.parse text with
    | error e => simp
    | ok read => simp [eq_comm]

/-- A path matches a pattern. -/
def Glob.Matches (text : String) (path : Path) : Prop :=
  ∃ glob, Glob.parse text = .ok glob ∧ glob.isMatch path = true

theorem any_readPatterns_iff {texts : List String} :
    (readPatterns texts).1.any (·.isMatch path) = true ↔ ∃ text ∈ texts, Glob.Matches text path := by
  rw [List.any_eq_true]
  simp only [mem_readPatterns_iff]
  constructor
  · rintro ⟨glob, ⟨text, htext, hparse⟩, hmatch⟩
    exact ⟨text, htext, glob, hparse, hmatch⟩
  · rintro ⟨text, htext, glob, hparse, hmatch⟩
    exact ⟨glob, ⟨text, htext, hparse⟩, hmatch⟩

/-- What one entry of the ignored paths and patterns leaves out. -/
def LeavesOut (base : Path) (text : String) (path : Path) : Prop :=
  if Glob.isPattern text then Glob.Matches text path
  else (base.join text).components <+: path.components

/-- A path is ignored if one of the entries leaves it out, or a pattern for the files of tests. -/
theorem ignores_ignoreRules_iff :
    (ignoreRules base ignores ignoreTestFiles).1.ignores path = true ↔
      (∃ text ∈ ignores, LeavesOut base text path) ∨
        (ignoreTestFiles = true ∧ ∃ text ∈ testPatterns, Glob.Matches text path) := by
  have hplain : ((ignores.filter fun p => !Glob.isPattern p).map base.join).any path.startsWith =
        true ↔ ∃ text ∈ ignores, Glob.isPattern text = false ∧ LeavesOut base text path := by
    simp only [List.any_map, List.any_filter, List.any_eq_true, Function.comp, Bool.and_eq_true,
      Bool.not_eq_true', Path.startsWith, List.isPrefixOf_iff_prefix]
    refine exists_congr fun text => and_congr_right fun _ => and_congr_right fun hpattern => ?_
    rw [LeavesOut, hpattern, if_neg Bool.false_ne_true]
  have hglobs : (readPatterns (ignores.filter Glob.isPattern)).1.any (·.isMatch path) = true ↔
      ∃ text ∈ ignores, Glob.isPattern text = true ∧ LeavesOut base text path := by
    simp only [any_readPatterns_iff, List.mem_filter, and_assoc]
    refine exists_congr fun text => and_congr_right fun _ => and_congr_right fun hpattern => ?_
    rw [LeavesOut, if_pos hpattern]
  have hentries : (∃ text ∈ ignores, LeavesOut base text path) ↔
      (∃ text ∈ ignores, Glob.isPattern text = false ∧ LeavesOut base text path) ∨
        ∃ text ∈ ignores, Glob.isPattern text = true ∧ LeavesOut base text path := by
    constructor
    · rintro ⟨text, htext, hout⟩
      cases hpattern : Glob.isPattern text with
      | false => exact .inl ⟨text, htext, hpattern, hout⟩
      | true => exact .inr ⟨text, htext, hpattern, hout⟩
    · rintro (⟨text, htext, -, hout⟩ | ⟨text, htext, -, hout⟩) <;> exact ⟨text, htext, hout⟩
  rw [hentries, ← hplain, ← hglobs, or_assoc, IgnoreRules.ignores, Bool.or_eq_true]
  refine or_congr_right ?_
  rw [ignoreRules]
  dsimp only
  rw [List.any_append, Bool.or_eq_true]
  refine or_congr_right ?_
  cases ignoreTestFiles with
  | false => simp
  | true => simp only [if_true, true_and, any_readPatterns_iff]

/-- More entries leave out more. -/
theorem ignores_of_subset {more : List String} (h : ignores ⊆ more)
    (hignored : (ignoreRules base ignores ignoreTestFiles).1.ignores path = true) :
    (ignoreRules base more ignoreTestFiles).1.ignores path = true := by
  rw [ignores_ignoreRules_iff] at hignored ⊢
  exact hignored.imp_left fun ⟨text, htext, hout⟩ => ⟨text, h htext, hout⟩

theorem mem_roots_iff (hsome : includes ≠ []) :
    root ∈ (roots top base includes).1 ↔
      ∃ text ∈ includes, root ∈ (includeRoots top base text).1 := by
  rw [roots, if_neg (mt List.isEmpty_iff.mp hsome)]
  simp only [List.mem_flatMap, List.mem_map, exists_exists_and_eq_and]

/-- More includes, where there are some, make more roots. -/
theorem roots_subset {more : List String} (hsome : includes ≠ []) (h : includes ⊆ more) :
    (roots top base includes).1 ⊆ (roots top base more).1 := by
  have hmore : more ≠ [] := by
    rintro rfl
    exact hsome (List.subset_nil.mp h)
  intro root hroot
  rw [mem_roots_iff hsome] at hroot
  obtain ⟨text, htext, hroot⟩ := hroot
  exact (mem_roots_iff hmore).mpr ⟨text, h htext, hroot⟩

theorem SelectedBelow.of_ignores {fewer : IgnoreRules}
    (h : ∀ path, fewer.ignores path = true → rules.ignores path = true)
    (hselected : SelectedBelow top rules root file) : SelectedBelow top fewer root file := by
  have hkept : ∀ path, rules.ignores path = false → fewer.ignores path = false := by
    intro path hpath
    rw [Bool.eq_false_iff] at hpath ⊢
    exact mt (h path) hpath
  obtain ⟨names, hnames, hfile, hway⟩ := hselected.way
  exact ⟨hselected.leads, hselected.isFile, hselected.script, hkept _ hselected.kept, names, hnames, hfile,
    fun between hbefore hne hall => hkept _ (hway between hbefore hne hall)⟩

/-! ## The result -/

/-- Where there are no links, a scan finds exactly the files that the rules select below one of its
roots. So with more entries to ignore it finds no other files, and with more includes, where there are
some, it finds all that it found before. Roots are seen from the working directory: an absolute one leads nowhere,
and nothing is selected below it. -/
theorem selected_files_scanned (hlinks : top.linkless = true) (hnamed : top.wellNamed = true)
    (base : Path) (includes ignores : List String) (ignoreTestFiles : Bool) :
    (∀ file, file ∈ (scan top base includes ignores ignoreTestFiles).files ↔
      ∃ root ∈ (roots top base includes).1,
        SelectedBelow top (ignoreRules base ignores ignoreTestFiles).1 root file) ∧
    (∀ more, ignores ⊆ more → (scan top base includes more ignoreTestFiles).files ⊆
      (scan top base includes ignores ignoreTestFiles).files) ∧
    (∀ more, includes ≠ [] → includes ⊆ more →
      (scan top base includes ignores ignoreTestFiles).files ⊆
        (scan top base more ignores ignoreTestFiles).files) := by
  have hmem : ∀ includes ignores file,
      file ∈ (scan top base includes ignores ignoreTestFiles).files ↔
        ∃ root ∈ (roots top base includes).1,
          SelectedBelow top (ignoreRules base ignores ignoreTestFiles).1 root file := by
    intro includes ignores file
    simp only [← mem_scanRoot_iff hlinks hnamed, mem_scan_iff]
    constructor
    · rintro ⟨hscript, hkept, root, hroot, hfiles⟩
      exact ⟨root, hroot, hscript, hkept, hfiles⟩
    · rintro ⟨root, hroot, hscript, hkept, hfiles⟩
      exact ⟨hscript, hkept, root, hroot, hfiles⟩
  refine ⟨hmem includes ignores, ?_, ?_⟩
  · intro more hmore file hfile
    obtain ⟨root, hroot, hselected⟩ := (hmem includes more file).mp hfile
    exact (hmem includes ignores file).mpr
      ⟨root, hroot, hselected.of_ignores fun path => ignores_of_subset hmore⟩
  · intro more hsome hmore file hfile
    obtain ⟨root, hroot, hselected⟩ := (hmem includes ignores file).mp hfile
    exact (hmem more ignores file).mpr ⟨root, roots_subset hsome hmore hroot, hselected⟩

/-- A project with scripts in a directory whose name is ignored, and in one below it. -/
def builtProject : FileTree :=
  .dir [.mk "build" (.dir [.mk "a.js" (.file (.text [])), .mk "note.txt" (.file (.text [])),
    .mk "out" (.dir [.mk "b.js" (.file (.text []))])])]

/-- A root that is ignored is walked, and a directory below it that is ignored is not: the pattern
matches both, but no file. -/
theorem selected_files_scanned_built :
    builtProject.linkless = true ∧ builtProject.wellNamed = true ∧
      (scan builtProject "." ["build"] ["*build", "*out"] false).files = ["./build/a.js"] ∧
      "./build/a.js" ∈ (scan builtProject "." ["build"] ["*build"] false).files ∧
      ∃ root, SelectedBelow builtProject (ignoreRules "." ["*build", "*out"] false).1 root
        "./build/a.js" := by
  have hlinks : builtProject.linkless = true := by decide +kernel
  have hnamed : builtProject.wellNamed = true := by decide +kernel
  have hfiles : (scan builtProject "." ["build"] ["*build", "*out"] false).files =
      ["./build/a.js"] := by decide +kernel
  have hfound : "./build/a.js" ∈ (scan builtProject "." ["build"] ["*build", "*out"] false).files := by
    rw [hfiles]
    exact List.mem_singleton_self _
  have hmore := (selected_files_scanned hlinks hnamed "." ["build"] ["*build"] false).2.1
    ["*build", "*out"] (by simp)
  obtain ⟨root, -, hselected⟩ :=
    ((selected_files_scanned hlinks hnamed "." ["build"] ["*build", "*out"] false).1 _).mp hfound
  exact ⟨hlinks, hnamed, hfiles, hmore hfound, root, hselected⟩

end MapLint
