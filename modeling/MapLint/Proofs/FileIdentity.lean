import MapLint.Proofs.PatternPaths
import MapLint.Proofs.ScannedFiles
import Mathlib.Data.List.Nodup

/-!
# No file twice

A scan lists every spelling once, and a file may have several: `./src/a.js` is found from the include
`src` of the base directory `.`, and `src/a.js` from the pattern `s*`. Here it is told which includes
spell all files alike, so that no file is listed twice.

## Architecture

- `Path.Extends` is a path that goes on by names from a lead that it shares with others, and
  `Extends.eq_of_locate_eq` says that such paths lead to one file only if they are equal;
- `follow` is the path that the base directory of a pattern turns into, and `extends_of_mem_expand` says
  that all paths of the pattern go on from it;
- `SpelledAlike` is what is asked of the base directory and the includes, and `exists_lead_of_roots` finds
  the lead that all roots share;
- `scanned_files_distinct` is the result, `file_found_twice` the scan above.
-/

namespace MapLint.Path

/-! ## Going on by names -/

/-- The path goes on by names from `lead`. -/
def Extends (lead : List (List Char)) (path : Path) : Prop :=
  ∃ names : List String, (∀ name ∈ names, IsName name) ∧ path.parts = lead ++ names.map String.toList

/-- Everything between the slashes of a text is a name. -/
def OnlyNames (text : String) : Prop := ∀ part ∈ parts text, IsName (String.ofList part)

theorem extends_self (path : Path) : path.Extends path.parts :=
  ⟨[], fun _ hname => absurd hname List.not_mem_nil, by simp⟩

theorem IsName.extends_nil {name : String} (h : IsName name) : Path.Extends [] name :=
  ⟨[name], by simpa using h, by rw [h.parts]; rfl⟩

variable {lead : List (List Char)} {path : Path} {name text : String}

theorem Extends.append (names : List String) {next : Path} (h : path.Extends lead)
    (hnames : ∀ name ∈ names, IsName name)
    (hnext : next.parts = path.parts ++ names.map String.toList) : next.Extends lead := by
  obtain ⟨before, hbefore, hparts⟩ := h
  refine ⟨before ++ names, ?_, ?_⟩
  · intro name hname
    exact (List.mem_append.mp hname).elim (hbefore name) (hnames name)
  · rw [hnext, hparts, List.map_append, List.append_assoc]

theorem Extends.join_name (h : path.Extends lead) (hname : IsName name) :
    (path.join name).Extends lead := by
  refine h.append [name] (by simpa using hname) ?_
  rw [parts_join (isAbsolute_of_not_mem hname.1), hname.parts]
  rfl

theorem Extends.descend {names : List String} (h : path.Extends lead)
    (hnames : ∀ name ∈ names, IsName name) : (path.descend names).Extends lead :=
  h.append names hnames (parts_descend hnames path)

theorem OnlyNames.isAbsolute (h : OnlyNames text) : Path.isAbsolute text = false := by
  by_contra habs
  rw [Bool.not_eq_false] at habs
  obtain ⟨rest, hrest⟩ := List.head?_eq_some_iff.mp (head?_parts_of_isAbsolute habs)
  have hname : IsName (String.ofList []) := h [] (by rw [hrest]; exact List.mem_cons_self)
  exact hname.ne_empty rfl

theorem Extends.join (h : path.Extends lead) (htext : OnlyNames text) :
    (path.join text).Extends lead := by
  refine h.append ((parts text).map String.ofList) ?_ ?_
  · intro name hname
    obtain ⟨part, hpart, rfl⟩ := List.mem_map.mp hname
    exact htext part hpart
  · rw [parts_join htext.isAbsolute, List.map_map]
    simp

section Locate

variable {top : FileTree} {location : List String} {content : Content} (hlinks : top.linkless = true)

include hlinks

/-- The names by which a path goes on can be read off the location of its file, once it is known where
the lead ends. -/
theorem Extends.exists_place (h : path.Extends lead)
    (hlocate : top.locate path = .ok (location, .file content)) :
    (splitSlashes path.toList).getLast? ≠ some [] ∧
      ∃ place names, top.advance [] (componentsOf lead) = .ok (.arrived place) ∧
        location = place ++ names ∧ path.parts = lead ++ names.map String.toList := by
  obtain ⟨names, hnames, hparts⟩ := h
  obtain ⟨-, harrived, -, hdir⟩ := (FileTree.locate_eq_ok_iff hlinks).mp hlocate
  rw [components_eq, hparts, componentsOf_append_names lead hnames] at harrived
  obtain ⟨place, hplace, hlocation⟩ := FileTree.exists_place_of_advance_names harrived
  have hfile : FileTree.namesDirectory path = false :=
    Bool.eq_false_iff.mpr fun h => absurd (hdir h) Bool.false_ne_true
  exact ⟨FileTree.getLast?_ne_of_not_namesDirectory hfile, place, names, hplace, hlocation, hparts⟩

/-- Two paths that go on by names from one lead are equal if they lead to one file. -/
theorem Extends.eq_of_locate_eq {f g : Path} (hf : f.Extends lead) (hg : g.Extends lead)
    (hlocateF : top.locate f = .ok (location, .file content))
    (hlocateG : top.locate g = .ok (location, .file content)) : f = g := by
  obtain ⟨hlastF, place, namesF, hplace, hlocation, hpartsF⟩ := hf.exists_place hlinks hlocateF
  obtain ⟨hlastG, place', namesG, hplace', hlocation', hpartsG⟩ := hg.exists_place hlinks hlocateG
  rw [hplace] at hplace'
  cases hplace'
  have hnames : namesF = namesG := List.append_cancel_left (hlocation.symm.trans hlocation')
  exact eq_of_parts_eq hlastF hlastG (by rw [hpartsF, hpartsG, hnames])

end Locate

end MapLint.Path

namespace MapLint.Glob

/-! ## The paths of a pattern below a base directory -/

variable {top : FileTree} {dirsOnly : Bool} {depth : Nat} {glob : Glob} {globs : List Glob}
  {path q base : Path} {lead : List (List Char)} {part : List Char} {parts : List (List Char)}

/-- The path that is reached from `path` by parts without wildcards. -/
def follow (path : Path) (parts : List (List Char)) : Path :=
  parts.foldl (fun path part => childPath path (String.ofList part)) path

theorem follow_cons (path : Path) (part : List Char) (parts : List (List Char)) :
    follow path (part :: parts) = follow (childPath path (String.ofList part)) parts := rfl

/-- A path that an expansion can come to: the dot at which it starts, or one without a dot in front. -/
def Reached (path : Path) : Prop := path = "." ∨ path.Undotted

theorem Reached.childPath {text : String} (h : Reached path) (hslash : '/' ∉ text.toList)
    (hne : childPath path text ≠ "") : Reached (childPath path text) := by
  rcases h with rfl | h
  · rw [childPath_of_top] at hne ⊢
    by_cases hdot : text = "."
    · exact .inl hdot
    · exact .inr (Path.undotted_of_not_mem hslash hne fun heq => hdot (String.toList_inj.mp heq))
  · rw [childPath_of_undotted h]
    exact .inr (h.join (Path.isAbsolute_of_not_mem hslash))

/-- Parts without wildcards are followed before the others are looked at. -/
theorem exists_of_mem_expandBelow_append {rest : List (List Char)}
    (hplain : ∀ part ∈ parts, '/' ∉ part ∧ isPlain part = true) (hrest : rest ≠ [])
    (hglobs : ReadAs (parts ++ rest) globs) (hpath : Reached path)
    (h : q ∈ expandBelow top dirsOnly depth globs path) :
    Reached (follow path parts) ∧ ∃ depth' globs', ReadAs rest globs' ∧
      q ∈ expandBelow top dirsOnly depth' globs' (follow path parts) := by
  induction parts generalizing path globs depth with
  | nil => exact ⟨hpath, depth, globs, hglobs, h⟩
  | cons part parts ih =>
    obtain ⟨hslash, hwild⟩ := hplain part List.mem_cons_self
    cases hglobs with
    | @cons _ glob _ globs hparse hglobs =>
      obtain ⟨text, htext⟩ := exists_literal?_of_parse hparse hwild
      obtain rfl := literal?_of_parse hparse htext
      cases depth with
      | zero =>
        rw [expandBelow] at h
        cases h
      | succ depth =>
        cases firstStep_of_mem_expandBelow h with
        | entry hnone => rw [hnone] at htext; cases htext
        | dots hnone => rw [hnone] at htext; cases htext
        | lookUp text' htext' hne hfound =>
          rw [htext] at htext'
          cases htext'
          have hnext : Reached (childPath path (String.ofList part)) :=
            hpath.childPath (by rwa [String.toList_ofList]) hne
          rcases hfound with ⟨hnil, -⟩ | hfound
          · -- the other parts are not used up yet
            rw [hnil, List.forall₂_nil_right_iff] at hglobs
            exact absurd (List.append_eq_nil_iff.mp hglobs).2 hrest
          · exact ih (fun p hp => hplain p (List.mem_cons_of_mem _ hp)) hglobs hnext hfound

theorem extends_childPath {name : String} (h : path.Undotted ∧ path.Extends lead)
    (hname : Path.IsName name) :
    (childPath path name).Undotted ∧ (childPath path name).Extends lead := by
  rw [childPath_of_undotted h.1]
  exact ⟨h.1.join (Path.isAbsolute_of_not_mem hname.1), h.2.join_name hname⟩

/-- A part that is a name goes on by a name, whatever it stands for. -/
theorem keeps_extends (hname : Path.IsName (String.ofList part)) (hdots : mayBeDots part = false)
    (hparse : parse (String.ofList part) = .ok glob) :
    Keeps (fun path => path.Undotted ∧ path.Extends lead) glob where
  literal := by
    intro text htext path hpath
    rw [literal?_of_parse hparse htext]
    exact extends_childPath hpath hname
  dots := fun hnone hdot => absurd hdot (head?_ne_dot_of_parse hparse hdots hnone)

/-- What all paths of patterns below a base directory begin with. -/
def leadOf (base : Path) : List (List Char) :=
  if follow "." base.parts = "." then [] else (follow "." base.parts).parts

theorem extends_of_mem_expand (hnamed : top.wellNamed = true)
    (hbase : ∀ part ∈ base.parts, isPlain part = true) {text : String} (hne : text ≠ "")
    (hnames : Path.OnlyNames text) (hdots : ∀ part ∈ Path.parts text, mayBeDots part = false)
    {paths : List Path} (h : expand top (base.join text) = .ok paths) (hq : q ∈ paths) :
    q.Extends (leadOf base) := by
  obtain ⟨globs, hglobs, rfl⟩ := exists_globs_of_expand h
  have hrest : Path.parts text ≠ [] := mt Path.parts_eq_nil_iff.mp hne
  rw [Path.parts_join hnames.isAbsolute] at hglobs
  have hplain : ∀ part ∈ base.parts, '/' ∉ part ∧ isPlain part = true :=
    fun part hpart => ⟨Path.not_mem_of_mem_parts hpart, hbase part hpart⟩
  obtain ⟨hreached, depth, globs, hglobs, hq⟩ :=
    exists_of_mem_expandBelow_append hplain hrest hglobs (.inl rfl) hq
  have hkeeps : ∀ {lead}, ∀ g ∈ globs, Keeps (fun path => path.Undotted ∧ path.Extends lead) g := by
    intro lead g hg
    obtain ⟨part, hpart, hparse⟩ := exists_part_of_mem hglobs hg
    exact keeps_extends (hnames part hpart) (hdots part hpart) hparse
  rcases hreached with htop | hundotted
  · -- nothing is left of the base, and the first part of the text is looked at from the top
    rw [leadOf, if_pos htop]
    rw [htop] at hq
    obtain ⟨part, parts, hparts⟩ := List.exists_cons_of_ne_nil hrest
    have hpart : part ∈ Path.parts text := by rw [hparts]; exact List.mem_cons_self
    rw [hparts] at hglobs
    cases hglobs with
    | @cons _ glob _ globs hparse _ =>
      cases depth with
      | zero =>
        rw [expandBelow] at hq
        cases hq
      | succ depth =>
        have hlone : ∀ name, Path.IsName name → Path.Undotted name ∧ Path.Extends [] name :=
          fun name hname => ⟨hname.undotted, hname.extends_nil⟩
        refine (keeps_of_mem_start hnamed (fun _ _ => extends_childPath) hkeeps hlone ?_
          (head?_ne_dot_of_parse hparse (hdots part hpart)) hq).2
        intro text' htext' _
        rw [literal?_of_parse hparse htext']
        exact hlone _ (hnames part hpart)
  · have hne : follow "." base.parts ≠ "." := fun heq => hundotted.2 (by rw [heq]; rfl)
    rw [leadOf, if_neg hne]
    exact ((keeps_of_mem_expandBelow hnamed (fun _ _ => extends_childPath) _ depth).1 globs _ hkeeps
      ⟨hundotted, Path.extends_self _⟩ q hq).2

theorem parts_follow (hpath : path.Undotted) (hempty : [] ∉ parts)
    (hslash : ∀ part ∈ parts, '/' ∉ part) :
    (follow path parts).Undotted ∧ (follow path parts).parts = path.parts ++ parts := by
  induction parts generalizing path with
  | nil => exact ⟨hpath, (List.append_nil _).symm⟩
  | cons part parts ih =>
    rw [List.mem_cons, not_or] at hempty
    have hpart := Path.parts_ofList (hslash part List.mem_cons_self) (Ne.symm hempty.1)
    have hrelative := Path.isAbsolute_ofList (hslash part List.mem_cons_self)
    obtain ⟨hundotted, hparts⟩ := ih (hpath.join hrelative) hempty.2
      fun p hp => hslash p (List.mem_cons_of_mem _ hp)
    rw [follow_cons, childPath_of_undotted hpath]
    refine ⟨hundotted, ?_⟩
    rw [hparts, Path.parts_join hrelative, hpart, List.append_assoc, List.singleton_append]

/-- A base directory that is spelled without a dot in front and without repeated slashes stays as it
is. -/
theorem leadOf_eq (hempty : [] ∉ base.parts) (hdot : base.parts.head? ≠ some ['.']) :
    leadOf base = base.parts := by
  have hslash : ∀ part ∈ base.parts, '/' ∉ part := fun part => Path.not_mem_of_mem_parts
  unfold leadOf
  cases hparts : base.parts with
  | nil => exact if_pos rfl
  | cons part parts =>
    rw [hparts, List.mem_cons, not_or] at hempty
    rw [hparts] at hdot hslash
    have hpart := Path.parts_ofList (hslash part List.mem_cons_self) (Ne.symm hempty.1)
    have hfirst : Path.Undotted (String.ofList part) := by
      constructor
      · intro h
        rw [h] at hpart
        cases hpart
      · rw [Path.dotted_iff, hpart]
        exact hdot
    obtain ⟨hundotted, hfollow⟩ := parts_follow hfirst hempty.2
      fun p hp => hslash p (List.mem_cons_of_mem _ hp)
    rw [follow_cons, childPath_of_top, if_neg fun heq => hundotted.2 (by rw [heq]; rfl), hfollow,
      hpart, List.singleton_append]

end MapLint.Glob

namespace MapLint

variable {top : FileTree} {base root file : Path} {includes ignores : List String}
  {ignoreTestFiles : Bool}

/-! ## Roots that are spelled alike -/

/-- The base directory and the includes spell all roots alike. -/
structure SpelledAlike (base : Path) (includes : List String) : Prop where
  /-- Every include goes down by names or patterns for names. -/
  names : ∀ text ∈ includes, Path.OnlyNames text
  dots : ∀ text ∈ includes, Glob.isPattern text = true →
    ∀ part ∈ Path.parts text, Glob.mayBeDots part = false
  /-- Patterns and plain includes are mixed only if patterns leave the base as it is spelled. -/
  base : (∀ text ∈ includes, Glob.isPattern text = false) ∨
    ((∀ part ∈ base.parts, Glob.isPlain part = true) ∧
      ((∀ text ∈ includes, Glob.isPattern text = true) ∨
        ([] ∉ base.parts ∧ base.parts.head? ≠ some ['.'])))

theorem ne_empty_of_isPattern {text : String} (h : Glob.isPattern text = true) : text ≠ "" := by
  rintro rfl
  cases h

theorem exists_lead_of_roots (hnamed : top.wellNamed = true) (h : SpelledAlike base includes) :
    ∃ lead, ∀ root, RootOf top base includes root → root.Extends lead := by
  have hself := Path.extends_self base
  by_cases hplain : ∀ text ∈ includes, Glob.isPattern text = false
  · refine ⟨base.parts, fun root hroot => ?_⟩
    cases hroot with
    | base _ heq => rwa [heq]
    | plain text htext _ heq =>
      rw [heq]
      exact hself.join (h.names text htext)
    | found text htext hpattern =>
      rw [hplain text htext] at hpattern
      cases hpattern
  · obtain ⟨hwild, hmixed⟩ := h.base.resolve_left hplain
    refine ⟨Glob.leadOf base, fun root hroot => ?_⟩
    cases hroot with
    | base hnone _ => exact absurd (by rw [hnone]; exact fun _ h => absurd h List.not_mem_nil) hplain
    | plain text htext htextPlain heq =>
      -- there are patterns besides, so the base is one that they keep
      have hkept : [] ∉ base.parts ∧ base.parts.head? ≠ some ['.'] := by
        refine hmixed.resolve_left fun hall => ?_
        rw [hall text htext] at htextPlain
        cases htextPlain
      rw [heq, Glob.leadOf_eq hkept.1 hkept.2]
      exact hself.join (h.names text htext)
    | found text htext hpattern paths hpaths hmem =>
      exact Glob.extends_of_mem_expand hnamed hwild (ne_empty_of_isPattern hpattern)
        (h.names text htext) (h.dots text htext hpattern) hpaths hmem

/-! ## The result -/

/-- What a scan finds is a file. -/
theorem exists_locate_of_mem_scan (hnamed : top.wellNamed = true) (hlinks : top.linkless = true)
    (hfile : file ∈ (scan top base includes ignores ignoreTestFiles).files) :
    ∃ location content, top.locate file = .ok (location, .file content) := by
  obtain ⟨-, -, root, -, files, hfiles, hmem⟩ := mem_scan_iff.mp hfile
  obtain ⟨location, tree, hlocate, rfl⟩ := exists_locate_of_scanRoot hlinks hfiles
  have htree : tree.wellNamed = true :=
    FileTree.everywhere_at? hnamed (FileTree.at?_of_locate hlocate)
  obtain ⟨names, content, rfl, hat, -⟩ := (mem_filesBelow_iff htree).mp hmem
  exact ⟨location ++ names, content,
    FileTree.locate_descend hlinks hlocate hat (FileTree.isName_of_at? htree hat)⟩

/-- Where there are no links and all roots are spelled alike, the paths that a scan lists lead to files,
no two of them to the same one. An absolute base directory is not covered: nothing is found below it. -/
theorem scanned_files_distinct (hnamed : top.wellNamed = true) (hlinks : top.linkless = true)
    (hspelled : SpelledAlike base includes) (ignores : List String) (ignoreTestFiles : Bool) :
    (∀ file ∈ (scan top base includes ignores ignoreTestFiles).files,
      ∃ location content, top.locate file = .ok (location, .file content)) ∧
    ((scan top base includes ignores ignoreTestFiles).files.map top.locate).Nodup := by
  refine ⟨fun file => exists_locate_of_mem_scan hnamed hlinks, ?_⟩
  obtain ⟨lead, hlead⟩ := exists_lead_of_roots hnamed hspelled
  have hextends : ∀ file ∈ (scan top base includes ignores ignoreTestFiles).files,
      file.Extends lead := by
    intro file hfile
    obtain ⟨-, -, root, hroot, files, hfiles, hmem⟩ := mem_scan_iff.mp hfile
    obtain ⟨-, names, hnames, rfl⟩ := exists_names_of_scanRoot hnamed hfiles hmem
    exact (hlead root (rootOf_of_mem_roots hroot)).descend hnames
  refine List.Nodup.map_on (fun f hf g hg heq => ?_) (nodup_sortedPaths _)
  obtain ⟨location, content, hlocate⟩ := exists_locate_of_mem_scan hnamed hlinks hf
  exact Path.Extends.eq_of_locate_eq hlinks (hextends f hf) (hextends g hg) hlocate
    (heq.symm.trans hlocate)

/-- A project with one script. -/
def oneScript : FileTree :=
  .dir [.mk "src" (.dir [.mk "lib" (.dir [.mk "a.js" (.file (.text []))])])]

theorem scanned_files_distinct_oneScript :
    (scan oneScript "src" ["lib", "l*"] [] false).files = ["src/lib/a.js"] ∧
      ((scan oneScript "src" ["lib", "l*"] [] false).files.map oneScript.locate).Nodup := by
  have hspelled : SpelledAlike "src" ["lib", "l*"] := by
    refine ⟨?_, by decide, .inr ⟨by decide, .inr ⟨by decide, by decide⟩⟩⟩
    unfold Path.OnlyNames
    decide
  exact ⟨by decide +kernel,
    (scanned_files_distinct (by decide +kernel) (by decide +kernel) hspelled [] false).2⟩

/-- From the directory `.` a plain include keeps the dot and a pattern loses it: the file is found
twice. -/
theorem file_found_twice :
    (scan oneScript "." ["src", "s*"] [] false).files = ["./src/lib/a.js", "src/lib/a.js"] ∧
      oneScript.linkless = true ∧
      oneScript.locate "./src/lib/a.js" = oneScript.locate "src/lib/a.js" :=
  ⟨by decide +kernel, by decide +kernel, rfl⟩

end MapLint
