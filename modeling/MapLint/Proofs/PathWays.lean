import MapLint.Proofs.Locations

/-!
# Ways through a project

A path is spelled in many ways but goes one: what it leads to depends on its `steps` alone, as long as a
directory is asked for. So a path can be gone on from another spelling of it, entry by entry, and comes to
the same places.

## Architecture

- `steps_join` and `steps_descend` say what going on adds to the way of a path, `two_mul_length_parts_le`
  how many parts a spelling has room for;
- `exists_of_resolve_append` takes the following of components apart, and `leadsToDir_of_steps_append` says
  that what a way passes through are directories;
- `exists_child?_of_leadsSomewhere` and `exists_child?_of_locateEntry` say what it means that a name is
  found when it is looked up;
- `Holds` is one step from a directory, `Goes` a way of steps; both depend on the steps of a path only.
-/

namespace MapLint.Path

/-! ## What going on adds to a way -/

/-- A text that can stand between two slashes. -/
def IsStep (text : String) : Prop := '/' ∉ text.toList ∧ text ≠ ""

instance (text : String) : Decidable (IsStep text) := inferInstanceAs (Decidable (_ ∧ _))

theorem IsName.isStep {text : String} (h : IsName text) : IsStep text := ⟨h.1, h.ne_empty⟩

theorem isStep_of_dots {text : String} (h : text ∈ [".", ".."]) : IsStep text := by
  have hdots : ∀ text ∈ [".", ".."], IsStep text := by decide
  exact hdots text h

theorem isStep_ofList {part : List Char} (hslash : '/' ∉ part) (hne : part ≠ []) :
    IsStep (String.ofList part) := by
  refine ⟨by rwa [String.toList_ofList], fun hempty => hne ?_⟩
  rw [← String.toList_ofList (l := part), hempty]
  rfl

theorem IsStep.parts {text : String} (h : IsStep text) : Path.parts text = [text.toList] :=
  parts_of_not_mem h.1 h.2

theorem IsStep.isAbsolute {text : String} (h : IsStep text) : Path.isAbsolute text = false :=
  isAbsolute_of_not_mem h.1

theorem IsStep.not_rooted {text : String} (h : IsStep text) : ¬ Rooted text := by
  have hne : text.toList ≠ [] := mt String.toList_eq_nil_iff.mp h.2
  rw [Rooted, head?_components, h.parts, List.head?_cons, Option.bind_some, lead?, if_neg hne, component?]
  split
  · exact fun heq => by cases heq
  · split
    · exact fun heq => by cases heq
    · split <;> exact fun heq => by cases heq

/-- The step that a text stands for; a dot is none. -/
def step? (text : String) : Option Component := component? text.toList

theorem step?_of_isName {text : String} (h : IsName text) : step? text = some (.name text) :=
  h.component?

variable {path base : Path} {name : String} {way : List String} {cs : List Component}

theorem components_ne_nil (h : path ≠ "") : path.components ≠ [] := by
  rw [components_eq]
  cases hparts : path.parts with
  | nil => exact absurd (parts_eq_nil_iff.mp hparts) h
  | cons part parts =>
    obtain ⟨c, hc⟩ := exists_lead part
    rw [componentsOf, hc]
    exact List.cons_ne_nil _ _

theorem here_not_mem_component? (part : List Char) : Component.here ∉ (component? part).toList := by
  have hnone := here_not_mem_filterMap [part]
  rwa [List.filterMap_cons, List.filterMap_nil] at hnone

theorem steps_of_components_append {q : Path} (h : q.components = path.components ++ cs)
    (hne : path ≠ "") (hhere : Component.here ∉ cs) : q.steps = path.steps ++ cs := by
  have hhead : q.Rooted ↔ path.Rooted := by
    rw [Rooted, Rooted, h, List.head?_append_of_ne_nil _ (components_ne_nil hne)]
  by_cases hroot : path.Rooted
  · rw [steps_of_rooted hroot, steps_of_rooted (hhead.mpr hroot), h]
  · rw [steps_of_not_rooted hroot, steps_of_not_rooted (mt hhead.mp hroot), h, List.filter_append,
      filter_ne_here hhere, List.cons_append]

/-- Going on adds a step. -/
theorem steps_join (hpath : path ≠ "") (hname : IsStep name) :
    (path.join name).steps = path.steps ++ (step? name).toList := by
  refine steps_of_components_append ?_ hpath (here_not_mem_component? name.toList)
  rw [components_eq, parts_join hname.isAbsolute, hname.parts,
    componentsOf_append (mt parts_eq_nil_iff.mp hpath), ← components_eq]
  cases hstep : component? name.toList <;> simp [step?, hstep]

theorem steps_descend (hpath : path ≠ "") (hway : ∀ name ∈ way, IsStep name) :
    (path.descend way).steps = path.steps ++ way.filterMap step? := by
  induction way generalizing path with
  | nil => exact (List.append_nil _).symm
  | cons name way ih =>
    obtain ⟨hname, hway⟩ := List.forall_mem_cons.mp hway
    rw [descend_cons, ih (join_ne_empty hpath hname.isAbsolute) hway, steps_join hpath hname,
      List.append_assoc]
    cases hstep : step? name <;> simp [hstep]

/-- The way of a relative path can be read off its parts. -/
theorem steps_of_parts (h : ¬ path.Rooted) :
    path.steps = .here :: path.parts.filterMap component? := by
  rw [steps_of_not_rooted h, components_eq]
  rw [Rooted, head?_components] at h
  congr 1
  cases hparts : path.parts with
  | nil => rfl
  | cons part parts =>
    rw [hparts] at h
    -- only the first part can be more than its step: the root if it is empty, or a dot
    have hempty : part ≠ [] := by
      rintro rfl
      exact h rfl
    rw [componentsOf, List.filter_append, filter_ne_here (here_not_mem_filterMap parts)]
    by_cases hdot : part = ['.']
    · subst hdot
      rfl
    · rw [lead?, if_neg hempty, if_neg hdot, filter_ne_here (here_not_mem_component? part),
        List.filterMap_cons]
      cases component? part <;> rfl

theorem parts_descend_of_isStep (hway : ∀ name ∈ way, IsStep name) (base : Path) :
    (base.descend way).parts = base.parts ++ way.map String.toList := by
  induction way generalizing base with
  | nil => exact (List.append_nil _).symm
  | cons name way ih =>
    obtain ⟨hname, hway⟩ := List.forall_mem_cons.mp hway
    rw [descend_cons, ih hway, parts_join hname.isAbsolute, hname.parts, List.append_assoc,
      List.singleton_append, List.map_cons]

/-! ## The length of a spelling -/

theorem mem_of_mem_splitSlashes {cs part : List Char} {c : Char} (hpart : part ∈ splitSlashes cs)
    (hc : c ∈ part) : c ∈ cs := by
  induction cs generalizing part with
  | nil =>
    rw [splitSlashes, List.mem_singleton] at hpart
    rw [hpart] at hc
    cases hc
  | cons d cs ih =>
    rw [splitSlashes] at hpart
    split at hpart
    case isTrue =>
      rcases List.mem_cons.mp hpart with rfl | hpart
      · cases hc
      · exact List.mem_cons_of_mem _ (ih hpart hc)
    case isFalse =>
      cases hsplit : splitSlashes cs with
      | nil => exact absurd hsplit (splitSlashes_ne_nil cs)
      | cons first rest =>
        rw [hsplit] at hpart ih
        rcases List.mem_cons.mp hpart with rfl | hpart
        · rcases List.mem_cons.mp hc with rfl | hc
          · exact List.mem_cons_self
          · exact List.mem_cons_of_mem _ (ih List.mem_cons_self hc)
        · exact List.mem_cons_of_mem _ (ih (List.mem_cons_of_mem _ hpart) hc)

/-- Each part takes its characters and a slash, except that the last one needs none. -/
theorem total_length_splitSlashes (cs : List Char) :
    ((splitSlashes cs).map fun part => part.length + 1).foldr (· + ·) 0 = cs.length + 1 := by
  induction cs with
  | nil => rfl
  | cons c cs ih =>
    rw [splitSlashes]
    split
    · rw [List.map_cons, List.foldr_cons, ih, List.length_cons, List.length_nil]
      omega
    · cases hsplit : splitSlashes cs with
      | nil => exact absurd hsplit (splitSlashes_ne_nil cs)
      | cons part parts =>
        rw [hsplit, List.map_cons, List.foldr_cons] at ih
        rw [List.map_cons, List.foldr_cons, List.length_cons, List.length_cons]
        omega

/-- Parts that are not empty take two characters each with their slashes. -/
theorem two_mul_length_parts_le (h : [] ∉ path.parts) : 2 * path.parts.length ≤ path.length + 1 := by
  have hcount : ∀ ps : List (List Char), [] ∉ ps →
      2 * ps.length ≤ (ps.map fun part => part.length + 1).foldr (· + ·) 0 := by
    intro ps hps
    induction ps with
    | nil => exact Nat.le_refl _
    | cons part ps ih =>
      rw [List.mem_cons, not_or] at hps
      have hpart := List.length_pos_of_ne_nil (Ne.symm hps.1)
      have := ih hps.2
      rw [List.length_cons, List.map_cons, List.foldr_cons]
      omega
  have htrimmed : (path.parts.map fun part => part.length + 1).foldr (· + ·) 0 ≤
      ((splitSlashes path.toList).map fun part => part.length + 1).foldr (· + ·) 0 := by
    unfold parts trimmed
    split
    case isFalse => exact Nat.le_refl _
    case isTrue hlast =>
      obtain ⟨front, hfront⟩ := List.getLast?_eq_some_iff.mp hlast
      rw [hfront, List.dropLast_concat, List.map_append, ← List.sum_eq_foldr, ← List.sum_eq_foldr,
        List.sum_append]
      exact Nat.le_add_right _ _
  rw [total_length_splitSlashes, String.length_toList] at htrimmed
  exact Nat.le_trans (hcount _ h) htrimmed

end MapLint.Path

namespace MapLint.FileTree

variable {top tree : FileTree} {path p q : Path} {name text : String} {way : List String}
  {here location place : List String} {entries : List Entry} {n : Nat} {cs ds : List Component}

/-! ## Following a way -/

/-- Components are followed one after the other, through links too. -/
theorem exists_of_resolve_append (h : top.resolve n here (cs ++ ds) = .ok location) :
    ∃ place m, top.resolve n here cs = .ok place ∧ top.resolve m place ds = .ok location := by
  -- behind a link there is more to follow than before, but one link less may be met
  induction n generalizing here cs with
  | zero =>
    rw [resolve, advance_append] at h
    rw [resolve]
    cases hstop : top.advance here cs with
    | error e =>
      rw [hstop] at h
      cases h
    | ok stop =>
      rw [hstop] at h
      cases stop with
      | atLink here' target rest => cases h
      | arrived place =>
        refine ⟨place, 0, rfl, ?_⟩
        rw [resolve]
        exact h
  | succ n ih =>
    rw [resolve, advance_append] at h
    rw [resolve]
    cases hstop : top.advance here cs with
    | error e =>
      rw [hstop] at h
      cases h
    | ok stop =>
      rw [hstop] at h
      cases stop with
      | arrived place =>
        refine ⟨place, n + 1, rfl, ?_⟩
        rw [resolve]
        exact h
      | atLink here' target rest =>
        dsimp only at h ⊢
        split at h
        case isTrue => cases h
        case isFalse hne =>
          rw [if_neg hne]
          rw [← List.append_assoc] at h
          exact ih h

/-- A dot leads nowhere else. -/
theorem resolve_here (top : FileTree) (n : Nat) (here : List String) (cs : List Component) :
    top.resolve n here (.here :: cs) = top.resolve n here cs := by
  rw [resolve.eq_def, resolve.eq_def]
  rfl

/-- Where a path leads is told by the way it goes. -/
theorem resolve_components (top : FileTree) (n : Nat) (path : Path) :
    top.resolve n [] path.components = top.resolve n [] path.steps := by
  by_cases hroot : path.Rooted
  · rw [Path.steps_of_rooted hroot]
  · by_cases hdot : path.Dotted
    · rw [Path.steps_of_dotted hdot]
    · rw [Path.steps_of_plain hroot hdot, resolve_here]

theorem locate_eq_dir_iff :
    top.locate path = .ok (location, .dir entries) ↔
      path ≠ "" ∧ top.resolve maxLinks [] path.steps = .ok location ∧
        top.at? location = some (.dir entries) := by
  rw [locate_eq_ok_iff_resolve, resolve_components]
  exact ⟨fun ⟨hne, hresolve, hat, _⟩ => ⟨hne, hresolve, hat⟩,
    fun ⟨hne, hresolve, hat⟩ => ⟨hne, hresolve, hat, fun _ => rfl⟩⟩

theorem leadsToDir_iff :
    top.leadsToDir path = true ↔ ∃ location entries, top.locate path = .ok (location, .dir entries) := by
  unfold leadsToDir
  cases top.locate path with
  | error e => simp
  | ok found =>
    obtain ⟨location, tree⟩ := found
    cases tree <;> simp [isDir]

/-- Two spellings of one way lead to the same directory. -/
theorem locate_eq_dir_iff_of_steps_eq (hp : p ≠ "") (hq : q ≠ "") (h : p.steps = q.steps) :
    top.locate p = .ok (location, .dir entries) ↔ top.locate q = .ok (location, .dir entries) := by
  rw [locate_eq_dir_iff, locate_eq_dir_iff, h, and_iff_right hp, and_iff_right hq]

theorem leadsToDir_eq_of_steps_eq (hp : p ≠ "") (hq : q ≠ "") (h : p.steps = q.steps) :
    top.leadsToDir p = top.leadsToDir q := by
  rw [Bool.eq_iff_iff, leadsToDir_iff, leadsToDir_iff]
  simp only [locate_eq_dir_iff_of_steps_eq hp hq h]

/-- A step up or to a name is made from a directory. -/
theorem exists_dir_of_resolve_cons {c : Component} (hc : c = .up ∨ ∃ name, c = .name name)
    (h : top.resolve n here (c :: cs) = .ok location) : ∃ entries, top.at? here = some (.dir entries) := by
  by_contra hdir
  rw [not_exists] at hdir
  have herror : top.advance here (c :: cs) = .error .notDirectory := by
    rcases hc with rfl | ⟨name, rfl⟩
    all_goals
      rw [advance]
      split
      case h_1 entries hhere => exact absurd hhere (hdir entries)
      case h_2 => rfl
  rw [resolve, herror] at h
  cases h

/-- What leads to a directory begins at one. -/
theorem exists_dir_of_resolve (h : top.resolve n here cs = .ok location)
    (hat : top.at? location = some (.dir entries)) : ∃ entries, top.at? here = some (.dir entries) := by
  induction cs with
  | nil =>
    rw [resolve, advance] at h
    cases h
    exact ⟨entries, hat⟩
  | cons c cs ih =>
    cases c with
    | here => exact ih (by rwa [resolve_here] at h)
    | root =>
      rw [resolve, advance] at h
      cases h
    | up => exact exists_dir_of_resolve_cons (.inl rfl) h
    | name name => exact exists_dir_of_resolve_cons (.inr ⟨name, rfl⟩) h

/-- What a way to a directory passes through are directories. -/
theorem leadsToDir_of_steps_append (hp : p ≠ "") (hsteps : q.steps = p.steps ++ cs)
    (h : top.leadsToDir q = true) : top.leadsToDir p = true := by
  obtain ⟨location, entries, hlocate⟩ := leadsToDir_iff.mp h
  obtain ⟨-, hresolve, hat⟩ := locate_eq_dir_iff.mp hlocate
  rw [hsteps] at hresolve
  obtain ⟨place, m, hplace, hrest⟩ := exists_of_resolve_append hresolve
  obtain ⟨entries, hentries⟩ := exists_dir_of_resolve hrest hat
  exact leadsToDir_iff.mpr ⟨place, entries, locate_eq_dir_iff.mpr ⟨hp, hplace, hentries⟩⟩

theorem exists_child?_of_resolve (h : top.resolve n here (.name name :: cs) = .ok location) :
    ∃ entries child, top.at? here = some (.dir entries) ∧
      (FileTree.dir entries).child? name = some child := by
  obtain ⟨entries, hhere⟩ := exists_dir_of_resolve_cons (.inr ⟨name, rfl⟩) h
  cases hchild : (FileTree.dir entries).child? name with
  | some child => exact ⟨entries, child, hhere, hchild⟩
  | none =>
    rw [resolve, advance, hhere] at h
    simp only [hchild] at h
    cases h

/-! ## Looking up a name -/

section LookUp

variable {front : List Component} (hpath : path.components = front ++ [.name name])

include hpath

/-- What a path that ends in a name leads to is, with its links, an entry of the directory in front. -/
theorem exists_child?_of_leadsSomewhere (h : top.leadsSomewhere path = true) :
    ∃ place entries child, top.resolve maxLinks [] front = .ok place ∧
      top.at? place = some (.dir entries) ∧ (FileTree.dir entries).child? name = some child := by
  obtain ⟨location, tree, hlocate⟩ := leadsSomewhere_iff.mp h
  obtain ⟨-, hlocation, -⟩ := locate_eq_ok_iff_resolve.mp hlocate
  rw [hpath] at hlocation
  obtain ⟨place, m, hplace, hrest⟩ := exists_of_resolve_append hlocation
  obtain ⟨entries, child, hat, hchild⟩ := exists_child?_of_resolve hrest
  exact ⟨place, entries, child, hplace, hat, hchild⟩

theorem exists_child?_of_locateEntry (hdir : namesDirectory path = false)
    (h : (top.locateEntry path).toBool = true) :
    ∃ place entries child, top.resolve maxLinks [] front = .ok place ∧
      top.at? place = some (.dir entries) ∧ (FileTree.dir entries).child? name = some child := by
  cases hlookup : top.locateEntry path with
  | error e =>
    rw [hlookup] at h
    cases h
  | ok tree =>
    rcases locateEntry_cases hlookup with ⟨hno, -⟩ | ⟨front', name', place, heq, -, hplace, hat⟩
    · rw [hdir, Path.fileName?, hpath, List.getLast?_concat] at hno
      exact absurd hno (by simp)
    · obtain ⟨rfl, hlast⟩ := List.append_inj' (hpath.symm.trans heq) rfl
      cases hlast
      obtain ⟨entries, hentries, hchild⟩ := exists_dir_of_at?_concat hat
      exact ⟨place, entries, tree, hplace, hentries, hchild⟩

end LookUp

theorem not_rooted_of_leadsToDir (h : top.leadsToDir path = true) : ¬ path.Rooted := by
  intro hroot
  obtain ⟨location, entries, hlocate⟩ := leadsToDir_iff.mp h
  obtain ⟨-, hresolve, -⟩ := locate_eq_dir_iff.mp hlocate
  obtain ⟨rest, hrest⟩ := List.head?_eq_some_iff.mp hroot
  rw [Path.steps_of_rooted hroot, hrest, resolve, advance] at hresolve
  cases hresolve

theorem ne_empty_of_leadsToDir (h : top.leadsToDir path = true) : path ≠ "" := by
  rintro rfl
  cases h

/-! ## One step after the other -/

/-- The path leads to a directory that holds an entry with the name, as every directory holds the two
names made of dots. -/
def Holds (top : FileTree) (path : Path) (name : String) : Prop :=
  ∃ location entries, top.locate path = .ok (location, .dir entries) ∧
    (name ∈ [".", ".."] ∨ ∃ entry ∈ entries, entry.name = name)

/-- The path can be gone on from by these names, each of them held by the directory come to. -/
def Goes (top : FileTree) : Path → List String → Prop
  | _, [] => True
  | path, name :: way => top.Holds path name ∧ top.Goes (path.join name) way

theorem Holds.leadsToDir (h : top.Holds path name) : top.leadsToDir path = true := by
  obtain ⟨location, entries, hlocate, -⟩ := h
  exact leadsToDir_iff.mpr ⟨location, entries, hlocate⟩

theorem Holds.isName_or (hnamed : top.wellNamed = true) (h : top.Holds path name) :
    name ∈ [".", ".."] ∨ Path.IsName name := by
  obtain ⟨location, entries, hlocate, hdots | ⟨entry, hmem, rfl⟩⟩ := h
  · exact .inl hdots
  · exact .inr (isName_of_mem (everywhere_at? hnamed (at?_of_locate hlocate)) hmem)

theorem Holds.isStep (hnamed : top.wellNamed = true) (h : top.Holds path name) : Path.IsStep name :=
  (h.isName_or hnamed).elim Path.isStep_of_dots Path.IsName.isStep

theorem Holds.congr (hp : p ≠ "") (hq : q ≠ "") (hsteps : p.steps = q.steps) (h : top.Holds p name) :
    top.Holds q name := by
  obtain ⟨location, entries, hlocate, hname⟩ := h
  exact ⟨location, entries, (locate_eq_dir_iff_of_steps_eq hp hq hsteps).mp hlocate, hname⟩

theorem Goes.isStep (hnamed : top.wellNamed = true) (h : top.Goes path way) :
    ∀ name ∈ way, Path.IsStep name := by
  induction way generalizing path with
  | nil => exact fun _ hname => absurd hname List.not_mem_nil
  | cons first way ih => exact List.forall_mem_cons.mpr ⟨h.1.isStep hnamed, ih h.2⟩

/-- Where one can go depends on the way of a path, not on its spelling. -/
theorem Goes.congr (hnamed : top.wellNamed = true) (hp : p ≠ "") (hq : q ≠ "")
    (hsteps : p.steps = q.steps) (h : top.Goes p way) : top.Goes q way := by
  induction way generalizing p q with
  | nil => trivial
  | cons name way ih =>
    have hname := h.1.isStep hnamed
    refine ⟨h.1.congr hp hq hsteps, ih (Path.join_ne_empty hp hname.isAbsolute)
      (Path.join_ne_empty hq hname.isAbsolute) ?_ h.2⟩
    rw [Path.steps_join hp hname, Path.steps_join hq hname, hsteps]

end MapLint.FileTree
