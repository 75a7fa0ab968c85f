import MapLint.Project.FileTree
import MapLint.Proofs.PathParts

/-!
# Where a path leads

A path is followed component by component, and where it leads is a location. Here it is told how the
location comes out of the components: those of a longer path are followed from where the shorter one
led, and in a tree without links a name adds itself to the location and nothing else does.

## Architecture

- `everywhere` asks the same of every tree in a tree; `linkless` and `wellNamed` are the two questions
  that matter here;
- `advance_append`, `resolve_append` and `advance_names_of_ne_link` say how components are followed;
- `locate_eq_ok_iff_resolve` turns `locate` around, `locateEntry_cases` does the same for what stands
  at the end of a path, and `exists_locate_of_ne_link` says where the two agree;
- in a tree without links `locate_eq_ok_iff` needs no `resolve`, `locate_descend` goes on by names, and
  `steps_of_locate` reads the location off a path that does not go up.
-/

namespace MapLint.FileTree

/-! ## Asking every tree in a tree -/

mutual

/-- The tree and every tree in it pass a test. -/
def everywhere (test : FileTree → Bool) : FileTree → Bool
  | .file content => test (.file content)
  | .link target => test (.link target)
  | .dir entries => test (.dir entries) && everywhereIn test entries

/-- Every tree at and below these entries passes a test. -/
def everywhereIn (test : FileTree → Bool) : List Entry → Bool
  | [] => true
  | .mk _ tree :: rest => everywhere test tree && everywhereIn test rest

end

/-- There is no link in the tree. -/
def linkless : FileTree → Bool :=
  everywhere fun
    | .link _ => false
    | _ => true

/-- Every directory in the tree holds names, and none of them twice. -/
def wellNamed : FileTree → Bool :=
  everywhere fun
    | .dir entries =>
      entries.all (fun entry => decide (Path.IsName entry.name)) &&
        decide (entries.map Entry.name).Nodup
    | _ => true

variable {test : FileTree → Bool} {top tree child : FileTree} {entries : List Entry}
  {entry : Entry} {name : String} {here names location : List String}

theorem everywhereIn_iff :
    everywhereIn test entries = true ↔ ∀ entry ∈ entries, everywhere test entry.tree = true := by
  induction entries with
  | nil => simp [everywhereIn]
  | cons entry entries ih =>
    obtain ⟨name, tree⟩ := entry
    rw [everywhereIn, Bool.and_eq_true, ih, List.forall_mem_cons]
    rfl

theorem test_of_everywhere (h : everywhere test tree = true) : test tree = true := by
  cases tree with
  | file content => exact h
  | link target => exact h
  | dir entries =>
    rw [everywhere, Bool.and_eq_true] at h
    exact h.1

theorem everywhere_of_mem (h : everywhere test (.dir entries) = true) (hentry : entry ∈ entries) :
    everywhere test entry.tree = true := by
  rw [everywhere, Bool.and_eq_true] at h
  exact everywhereIn_iff.mp h.2 entry hentry

/-- Only a directory has something under a name. -/
theorem exists_entry_of_child? (h : tree.child? name = some child) :
    ∃ entries entry, tree = .dir entries ∧ entry ∈ entries ∧ entry.name = name ∧
      entry.tree = child := by
  unfold child? at h
  obtain ⟨entry, hentry, rfl⟩ := Option.map_eq_some_iff.mp h
  have hname : entry.name = name := by simpa using List.find?_some hentry
  have hmem := List.mem_of_find?_eq_some hentry
  cases tree with
  | dir entries => exact ⟨entries, entry, rfl, hmem, hname, rfl⟩
  | file content => cases hmem
  | link target => cases hmem

theorem everywhere_at? (h : everywhere test top = true) (hat : top.at? location = some tree) :
    everywhere test tree = true := by
  induction location generalizing top with
  | nil =>
    cases hat
    exact h
  | cons name names ih =>
    rw [at?] at hat
    split at hat
    case h_2 => cases hat
    case h_1 child hchild =>
      obtain ⟨entries, entry, rfl, hmem, -, rfl⟩ := exists_entry_of_child? hchild
      exact ih (everywhere_of_mem h hmem) hat

theorem ne_link_of_linkless (h : top.linkless = true) (hat : top.at? location = some tree)
    (target : Path) : tree ≠ .link target := by
  rintro rfl
  exact absurd (test_of_everywhere (everywhere_at? h hat)) Bool.false_ne_true

theorem isName_of_mem (h : (FileTree.dir entries).wellNamed = true) (hentry : entry ∈ entries) :
    Path.IsName entry.name := by
  have htest := test_of_everywhere h
  rw [Bool.and_eq_true, List.all_eq_true] at htest
  simpa using htest.1 entry hentry

/-- In a directory that has no name twice, every entry is found under its name. -/
theorem child?_of_mem (h : (FileTree.dir entries).wellNamed = true) (hentry : entry ∈ entries) :
    (FileTree.dir entries).child? entry.name = some entry.tree := by
  have htest := test_of_everywhere h
  rw [Bool.and_eq_true, decide_eq_true_eq] at htest
  have hnodup := htest.2
  show (entries.find? (·.name == entry.name)).map Entry.tree = _
  clear h htest
  induction entries with
  | nil => cases hentry
  | cons first rest ih =>
    obtain ⟨hfirst, hrest⟩ := List.nodup_cons.mp hnodup
    rcases List.mem_cons.mp hentry with rfl | hentry
    · rw [List.find?_cons_of_pos (by simp)]
      rfl
    · have hne : first.name ≠ entry.name := fun heq =>
        hfirst (heq ▸ List.mem_map_of_mem hentry)
      rw [List.find?_cons_of_neg (by simpa using hne)]
      exact ih hentry hrest

/-! ## Locations -/

theorem at?_append (tree : FileTree) (here names : List String) :
    tree.at? (here ++ names) = (tree.at? here).bind fun sub => sub.at? names := by
  induction here generalizing tree with
  | nil => rfl
  | cons name here ih =>
    rw [List.cons_append, at?, at?]
    cases tree.child? name with
    | none => rfl
    | some child => exact ih child

theorem isName_of_at? (h : tree.wellNamed = true) (hat : tree.at? names = some child) :
    ∀ name ∈ names, Path.IsName name := by
  induction names generalizing tree with
  | nil => exact fun _ hname => absurd hname List.not_mem_nil
  | cons first names ih =>
    rw [at?] at hat
    split at hat
    case h_2 => cases hat
    case h_1 sub hsub =>
      obtain ⟨entries, entry, rfl, hmem, rfl, rfl⟩ := exists_entry_of_child? hsub
      intro name hname
      rcases List.mem_cons.mp hname with rfl | hname
      · exact isName_of_mem h hmem
      · exact ih (everywhere_of_mem h hmem) hat name hname

/-! ## Following components -/

/-- Components are followed from where those before them led. -/
theorem advance_append (top : FileTree) (here : List String) (cs ds : List Component) :
    top.advance here (cs ++ ds) =
      match top.advance here cs with
      | .error e => .error e
      | .ok (.arrived location) => top.advance location ds
      | .ok (.atLink place target rest) => .ok (.atLink place target (rest ++ ds)) := by
  induction cs generalizing here with
  | nil => rfl
  | cons c cs ih =>
    rw [List.cons_append]
    cases c with
    | root => rfl
    | here => exact ih here
    | up =>
      rw [advance, advance]
      split
      · split
        · rfl
        · exact ih _
      · rfl
    | name name =>
      rw [advance, advance]
      split
      · split
        · rfl
        · exact ih _
        · rfl
      · rfl

/-- Components are followed from where those before them led, through links too. -/
theorem resolve_append {place : List String} {n : Nat} {cs ds : List Component}
    (hfront : top.resolve n here cs = .ok place)
    (hback : top.advance place ds = .ok (.arrived location)) :
    top.resolve n here (cs ++ ds) = .ok location := by
  fun_induction top.resolve n here cs with
  | case1 => cases hfront
  | case2 n here cs found hstop =>
    cases hfront
    rw [resolve, advance_append, hstop]
    dsimp only
    rw [hback]
  | case3 => cases hfront
  | case4 => cases hfront
  | case5 here cs found target rest hstop n hne ih =>
    have hnext := ih hfront
    rw [List.append_assoc] at hnext
    rw [resolve, advance_append, hstop]
    dsimp only
    rw [if_neg hne]
    exact hnext

/-- Names lead to what stands there, unless that is a link. -/
theorem advance_names_of_ne_link {sub : FileTree} (hhere : top.at? here = some tree)
    (hnames : tree.at? names = some sub) (hlink : ∀ target, sub ≠ .link target) :
    top.advance here (names.map Component.name) = .ok (.arrived (here ++ names)) := by
  induction names generalizing here tree with
  | nil => rw [List.map_nil, advance, List.append_nil]
  | cons name names ih =>
    rw [at?] at hnames
    split at hnames
    case h_2 => cases hnames
    case h_1 child hchild =>
      obtain ⟨entries, -, rfl, -⟩ := exists_entry_of_child? hchild
      have hat : top.at? (here ++ [name]) = some child := by
        rw [at?_append, hhere, Option.bind_some, at?, hchild]
        rfl
      have hnext := ih hat hnames
      rw [List.append_assoc, List.singleton_append] at hnext
      rw [List.map_cons, advance, hhere]
      dsimp only
      rw [hchild]
      cases child with
      | link target =>
        -- a link has nothing below it, so it would be the end
        cases names with
        | nil => exact absurd (Option.some.inj hnames).symm (hlink target)
        | cons first rest => cases hnames
      | file content => exact hnext
      | dir entries => exact hnext

/-- A path that ends in a name does not ask for a directory. -/
theorem namesDirectory_join {base : Path} (h : Path.IsName name) :
    namesDirectory (base.join name) = false := by
  unfold namesDirectory
  rw [Path.splitSlashes_join (Path.isAbsolute_of_not_mem h.1), Path.splitSlashes_of_not_mem h.1,
    List.getLast?_concat]
  simp [h.toList_ne.1, h.toList_ne.2.1]

theorem namesDirectory_descend {base : Path} (h : ∀ name ∈ names, Path.IsName name)
    (hne : names ≠ []) : namesDirectory (base.descend names) = false := by
  obtain ⟨front, last, rfl⟩ : ∃ front last, names = front ++ [last] :=
    ⟨_, _, (List.dropLast_concat_getLast hne).symm⟩
  rw [Path.descend, List.foldl_append]
  exact namesDirectory_join (h last (by simp))

/-- Components that do not go up add their names to the location. -/
theorem names_of_advance {cs : List Component} (hup : Component.up ∉ cs)
    (h : top.advance here cs = .ok (.arrived location)) :
    ∃ names, cs.filter (· ≠ .here) = names.map Component.name ∧ location = here ++ names := by
  induction cs generalizing here with
  | nil =>
    cases h
    exact ⟨[], rfl, (List.append_nil _).symm⟩
  | cons c cs ih =>
    rw [List.mem_cons, not_or] at hup
    cases c with
    | root => cases h
    | up => exact absurd rfl hup.1
    | here =>
      rw [List.filter_cons_of_neg (by simp)]
      exact ih hup.2 h
    | name name =>
      rw [advance] at h
      split at h
      case h_2 => cases h
      case h_1 entries hdir =>
        split at h
        case h_1 => cases h
        case h_3 => cases h
        case h_2 =>
          obtain ⟨names, hnames, rfl⟩ := ih hup.2 h
          refine ⟨name :: names, ?_, ?_⟩
          · rw [List.filter_cons_of_pos (by simp), hnames, List.map_cons]
          · rw [List.append_assoc, List.singleton_append]

/-- Names at the end add themselves to the place where the components before them lead. -/
theorem exists_place_of_advance_names {cs : List Component}
    (h : top.advance here (cs ++ names.map Component.name) = .ok (.arrived location)) :
    ∃ place, top.advance here cs = .ok (.arrived place) ∧ location = place ++ names := by
  rw [advance_append] at h
  split at h
  case h_1 => cases h
  case h_3 => cases h
  case h_2 place hplace =>
    obtain ⟨added, hadded, hlocation⟩ := names_of_advance (by simp) h
    rw [List.filter_eq_self.mpr (by simp)] at hadded
    have hnames : names = added :=
      List.map_injective_iff.mpr (fun _ _ heq => Component.name.inj heq) hadded
    exact ⟨place, hplace, by rw [hlocation, hnames]⟩

theorem getLast?_ne_of_not_namesDirectory {path : Path} (h : namesDirectory path = false) :
    (Path.splitSlashes path.toList).getLast? ≠ some [] := by
  intro hlast
  rw [namesDirectory, hlast] at h
  cases h

/-- A path leads to the location at the end of its components. -/
theorem locate_eq_ok_iff_resolve {path : Path} :
    top.locate path = .ok (location, tree) ↔
      path ≠ "" ∧ top.resolve maxLinks [] path.components = .ok location ∧
        top.at? location = some tree ∧ (namesDirectory path = true → tree.isDir = true) := by
  unfold locate
  split
  case isTrue hempty => simp [hempty]
  case isFalse hpath =>
    cases top.resolve maxLinks [] path.components with
    | error e => simp
    | ok place =>
      dsimp only
      cases hat : top.at? place with
      | none =>
        constructor
        · intro h
          cases h
        · rintro ⟨-, hplace, hat', -⟩
          cases hplace
          rw [hat] at hat'
          cases hat'
      | some found =>
        dsimp only
        constructor
        · intro h
          split at h
          case isTrue => cases h
          case isFalse hdir =>
            cases h
            refine ⟨hpath, rfl, hat, fun hnames => ?_⟩
            simpa [hnames] using hdir
        · rintro ⟨-, hplace, hat', hdir⟩
          cases hplace
          obtain rfl : found = tree := Option.some.inj (hat.symm.trans hat')
          rw [if_neg]
          simpa using hdir

/-- What a path leads to stands at a location. -/
theorem at?_of_locate {path : Path} (h : top.locate path = .ok (location, tree)) :
    top.at? location = some tree :=
  (locate_eq_ok_iff_resolve.mp h).2.2.1

theorem leadsSomewhere_iff {path : Path} :
    top.leadsSomewhere path = true ↔ ∃ location tree, top.locate path = .ok (location, tree) := by
  rw [leadsSomewhere]
  cases top.locate path with
  | error e => simp [Except.toBool]
  | ok pair => exact iff_of_true rfl ⟨pair.1, pair.2, rfl⟩

/-- Where a path ends in a name, the directory in front of it is asked for the name. -/
theorem locateEntry_of_child? {path : Path} {front : List Component} {place : List String}
    (hpath : path.components = front ++ [.name name]) (hdir : namesDirectory path = false)
    (hplace : top.resolve maxLinks [] front = .ok place) (hat : top.at? place = some (.dir entries))
    (hchild : (FileTree.dir entries).child? name = some child) : top.locateEntry path = .ok child := by
  unfold locateEntry
  rw [hpath, List.getLast?_concat, List.dropLast_concat]
  simp only [hdir, hplace, hat, hchild, Bool.false_eq_true, if_false]

/-- What stands at a path itself is what it leads to, or, where the path ends in a name, what stands
under that name. -/
theorem locateEntry_cases {path : Path} (h : top.locateEntry path = .ok tree) :
    ((namesDirectory path = true ∨ path.fileName? = none) ∧
      ∃ location, top.locate path = .ok (location, tree)) ∨
    ∃ front name place, path.components = front ++ [.name name] ∧ namesDirectory path = false ∧
      top.resolve maxLinks [] front = .ok place ∧ top.at? (place ++ [name]) = some tree := by
  have hlocate : (top.locate path).map Prod.snd = .ok tree →
      ∃ location, top.locate path = .ok (location, tree) := by
    intro hmap
    cases hlocate : top.locate path with
    | error e =>
      rw [hlocate] at hmap
      cases hmap
    | ok pair =>
      obtain ⟨location, sub⟩ := pair
      rw [hlocate] at hmap
      cases hmap
      exact ⟨location, rfl⟩
  unfold locateEntry at h
  split at h
  case h_2 hlast =>
    refine .inl ⟨.inr ?_, hlocate h⟩
    unfold Path.fileName?
    split
    case h_1 name hname => exact absurd hname (hlast name)
    case h_2 => rfl
  case h_1 name hlast =>
    split at h
    case isTrue hdir => exact .inl ⟨.inl hdir, hlocate h⟩
    case isFalse hdir =>
      split at h
      case h_1 => cases h
      case h_2 place hplace =>
        split at h
        case h_2 => cases h
        case h_1 entries hentries =>
          split at h
          case h_2 => cases h
          case h_1 child hchild =>
            cases h
            obtain ⟨front, hfront⟩ := List.getLast?_eq_some_iff.mp hlast
            rw [hfront, List.dropLast_concat] at hplace
            refine .inr ⟨front, name, place, hfront, Bool.eq_false_iff.mpr hdir, hplace, ?_⟩
            rw [at?_append, hentries, Option.bind_some, at?, hchild]
            rfl

theorem exists_at?_of_locateEntry {path : Path} (h : top.locateEntry path = .ok tree) :
    path ≠ "" ∧ ∃ location, top.at? location = some tree := by
  constructor
  · rintro rfl
    cases h
  · rcases locateEntry_cases h with ⟨-, location, hlocate⟩ | ⟨_, name, place, -, -, -, hat⟩
    · exact ⟨location, at?_of_locate hlocate⟩
    · exact ⟨place ++ [name], hat⟩

theorem exists_dir_of_at?_concat {place : List String} (h : top.at? (place ++ [name]) = some tree) :
    ∃ entries, top.at? place = some (.dir entries) ∧
      (FileTree.dir entries).child? name = some tree := by
  rw [at?_append] at h
  obtain ⟨sub, hsub, hchild⟩ := Option.bind_eq_some_iff.mp h
  rw [at?] at hchild
  split at hchild
  case h_2 => cases hchild
  case h_1 child hfound =>
    cases hchild
    obtain ⟨entries, -, rfl, -⟩ := exists_entry_of_child? hfound
    exact ⟨entries, hsub, hfound⟩

/-- What stands at a path itself, if it is no link, is what the path leads to. -/
theorem exists_locate_of_ne_link {path : Path} (h : top.locateEntry path = .ok tree)
    (hlink : ∀ target, tree ≠ .link target) : ∃ location, top.locate path = .ok (location, tree) := by
  rcases locateEntry_cases h with ⟨-, hlocate⟩ | ⟨front, name, place, hpath, hdir, hplace, hat⟩
  · exact hlocate
  · obtain ⟨entries, hentries, hchild⟩ := exists_dir_of_at?_concat hat
    have hone : (FileTree.dir entries).at? [name] = some tree := by
      rw [at?, hchild]
      rfl
    refine ⟨place ++ [name], locate_eq_ok_iff_resolve.mpr
      ⟨(exists_at?_of_locateEntry h).1, ?_, hat, fun hnames => ?_⟩⟩
    · rw [hpath]
      exact resolve_append hplace (advance_names_of_ne_link hentries hone hlink)
    · rw [hdir] at hnames
      cases hnames

section Linkless

variable (hlinks : top.linkless = true)

include hlinks

theorem advance_ne_atLink (here : List String) (cs : List Component) (place : List String)
    (target : Path) (rest : List Component) :
    top.advance here cs ≠ .ok (.atLink place target rest) := by
  induction cs generalizing here with
  | nil => exact fun h => by cases h
  | cons c cs ih =>
    cases c with
    | root => exact fun h => by cases h
    | here => exact ih here
    | up =>
      rw [advance]
      split
      · split
        · exact fun h => by cases h
        · exact ih _
      · exact fun h => by cases h
    | name name =>
      rw [advance]
      split
      case h_2 => exact fun h => by cases h
      case h_1 entries hdir =>
        split
        case h_1 target' hchild =>
          -- the link would be at a location of the tree
          have hat : top.at? (here ++ [name]) = some (.link target') := by
            rw [at?_append, hdir, Option.bind_some, at?, hchild]
            rfl
          exact absurd rfl (ne_link_of_linkless hlinks hat target')
        case h_2 => exact ih _
        case h_3 => exact fun h => by cases h

/-- Where there are no links, names lead to what stands there. -/
theorem advance_names {sub : FileTree} (hhere : top.at? here = some tree)
    (hnames : tree.at? names = some sub) :
    top.advance here (names.map Component.name) = .ok (.arrived (here ++ names)) := by
  have hat : top.at? (here ++ names) = some sub := by
    rw [at?_append, hhere, Option.bind_some, hnames]
  exact advance_names_of_ne_link hhere hnames (ne_link_of_linkless hlinks hat)

theorem resolve_eq_ok_iff {n : Nat} {cs : List Component} :
    top.resolve n here cs = .ok location ↔ top.advance here cs = .ok (.arrived location) := by
  rw [resolve]
  split
  case h_1 e he => simp [he]
  case h_2 place hplace => simp [hplace]
  case h_3 place target rest hstop =>
    exact absurd hstop (advance_ne_atLink hlinks here cs place target rest)

/-- Where there are no links, components are followed in one go. -/
theorem locate_eq_ok_iff {path : Path} :
    top.locate path = .ok (location, tree) ↔
      path ≠ "" ∧ top.advance [] path.components = .ok (.arrived location) ∧
        top.at? location = some tree ∧ (namesDirectory path = true → tree.isDir = true) := by
  rw [locate_eq_ok_iff_resolve, resolve_eq_ok_iff hlinks]

/-- Where there are no links, it makes no difference whether one at the end is followed. -/
theorem exists_locate_of_locateEntry {path : Path} (h : top.locateEntry path = .ok tree) :
    ∃ location, top.locate path = .ok (location, tree) := by
  obtain ⟨location, hat⟩ := (exists_at?_of_locateEntry h).2
  exact exists_locate_of_ne_link h (ne_link_of_linkless hlinks hat)

/-- A path that is gone on by names leads to what stands there. -/
theorem locate_descend {path : Path} {sub : FileTree}
    (hpath : top.locate path = .ok (location, tree)) (hsub : tree.at? names = some sub)
    (hnames : ∀ name ∈ names, Path.IsName name) :
    top.locate (path.descend names) = .ok (location ++ names, sub) := by
  cases hcase : names with
  | nil =>
    rw [hcase] at hsub
    cases hsub
    rw [Path.descend_nil, List.append_nil]
    exact hpath
  | cons first rest =>
    rw [← hcase]
    have hne : names ≠ [] := by
      rw [hcase]
      exact List.cons_ne_nil _ _
    obtain ⟨hempty, harrived, hat, -⟩ := (locate_eq_ok_iff hlinks).mp hpath
    refine (locate_eq_ok_iff hlinks).mpr ⟨?_, ?_, ?_, ?_⟩
    · intro h
      have hparts := Path.parts_descend hnames path
      rw [h, Path.parts_empty] at hparts
      exact hne (List.map_eq_nil_iff.mp (List.append_eq_nil_iff.mp hparts.symm).2)
    · rw [Path.components_descend hnames, advance_append, harrived]
      exact advance_names hlinks hat hsub
    · rw [at?_append, hat, Option.bind_some, hsub]
    · intro h
      rw [namesDirectory_descend hnames hne] at h
      cases h

/-- The location of a path that does not go up can be read off the way it goes. -/
theorem steps_of_locate {path : Path} (hup : Component.up ∉ path.components)
    (h : top.locate path = .ok (location, tree)) :
    path.steps = .here :: location.map Component.name := by
  obtain ⟨-, harrived, -⟩ := (locate_eq_ok_iff hlinks).mp h
  obtain ⟨names, hsteps, hlocation⟩ := names_of_advance hup harrived
  have hroot : ¬ path.Rooted := by
    intro hroot
    obtain ⟨rest, hrest⟩ := List.head?_eq_some_iff.mp hroot
    rw [hrest] at harrived
    cases harrived
  rw [Path.steps_of_not_rooted hroot, hsteps, hlocation, List.nil_append]

end Linkless

end MapLint.FileTree
