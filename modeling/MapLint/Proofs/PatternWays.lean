import MapLint.Proofs.FileIdentity
import MapLint.Proofs.PathWays

/-!
# The ways that a pattern stands for

`expand` walks a project with the parts of a pattern in hand. What it comes to can be said without the walk:
`Fits` is a language of ways, one rule for each thing that a part can stand for, and the paths that are
found are those of the ways in it that can be gone.

## Architecture

- `holds_iff_lookUp` is the look-up of a part without wildcards, `mem_expandBelow_iff` and
  `mem_expandAt_iff` are one step of the walk each;
- `Accepts` is a part that stands for one name, `Fits` the language of a list of parts;
- `waysBelow` and `findsWay` are the two inclusions, by induction on the depth and on the way.
-/

namespace MapLint.Glob

variable {top : FileTree} {dirsOnly direct : Bool} {depth : Nat} {glob : Glob} {globs : List Glob}
  {path next q : Path} {name text : String} {way : List String}

/-! ## The path of an entry -/

theorem childPath_eq (path : Path) (name : String) :
    (path.components = [.here] ∧ childPath path name = name) ∨ childPath path name = path.join name := by
  unfold childPath
  split
  case isTrue hhere => exact .inl ⟨hhere, rfl⟩
  case isFalse => exact .inr rfl

theorem childPath_ne_empty (hpath : path ≠ "") (hname : Path.IsStep name) : childPath path name ≠ "" := by
  rcases childPath_eq path name with ⟨-, heq⟩ | heq
  · rw [heq]
    exact hname.2
  · rw [heq]
    exact Path.join_ne_empty hpath hname.isAbsolute

/-- The path of an entry goes on by its name, at the top as well. -/
theorem steps_childPath (hpath : path ≠ "") (hname : Path.IsStep name) :
    (childPath path name).steps = path.steps ++ (Path.step? name).toList := by
  rcases childPath_eq path name with ⟨hhere, heq⟩ | heq
  · have hpathRoot : ¬ path.Rooted := by
      rw [Path.Rooted, hhere]
      exact fun h => by cases h
    rw [heq, Path.steps_of_parts hname.not_rooted, hname.parts, Path.steps_of_not_rooted hpathRoot, hhere]
    cases hstep : Path.component? name.toList <;> simp [Path.step?, hstep]
  · rw [heq, Path.steps_join hpath hname]

/-- An entry is looked up from where the path leads, however it is spelled. -/
theorem exists_front_of_childPath (top : FileTree) (path : Path) (hname : Path.IsName name) :
    ∃ front, (childPath path name).components = front ++ [.name name] ∧
      (∀ n, top.resolve n [] front = top.resolve n [] path.steps) ∧
      FileTree.namesDirectory (childPath path name) = false := by
  rcases childPath_eq path name with ⟨hhere, heq⟩ | heq
  · have hroot : ¬ path.Rooted := by
      rw [Path.Rooted, hhere]
      exact fun h => by cases h
    refine ⟨[], ?_, fun n => ?_, ?_⟩
    · rw [heq, Path.components_eq, hname.parts, Path.componentsOf, hname.lead?]
      rfl
    · rw [Path.steps_of_not_rooted hroot, hhere]
      exact (FileTree.resolve_here top n [] []).symm
    · rw [heq, FileTree.namesDirectory, Path.splitSlashes_of_not_mem hname.1]
      simp [hname.toList_ne.1, hname.toList_ne.2.1]
  · have hjoin : (path.descend [name]).components = path.components ++ [name].map Component.name :=
      Path.components_descend (by simpa using hname) path
    refine ⟨path.components, ?_, fun n => top.resolve_components n path, ?_⟩
    · rw [heq]
      exact hjoin
    · rw [heq]
      exact FileTree.namesDirectory_join hname

/-- A name is held by a directory if and only if something is there when it is looked up. -/
theorem holds_iff_lookUp (hnamed : top.wellNamed = true) (hpath : path ≠ "") (hname : Path.IsName name) :
    top.Holds path name ↔
      (top.leadsSomewhere (childPath path name) || (top.locateEntry (childPath path name)).toBool) =
        true := by
  obtain ⟨front, hfront, hresolve, hdir⟩ := exists_front_of_childPath top path hname
  rw [Bool.or_eq_true]
  constructor
  · rintro ⟨location, entries, hlocate, hdots | ⟨entry, hmem, rfl⟩⟩
    · exact absurd (List.mem_cons_of_mem "" hdots) hname.2
    · obtain ⟨-, hplace, hat⟩ := FileTree.locate_eq_dir_iff.mp hlocate
      have hchild := FileTree.child?_of_mem (FileTree.everywhere_at? hnamed hat) hmem
      rw [← hresolve] at hplace
      rw [FileTree.locateEntry_of_child? hfront hdir hplace hat hchild]
      exact .inr rfl
  · intro hfound
    obtain ⟨place, entries, child, hplace, hat, hchild⟩ := hfound.elim
      (FileTree.exists_child?_of_leadsSomewhere hfront) (FileTree.exists_child?_of_locateEntry hfront hdir)
    obtain ⟨_, entry, heq, hmem, hentry, -⟩ := FileTree.exists_entry_of_child? hchild
    cases heq
    rw [hresolve] at hplace
    exact ⟨place, entries, FileTree.locate_eq_dir_iff.mpr ⟨hpath, hplace, hat⟩, .inr ⟨entry, hmem, hentry⟩⟩

/-! ## One step of the walk -/

/-- A path is found from `next` on: `next` itself behind the last part, if it is a directory where one is
asked for, or what the other parts find. -/
def Finds (top : FileTree) (dirsOnly : Bool) (depth : Nat) (globs : List Glob) (next q : Path) : Prop :=
  (globs = [] ∧ (dirsOnly = true → top.leadsToDir next = true) ∧ q = next) ∨
    (globs ≠ [] ∧ q ∈ expandBelow top dirsOnly depth globs next)

theorem mem_found_iff :
    (q ∈ if globs.isEmpty then (if dirsOnly && !top.leadsToDir next then [] else [next])
      else expandBelow top dirsOnly depth globs next) ↔ Finds top dirsOnly depth globs next q := by
  cases globs with
  | nil => cases dirsOnly <;> cases hdir : top.leadsToDir next <;> simp [Finds, hdir]
  | cons g gs => simp [Finds]

/-- What is looked up below a path is there; the dots are there in every directory. -/
def isThere (top : FileTree) (path : Path) (text : String) : Bool :=
  if text = "." || text = ".." then top.leadsToDir path
  else top.leadsSomewhere (childPath path text) || (top.locateEntry (childPath path text)).toBool

/-- The walk below a path, with a part that is looked up. -/
theorem mem_expandBelow_of_literal (htext : glob.literal? = some text) :
    q ∈ expandBelow top dirsOnly (depth + 1) (glob :: globs) path ↔
      isThere top path text = true ∧ Finds top dirsOnly depth globs (childPath path text) q := by
  rw [expandBelow, htext]
  show (q ∈ if isThere top path text then _ else []) ↔ _
  split
  case isTrue hthere => rw [mem_found_iff, and_iff_right hthere]
  case isFalse hnone => exact iff_of_false List.not_mem_nil fun h => hnone h.1

/-- The walk below a path, with a part that is compared with the entries, and with the dots if it begins
with one. -/
theorem mem_expandBelow_of_wild (hnone : glob.literal? = none) :
    q ∈ expandBelow top dirsOnly (depth + 1) (glob :: globs) path ↔
      ∃ location entries, top.locate path = .ok (location, .dir entries) ∧
        ((∃ entry ∈ entries, q ∈ expandAt top dirsOnly depth (glob :: globs)
            (childPath path entry.name) entry.name) ∨
          glob.tokens.head? = some (.literal '.') ∧ ∃ name ∈ [".", ".."], glob.isMatch name = true ∧
            Finds top dirsOnly depth globs (path.join name) q) := by
  rw [expandBelow, hnone]
  dsimp only
  split
  case h_2 hno =>
    refine iff_of_false List.not_mem_nil ?_
    rintro ⟨location, entries, hlocate, -⟩
    exact hno location entries hlocate
  case h_1 location entries hlocate =>
    have hdots : (q ∈ if glob.tokens.head? = some (.literal '.') then
          [".", ".."].flatMap fun name => if glob.isMatch name then
            (if globs.isEmpty then
              (if dirsOnly && !top.leadsToDir (path.join name) then [] else [path.join name])
            else expandBelow top dirsOnly depth globs (path.join name)) else []
          else []) ↔
        glob.tokens.head? = some (.literal '.') ∧ ∃ name ∈ [".", ".."], glob.isMatch name = true ∧
          Finds top dirsOnly depth globs (path.join name) q := by
      split
      case isFalse hhead => exact iff_of_false List.not_mem_nil fun h => hhead h.1
      case isTrue hhead =>
        rw [and_iff_right hhead, List.mem_flatMap]
        refine exists_congr fun name => and_congr_right fun _ => ?_
        split
        case isTrue hmatch => rw [mem_found_iff, and_iff_right hmatch]
        case isFalse hmatch => exact iff_of_false List.not_mem_nil fun h => hmatch h.1
    rw [List.mem_append, List.mem_flatMap, hdots]
    constructor
    · exact fun h => ⟨location, entries, hlocate, h⟩
    · rintro ⟨location', entries', hlocate', h⟩
      rw [hlocate] at hlocate'
      cases hlocate'
      exact h

/-- The first part stands for the entry, and the others go on from it. -/
def FindsHere (top : FileTree) (dirsOnly : Bool) (depth : Nat) (path : Path) (name : String) (q : Path) :
    List Glob → Prop
  | [] => False
  | glob :: rest => glob.isMatch name = true ∧ Finds top dirsOnly depth rest path q

/-- The walk at an entry, behind the repeated recursive parts in front. A recursive part stands for the
entry, if that is a directory, or for nothing. -/
theorem mem_expandAt_iff {rest : List Glob} (hcollapse : collapseRecursive globs = glob :: rest) :
    q ∈ expandAt top dirsOnly (depth + 1) globs path name ↔
      if glob.isRecursive then
        (top.leadsToDir path = true ∧
          (q ∈ expandBelow top dirsOnly depth (glob :: rest) path ∨ rest = [] ∧ q = path)) ∨
        FindsHere top dirsOnly depth path name q rest
      else FindsHere top dirsOnly depth path name q (glob :: rest) := by
  have hhere : ∀ (glob : Glob) (rest : List Glob),
      (q ∈ if glob.isMatch name then
          if rest.isEmpty then (if dirsOnly && !top.leadsToDir path then [] else [path])
          else expandBelow top dirsOnly depth rest path
        else []) ↔ FindsHere top dirsOnly depth path name q (glob :: rest) := by
    intro glob rest
    split
    case isTrue hmatch => exact mem_found_iff.trans (and_iff_right hmatch).symm
    case isFalse hmatch => exact iff_of_false List.not_mem_nil fun h => hmatch h.1
  rw [expandAt, hcollapse]
  dsimp only
  by_cases hrecursive : glob.isRecursive = true
  · rw [if_pos hrecursive, if_pos hrecursive]
    cases rest with
    | nil =>
      cases hdir : top.leadsToDir path <;> simp [FindsHere]
    | cons next rest =>
      rw [← hhere]
      cases hdir : top.leadsToDir path <;> simp
  · rw [if_neg hrecursive, if_neg hrecursive]
    exact hhere glob rest

/-! ## Parts that are looked up -/

theorem tokens_eq_of_mapM {tokens : List GlobToken} {chars : List Char}
    (h : tokens.mapM GlobToken.literal? = some chars) : tokens = chars.map .literal := by
  induction tokens generalizing chars with
  | nil =>
    cases h
    rfl
  | cons token tokens ih =>
    obtain ⟨c, hc, cs, hcs, rfl⟩ : ∃ c, token.literal? = some c ∧
        ∃ cs, tokens.mapM GlobToken.literal? = some cs ∧ c :: cs = chars := by
      simpa [List.mapM_cons, Option.bind_eq_some_iff] using h
    cases token <;> cases hc
    rw [ih hcs, List.map_cons]

theorem matchTokens_literals (chars text : List Char) :
    matchTokens (chars.map .literal) text = true ↔ text = chars := by
  induction chars generalizing text with
  | nil => simp [matchTokens]
  | cons c chars ih =>
    cases text with
    | nil => simp [matchTokens]
    | cons d text => simp [matchTokens, GlobToken.accepts, ih]

theorem tokens_of_literal? (h : glob.literal? = some text) : glob.tokens = text.toList.map .literal := by
  obtain ⟨chars, hchars, rfl⟩ := Option.map_eq_some_iff.mp h
  rw [String.toList_ofList]
  exact tokens_eq_of_mapM hchars

/-- A part that is looked up stands for its own text and nothing else. -/
theorem isMatch_of_literal? (h : glob.literal? = some text) : glob.isMatch name = true ↔ name = text := by
  rw [isMatch, tokens_of_literal? h, matchTokens_literals, String.toList_inj]

theorem isRecursive_of_literal? (h : glob.literal? = some text) : glob.isRecursive = false := by
  rw [isRecursive, tokens_of_literal? h]
  simp

theorem isThere_iff (hnamed : top.wellNamed = true) (hpath : path ≠ "") (htext : Path.IsStep text) :
    isThere top path text = true ↔ top.Holds path text := by
  unfold isThere
  split
  case isTrue hdots =>
    have hmem : text ∈ [".", ".."] := by simpa using hdots
    rw [FileTree.leadsToDir_iff]
    exact exists_congr fun location => exists_congr fun entries =>
      ⟨fun h => ⟨h, .inl hmem⟩, And.left⟩
  case isFalse hdots =>
    have hname : Path.IsName text := ⟨htext.1, by simpa [htext.2] using hdots⟩
    exact (holds_iff_lookUp hnamed hpath hname).symm

/-! ## Two stars -/

theorem ne_anyDirectories_of_bracket? {cs : List Char} {token : GlobToken} {taken : Nat}
    (h : bracket? cs = some (token, taken)) : token ≠ .anyDirectories := by
  unfold bracket? at h
  split at h
  case h_3 => cases h
  all_goals
    split at h
    · cases h
      exact fun heq => by cases heq
    · cases h

/-- Two stars are read only at the start of a part. -/
theorem anyDirectories_not_mem {cs : List Char} {position skip : Nat} {c : Char} {tokens : List GlobToken}
    (hc : c ≠ '/') (hslash : '/' ∉ cs) (h : tokensFrom position (some c) skip cs = .ok tokens) :
    .anyDirectories ∉ tokens := by
  -- the character before is never a slash, whichever it is by then
  induction cs generalizing position skip c tokens with
  | nil =>
    rw [tokensFrom] at h
    cases h
    exact List.not_mem_nil
  | cons d cs ih =>
    rw [List.mem_cons, not_or] at hslash
    cases skip with
    | succ skip =>
      rw [tokensFrom] at h
      exact ih (Ne.symm hslash.1) hslash.2 h
    | zero =>
      have hrest : ∀ {token skip}, token ≠ .anyDirectories →
          (tokensFrom (position + 1) (some d) skip cs).map (token :: ·) = .ok tokens →
            .anyDirectories ∉ tokens := by
        intro token skip htoken hmap
        obtain ⟨rest, hread, rfl⟩ := eq_map_of_map_eq_ok hmap
        rw [List.mem_cons, not_or]
        exact ⟨Ne.symm htoken, ih (Ne.symm hslash.1) hslash.2 hread⟩
      rw [tokensFrom] at h
      dsimp only at h
      split at h
      · exact hrest (fun heq => by cases heq) h
      · split at h
        · split at h
          · exact hrest (fun heq => by cases heq) h
          · -- two stars: the character before is no slash
            rw [if_neg (by simpa using hc)] at h
            cases h
          · cases h
        · split at h
          · split at h
            case h_1 token taken hbracket => exact hrest (ne_anyDirectories_of_bracket? hbracket) h
            case h_2 => cases h
          · exact hrest (fun heq => by cases heq) h

/-- What is known of the parts of a pattern: what is looked up can stand between two slashes, and a part
that begins with a dot has no two stars. -/
structure IsPart (glob : Glob) : Prop where
  step : ∀ text, glob.literal? = some text → Path.IsStep text
  single : glob.tokens.head? = some (.literal '.') → glob.isRecursive = false

theorem isPart_of_parse {part : List Char} (hslash : '/' ∉ part) (hne : part ≠ [])
    (h : parse (String.ofList part) = .ok glob) : glob.IsPart where
  step text htext := by
    rw [literal?_of_parse h htext]
    exact Path.isStep_ofList hslash hne
  single hhead := by
    obtain ⟨c, cs, rfl⟩ := List.exists_cons_of_ne_nil hne
    rw [List.mem_cons, not_or] at hslash
    have htokens := exists_tokens_of_parse h
    rw [String.toList_ofList] at htokens
    obtain ⟨token, rest, skip, heq, hrest, -⟩ := tokensFrom_cons htokens
    have hnone := anyDirectories_not_mem (Ne.symm hslash.1) hslash.2 hrest
    rw [← heq] at hhead
    cases hhead
    rw [isRecursive, ← heq]
    simpa using hnone

/-! ## Ways that fit -/

/-- A part stands for a name. For the names made of dots it stands only where it is compared directly with
what a directory holds, and only if it begins with a dot. -/
def Accepts (direct : Bool) (glob : Glob) (name : String) : Prop :=
  glob.isMatch name = true ∧
    (name ∈ [".", ".."] → direct = true ∧ glob.tokens.head? = some (.literal '.'))

/-- The ways that the parts of a pattern stand for. A part of two stars stands for any number of
directories, or, at the end, for one at least; behind it nothing is compared directly. -/
inductive Fits : (direct : Bool) → List Glob → List String → Prop
  | done (direct : Bool) : Fits direct [] []
  | name {direct : Bool} {glob : Glob} {globs : List Glob} {name : String} {way : List String}
      (hsingle : glob.isRecursive = false) (hname : glob.Accepts direct name)
      (hrest : Fits true globs way) : Fits direct (glob :: globs) (name :: way)
  | skip {direct : Bool} {glob : Glob} {globs : List Glob} {way : List String}
      (hstars : glob.isRecursive = true) (hne : globs ≠ []) (hrest : Fits false globs way) :
      Fits direct (glob :: globs) way
  | more {direct : Bool} {glob : Glob} {globs : List Glob} {name : String} {way : List String}
      (hstars : glob.isRecursive = true) (hname : name ∉ [".", ".."])
      (hrest : Fits false (glob :: globs) way) : Fits direct (glob :: globs) (name :: way)
  | last {direct : Bool} {glob : Glob} {name : String} (hstars : glob.isRecursive = true)
      (hname : name ∉ [".", ".."]) : Fits direct [glob] [name]

namespace Fits

theorem mono (h : Fits false globs way) : Fits direct globs way := by
  cases h with
  | done => exact .done direct
  | name hsingle hname hrest =>
    exact .name hsingle ⟨hname.1, fun hdots => absurd (hname.2 hdots).1 Bool.false_ne_true⟩ hrest
  | skip hstars hne hrest => exact .skip hstars hne hrest
  | more hstars hname hrest => exact .more hstars hname hrest
  | last hstars hname => exact .last hstars hname

theorem of_not_dots (h : Fits direct globs (name :: way)) (hname : name ∉ [".", ".."]) :
    Fits false globs (name :: way) := by
  cases h with
  | name hsingle hmatch hrest => exact .name hsingle ⟨hmatch.1, fun hdots => absurd hdots hname⟩ hrest
  | skip hstars hne hrest => exact .skip hstars hne hrest
  | more hstars hname hrest => exact .more hstars hname hrest
  | last hstars hname => exact .last hstars hname

theorem not_dots (h : Fits false globs (name :: way)) : name ∉ [".", ".."] := by
  -- only `skip` goes on, with the same way and again not directly
  generalize hfirst : name :: way = names at h
  generalize hdirect : false = direct at h
  induction h generalizing name way with
  | done => cases hfirst
  | name hsingle hmatch hrest =>
    cases hfirst
    rw [← hdirect] at hmatch
    exact fun hdots => absurd (hmatch.2 hdots).1 Bool.false_ne_true
  | skip hstars hne hrest ih => exact ih hfirst rfl
  | more hstars hname hrest =>
    cases hfirst
    exact hname
  | last hstars hname =>
    cases hfirst
    exact hname

theorem ne_nil (h : Fits direct globs way) (hglobs : globs ≠ []) : way ≠ [] := by
  induction h with
  | done => exact absurd rfl hglobs
  | name => exact List.cons_ne_nil _ _
  | skip hstars hne hrest ih => exact ih hne
  | more => exact List.cons_ne_nil _ _
  | last => exact List.cons_ne_nil _ _

/-- A part that is not recursive takes a name. -/
theorem of_single (hglob : glob.isRecursive = false) (h : Fits direct (glob :: globs) (name :: way)) :
    glob.Accepts direct name ∧ Fits true globs way := by
  cases h with
  | name hsingle hname hrest => exact ⟨hname, hrest⟩
  | skip hstars => rw [hglob] at hstars; cases hstars
  | more hstars => rw [hglob] at hstars; cases hstars
  | last hstars => rw [hglob] at hstars; cases hstars

/-- The names made of dots are taken by a part that is not recursive. -/
theorem of_dots (hname : name ∈ [".", ".."]) (h : Fits direct (glob :: globs) (name :: way)) :
    glob.isRecursive = false ∧ glob.Accepts direct name ∧ Fits true globs way := by
  cases h with
  | name hsingle hmatch hrest => exact ⟨hsingle, hmatch, hrest⟩
  | skip hstars hne hrest => exact absurd hname hrest.not_dots
  | more hstars hnot => exact absurd hname hnot
  | last hstars hnot => exact absurd hname hnot

/-- A recursive part in front is not compared at all. -/
theorem of_recursive (hglob : glob.isRecursive = true) (h : Fits direct (glob :: globs) way) :
    Fits false (glob :: globs) way := by
  cases h with
  | name hsingle => rw [hglob] at hsingle; cases hsingle
  | skip hstars hne hrest => exact .skip hstars hne hrest
  | more hstars hname hrest => exact .more hstars hname hrest
  | last hstars hname => exact .last hstars hname

/-- Of two recursive parts in a row one is enough. -/
theorem iff_of_recursive {next : Glob} (hglob : glob.isRecursive = true) (hnext : next.isRecursive = true) :
    Fits false (glob :: next :: globs) way ↔ Fits false (next :: globs) way := by
  refine ⟨fun h => ?_, .skip hglob (List.cons_ne_nil _ _)⟩
  -- what the first stars stand for can be left to the second ones, name by name
  induction way with
  | nil => exact absurd rfl (h.ne_nil (List.cons_ne_nil _ _))
  | cons name way ih =>
    cases h with
    | name hsingle => rw [hglob] at hsingle; cases hsingle
    | skip hstars hne hrest => exact hrest
    | more hstars hname hrest => exact .more hnext hname (ih hrest)

theorem collapse_iff : Fits false (collapseRecursive globs) way ↔ Fits false globs way := by
  fun_induction collapseRecursive globs with
  | case1 glob next rest hboth ih =>
    rw [Bool.and_eq_true] at hboth
    rw [ih, iff_of_recursive hboth.1 hboth.2]
  | case2 => exact Iff.rfl
  | case3 => exact Iff.rfl

end Fits

/-! ## Repeated recursive parts -/

theorem exists_collapseRecursive_eq (hne : globs ≠ []) :
    ∃ glob rest, collapseRecursive globs = glob :: rest ∧
      (glob.isRecursive = true → ∀ next ∈ rest.head?, next.isRecursive = false) ∧
      (glob :: rest).getLast? = globs.getLast? := by
  fun_induction collapseRecursive globs with
  | case1 glob next rest hboth ih =>
    obtain ⟨g, gs, heq, hhead, hlast⟩ := ih (List.cons_ne_nil _ _)
    exact ⟨g, gs, heq, hhead, by rw [hlast, List.getLast?_cons_cons]⟩
  | case2 glob next rest hboth =>
    refine ⟨glob, next :: rest, rfl, fun hglob g hg => ?_, rfl⟩
    cases hg
    simpa [hglob] using hboth
  | case3 globs hshort =>
    cases globs with
    | nil => exact absurd rfl hne
    | cons glob rest =>
      cases rest with
      | nil => exact ⟨glob, [], rfl, fun _ _ hg => absurd hg (Option.not_mem_none _), rfl⟩
      | cons next rest => exact absurd rfl (hshort glob next rest)

/-- A directory is asked for: by a slash at the end of the pattern, or by a recursive part there. -/
def asksDir (dirsOnly : Bool) (globs : List Glob) : Bool := dirsOnly || globs.getLast?.any isRecursive

theorem asksDir_cons (h : globs ≠ [] ∨ glob.isRecursive = false) :
    asksDir dirsOnly (glob :: globs) = asksDir dirsOnly globs := by
  cases globs with
  | nil =>
    have hsingle := h.resolve_left (fun hne => hne rfl)
    simp [asksDir, hsingle]
  | cons next globs => rw [asksDir, asksDir, List.getLast?_cons_cons]

/-! ## The walk and the ways -/

/-- The way can be gone from a path and comes to `q`, a directory if one is asked for. -/
structure ComesTo (top : FileTree) (dirsOnly : Bool) (globs : List Glob) (path : Path)
    (way : List String) (q : Path) : Prop where
  goes : top.Goes path way
  steps : q.steps = (path.descend way).steps
  dir : asksDir dirsOnly globs = true → top.leadsToDir q = true

/-- A way can be gone from any spelling of the path. -/
theorem ComesTo.congr {path' : Path} (hnamed : top.wellNamed = true) (hpath : path ≠ "")
    (hpath' : path' ≠ "") (hsteps : path.steps = path'.steps) (h : ComesTo top dirsOnly globs path way q) :
    ComesTo top dirsOnly globs path' way q := by
  have hway := h.goes.isStep hnamed
  refine ⟨h.goes.congr hnamed hpath hpath' hsteps, ?_, h.dir⟩
  rw [h.steps, Path.steps_descend hpath hway, Path.steps_descend hpath' hway, hsteps]

/-- A way from an entry of the directory at `path` is a way from there. -/
theorem ComesTo.cons {gs : List Glob} (hnamed : top.wellNamed = true) (hpath : path ≠ "")
    (hholds : top.Holds path name) (hnext : next ≠ "")
    (hsteps : next.steps = path.steps ++ (Path.step? name).toList)
    (hdir : asksDir dirsOnly globs = asksDir dirsOnly gs) (h : ComesTo top dirsOnly gs next way q) :
    ComesTo top dirsOnly globs path (name :: way) q := by
  have hname := hholds.isStep hnamed
  have hjoin := Path.join_ne_empty hpath hname.isAbsolute
  have hsame : next.steps = (path.join name).steps := by rw [hsteps, Path.steps_join hpath hname]
  have hway := h.goes.isStep hnamed
  refine ⟨⟨hholds, h.goes.congr hnamed hnext hjoin hsame⟩, ?_, fun hasks => h.dir (by rwa [← hdir])⟩
  rw [h.steps, Path.descend_cons, Path.steps_descend hnext hway, Path.steps_descend hjoin hway, hsame]

theorem head?_of_dots : ∀ name ∈ [".", ".."],
    (name.toList.map GlobToken.literal).head? = some (.literal '.') := by decide

/-- Every path that is found below a path is what a way from there comes to. -/
def WaysBelow (top : FileTree) (dirsOnly : Bool) (depth : Nat) : Prop :=
  ∀ globs path q, (∀ g ∈ globs, g.IsPart) → globs ≠ [] → path ≠ "" →
    q ∈ expandBelow top dirsOnly depth globs path →
      ∃ way, Fits true globs way ∧ ComesTo top dirsOnly globs path way q

/-- Every path that is found at an entry is what a way from there comes to. -/
def WaysAt (top : FileTree) (dirsOnly : Bool) (depth : Nat) : Prop :=
  ∀ globs path name q, (∀ g ∈ globs, g.IsPart) → globs ≠ [] → path ≠ "" → name ∉ [".", ".."] →
    q ∈ expandAt top dirsOnly depth globs path name →
      ∃ way, Fits false globs (name :: way) ∧ ComesTo top dirsOnly globs path way q

theorem WaysBelow.of_finds (h : WaysBelow top dirsOnly depth) (hparts : ∀ g ∈ globs, g.IsPart)
    (hnext : next ≠ "") (hfound : Finds top dirsOnly depth globs next q) :
    ∃ way, Fits true globs way ∧ ComesTo top dirsOnly globs next way q := by
  rcases hfound with ⟨rfl, hdir, rfl⟩ | ⟨hne, hq⟩
  · refine ⟨[], .done true, trivial, rfl, fun hasks => hdir ?_⟩
    simpa [asksDir] using hasks
  · exact h globs next q hparts hne hnext hq

/-- One step of the walk below a path. -/
theorem WaysBelow.succ (hnamed : top.wellNamed = true) (hbelow : WaysBelow top dirsOnly depth)
    (hat : WaysAt top dirsOnly depth) : WaysBelow top dirsOnly (depth + 1) := by
  intro globs path q hparts hne hpath hq
  obtain ⟨glob, globs, rfl⟩ := List.exists_cons_of_ne_nil hne
  obtain ⟨hglob, hglobs⟩ := List.forall_mem_cons.mp hparts
  cases hliteral : glob.literal? with
  | some text =>
    have htext := hglob.step text hliteral
    have hchild := childPath_ne_empty hpath htext
    obtain ⟨hthere, hfound⟩ := (mem_expandBelow_of_literal hliteral).mp hq
    obtain ⟨way, hfits, hcomes⟩ := hbelow.of_finds hglobs hchild hfound
    have hsingle := isRecursive_of_literal? hliteral
    have haccepts : glob.Accepts true text := by
      refine ⟨(isMatch_of_literal? hliteral).mpr rfl, fun hdots => ⟨rfl, ?_⟩⟩
      rw [tokens_of_literal? hliteral]
      exact head?_of_dots text hdots
    exact ⟨text :: way, .name hsingle haccepts hfits,
      hcomes.cons hnamed hpath ((isThere_iff hnamed hpath htext).mp hthere) hchild
        (steps_childPath hpath htext) (asksDir_cons (.inr hsingle))⟩
  | none =>
    obtain ⟨location, entries, hlocate, hfound⟩ := (mem_expandBelow_of_wild hliteral).mp hq
    rcases hfound with ⟨entry, hentry, hfound⟩ | ⟨hdot, name, hname, hmatch, hfound⟩
    · have hname : Path.IsName entry.name := FileTree.isName_of_mem
        (FileTree.everywhere_at? hnamed (FileTree.at?_of_locate hlocate)) hentry
      have hdots : entry.name ∉ [".", ".."] := fun h => hname.2 (List.mem_cons_of_mem _ h)
      have hchild := childPath_ne_empty hpath hname.isStep
      obtain ⟨way, hfits, hcomes⟩ := hat _ _ _ q hparts hne hchild hdots hfound
      exact ⟨entry.name :: way, hfits.mono,
        hcomes.cons hnamed hpath ⟨location, entries, hlocate, .inr ⟨entry, hentry, rfl⟩⟩ hchild
          (steps_childPath hpath hname.isStep) rfl⟩
    · have hstep := Path.isStep_of_dots hname
      have hnext := Path.join_ne_empty hpath hstep.isAbsolute
      have hsingle := hglob.single hdot
      obtain ⟨way, hfits, hcomes⟩ := hbelow.of_finds hglobs hnext hfound
      exact ⟨name :: way, .name hsingle ⟨hmatch, fun _ => ⟨rfl, hdot⟩⟩ hfits,
        hcomes.cons hnamed hpath ⟨location, entries, hlocate, .inl hname⟩ hnext
          (Path.steps_join hpath hstep) (asksDir_cons (.inr hsingle))⟩

/-- A part that is not recursive stands for an entry, and the others go on from there. -/
theorem WaysBelow.of_findsHere (h : WaysBelow top dirsOnly depth) (hglob : glob.isRecursive = false)
    (hparts : ∀ g ∈ globs, g.IsPart) (hpath : path ≠ "") (hname : name ∉ [".", ".."])
    (hfound : FindsHere top dirsOnly depth path name q (glob :: globs)) :
    ∃ way, Fits false (glob :: globs) (name :: way) ∧ ComesTo top dirsOnly (glob :: globs) path way q := by
  obtain ⟨hmatch, hfound⟩ := hfound
  obtain ⟨way, hfits, hgoes, hsteps, hdir⟩ := h.of_finds hparts hpath hfound
  refine ⟨way, .name hglob ⟨hmatch, fun hdots => absurd hdots hname⟩ hfits, hgoes, hsteps, ?_⟩
  rwa [asksDir_cons (.inr hglob)]

/-- One step of the walk at an entry. -/
theorem WaysBelow.at_succ (hbelow : WaysBelow top dirsOnly depth) : WaysAt top dirsOnly (depth + 1) := by
  intro globs path name q hparts hne hpath hname hq
  obtain ⟨glob, rest, hcollapse, hsingle, hlast⟩ := exists_collapseRecursive_eq hne
  have hasks : asksDir dirsOnly (glob :: rest) = asksDir dirsOnly globs := by
    rw [asksDir, asksDir, hlast]
  have hcollapsed : ∀ g ∈ glob :: rest, g.IsPart := fun g hg =>
    hparts g (mem_of_mem_collapseRecursive (by rwa [hcollapse]))
  suffices h : ∃ way, Fits false (glob :: rest) (name :: way) ∧
      ComesTo top dirsOnly (glob :: rest) path way q by
    obtain ⟨way, hfits, hgoes, hsteps, hdir⟩ := h
    rw [← hcollapse, Fits.collapse_iff] at hfits
    exact ⟨way, hfits, hgoes, hsteps, fun h => hdir (by rwa [hasks])⟩
  obtain ⟨-, hrest⟩ := List.forall_mem_cons.mp hcollapsed
  have hfound := (mem_expandAt_iff hcollapse).mp hq
  split at hfound
  case isFalse hnot => exact hbelow.of_findsHere (Bool.eq_false_iff.mpr hnot) hrest hpath hname hfound
  case isTrue hstars =>
    rcases hfound with ⟨hdir, hmem | ⟨rfl, rfl⟩⟩ | hfound
    · -- the directory is one of those that the stars stand for
      obtain ⟨way, hfits, hcomes⟩ := hbelow _ path q hcollapsed (List.cons_ne_nil _ _) hpath hmem
      exact ⟨way, .more hstars hname (hfits.of_recursive hstars), hcomes⟩
    · exact ⟨[], .last hstars hname, trivial, rfl, fun _ => hdir⟩
    · cases rest with
      | nil => exact absurd hfound id
      | cons g gs =>
        obtain ⟨way, hfits, hgoes, hsteps, hdir⟩ := hbelow.of_findsHere (hsingle hstars g rfl)
          (List.forall_mem_cons.mp hrest).2 hpath hname hfound
        refine ⟨way, .skip hstars (List.cons_ne_nil _ _) hfits, hgoes, hsteps, ?_⟩
        rwa [asksDir_cons (.inl (List.cons_ne_nil _ _))]

/-- Every path that is found is that of a way that fits. -/
theorem waysBelow (hnamed : top.wellNamed = true) (dirsOnly : Bool) (depth : Nat) :
    WaysBelow top dirsOnly depth := by
  -- the two walks call each other, so the induction carries both
  suffices h : WaysBelow top dirsOnly depth ∧ WaysAt top dirsOnly depth from h.1
  induction depth with
  | zero =>
    constructor
    · intro globs path q _ _ _ hq
      rw [expandBelow] at hq
      cases hq
    · intro globs path name q _ _ _ _ hq
      rw [expandAt] at hq
      cases hq
  | succ depth ih => exact ⟨ih.1.succ hnamed ih.2, ih.1.at_succ⟩

theorem ComesTo.tail {gs : List Glob} (hnamed : top.wellNamed = true) (hpath : path ≠ "")
    (hnext : next ≠ "") (hsteps : next.steps = path.steps ++ (Path.step? name).toList)
    (hdir : asksDir dirsOnly globs = asksDir dirsOnly gs)
    (h : ComesTo top dirsOnly globs path (name :: way) q) : ComesTo top dirsOnly gs next way q := by
  obtain ⟨hholds, hgoes⟩ := h.goes
  have hname := hholds.isStep hnamed
  have hjoin := Path.join_ne_empty hpath hname.isAbsolute
  have hsame : (path.join name).steps = next.steps := by rw [hsteps, Path.steps_join hpath hname]
  have hway := hgoes.isStep hnamed
  refine ⟨hgoes.congr hnamed hjoin hnext hsame, ?_, fun hasks => h.dir (by rwa [hdir])⟩
  rw [h.steps, Path.descend_cons, Path.steps_descend hnext hway, Path.steps_descend hjoin hway, hsame]

/-- Where a way is at its end, the path it was gone from is what it comes to. -/
theorem ComesTo.leadsToDir_of_nil (hpath : path ≠ "") (h : ComesTo top dirsOnly globs path [] q)
    (hasks : asksDir dirsOnly globs = true) : top.leadsToDir path = true := by
  have hq := h.dir hasks
  rwa [FileTree.leadsToDir_eq_of_steps_eq (FileTree.ne_empty_of_leadsToDir hq) hpath h.steps] at hq

/-- What a way that fits comes to is found, whatever the parts are and wherever it is gone from. -/
def FindsWay (top : FileTree) (dirsOnly : Bool) (way : List String) (q : Path) : Prop :=
  ∀ globs path depth, (∀ g ∈ globs, g.IsPart) → globs ≠ [] → path ≠ "" → Fits true globs way →
    ComesTo top dirsOnly globs path way q → 2 * way.length ≤ depth →
      ∃ q' ∈ expandBelow top dirsOnly depth globs path, q'.steps = q.steps

/-- Behind a name the rest of the way is found, or it is at its end. -/
theorem FindsWay.exists_finds (h : FindsWay top dirsOnly way q) (depth : Nat)
    (hparts : ∀ g ∈ globs, g.IsPart) (hpath : path ≠ "") (hfits : Fits true globs way)
    (hcomes : ComesTo top dirsOnly globs path way q) (hdepth : 2 * way.length ≤ depth) :
    ∃ q', Finds top dirsOnly depth globs path q' ∧ q'.steps = q.steps := by
  cases globs with
  | nil =>
    cases hfits
    refine ⟨path, .inl ⟨rfl, fun hdirs => hcomes.leadsToDir_of_nil hpath ?_, rfl⟩, hcomes.steps.symm⟩
    simp [asksDir, hdirs]
  | cons g gs =>
    obtain ⟨q', hmem, hsteps⟩ := h _ _ _ hparts (List.cons_ne_nil _ _) hpath hfits hcomes hdepth
    exact ⟨q', .inr ⟨List.cons_ne_nil _ _, hmem⟩, hsteps⟩

/-- The walk at an entry finds the ways on from it. -/
theorem FindsWay.exists_mem_expandAt (h : FindsWay top dirsOnly way q) (depth : Nat)
    (hparts : ∀ g ∈ globs, g.IsPart) (hne : globs ≠ []) (hpath : path ≠ "") (hfits : Fits false globs (name :: way))
    (hcomes : ComesTo top dirsOnly globs path way q) (hdepth : 2 * way.length < depth) :
    ∃ q' ∈ expandAt top dirsOnly depth globs path name, q'.steps = q.steps := by
  obtain ⟨depth, rfl⟩ : ∃ d, depth = d + 1 := ⟨depth - 1, by omega⟩
  obtain ⟨glob, rest, hcollapse, hsingle, hlast⟩ := exists_collapseRecursive_eq hne
  have hasks : asksDir dirsOnly globs = asksDir dirsOnly (glob :: rest) := by rw [asksDir, asksDir, hlast]
  have hcollapsed : ∀ g ∈ glob :: rest, g.IsPart := fun g hg =>
    hparts g (mem_of_mem_collapseRecursive (by rwa [hcollapse]))
  rw [← Fits.collapse_iff, hcollapse] at hfits
  have hcomes' : ComesTo top dirsOnly (glob :: rest) path way q :=
    ⟨hcomes.goes, hcomes.steps, fun h => hcomes.dir (by rwa [hasks])⟩
  have hhere : ∀ g gs, g.isRecursive = false → (∀ g ∈ gs, g.IsPart) → Fits false (g :: gs) (name :: way) →
      ComesTo top dirsOnly (g :: gs) path way q →
        ∃ q', FindsHere top dirsOnly depth path name q' (g :: gs) ∧ q'.steps = q.steps := by
    intro g gs hg hgs hfits hcomes
    obtain ⟨haccepts, hrest⟩ := hfits.of_single hg
    have hcomes' : ComesTo top dirsOnly gs path way q :=
      ⟨hcomes.goes, hcomes.steps, fun h => hcomes.dir (by rwa [asksDir_cons (.inr hg)])⟩
    obtain ⟨q', hfound, hq⟩ := h.exists_finds depth hgs hpath hrest hcomes' (by omega)
    exact ⟨q', ⟨haccepts.1, hfound⟩, hq⟩
  have hrest : ∀ g ∈ rest, g.IsPart := fun g hg => hcollapsed g (List.mem_cons_of_mem _ hg)
  by_cases hstars : glob.isRecursive = true
  · -- the stars stand for nothing here, for the entry and more, or for the entry alone
    cases hfits with
    | name hnot => rw [hstars] at hnot; cases hnot
    | skip _ hne hfits =>
      obtain ⟨g, gs, rfl⟩ := List.exists_cons_of_ne_nil hne
      have hcomes'' : ComesTo top dirsOnly (g :: gs) path way q :=
        ⟨hcomes'.goes, hcomes'.steps, fun h => hcomes'.dir (by rwa [asksDir_cons (.inl hne)])⟩
      obtain ⟨q', hfound, hq⟩ := hhere g gs (hsingle hstars g rfl)
        (fun g' hg => hrest g' (List.mem_cons_of_mem _ hg)) hfits hcomes''
      exact ⟨q', (mem_expandAt_iff hcollapse).mpr (by rw [if_pos hstars]; exact .inr hfound), hq⟩
    | more _ _ hfits =>
      obtain ⟨first, way', rfl⟩ := List.exists_cons_of_ne_nil (hfits.ne_nil (List.cons_ne_nil _ _))
      obtain ⟨q', hmem, hq⟩ := h _ _ depth hcollapsed (List.cons_ne_nil _ _) hpath hfits.mono hcomes'
        (by omega)
      refine ⟨q', (mem_expandAt_iff hcollapse).mpr ?_, hq⟩
      rw [if_pos hstars]
      exact .inl ⟨hcomes.goes.1.leadsToDir, .inl hmem⟩
    | last =>
      refine ⟨path, (mem_expandAt_iff hcollapse).mpr ?_, hcomes.steps.symm⟩
      rw [if_pos hstars]
      refine .inl ⟨hcomes'.leadsToDir_of_nil hpath ?_, .inr ⟨rfl, rfl⟩⟩
      simp [asksDir, hstars]
  · obtain ⟨q', hfound, hq⟩ := hhere glob rest (Bool.eq_false_iff.mpr hstars) hrest hfits hcomes'
    exact ⟨q', (mem_expandAt_iff hcollapse).mpr (by rwa [if_neg hstars]), hq⟩

/-- The path of every way that fits is found, as deep as the walk goes. -/
theorem findsWay (hnamed : top.wellNamed = true) (dirsOnly : Bool) (way : List String) (q : Path) :
    FindsWay top dirsOnly way q := by
  -- each name takes at most two steps of the walk: one below the directory and one at the entry
  induction way with
  | nil => exact fun globs path depth _ hne _ hfits => absurd rfl (hfits.ne_nil hne)
  | cons name way ih =>
    intro globs path depth hparts hne hpath hfits hcomes hdepth
    rw [List.length_cons] at hdepth
    obtain ⟨depth, rfl⟩ : ∃ d, depth = d + 1 := ⟨depth - 1, by omega⟩
    have hholds := hcomes.goes.1
    have hstep := hholds.isStep hnamed
    have hchild := childPath_ne_empty hpath hstep
    obtain ⟨glob, globs, rfl⟩ := List.exists_cons_of_ne_nil hne
    obtain ⟨hglob, hglobs⟩ := List.forall_mem_cons.mp hparts
    cases hliteral : glob.literal? with
    | some text =>
      have hsingle := isRecursive_of_literal? hliteral
      obtain ⟨haccepts, hrest⟩ := hfits.of_single hsingle
      obtain rfl := (isMatch_of_literal? hliteral).mp haccepts.1
      have htail := hcomes.tail hnamed hpath hchild (steps_childPath hpath hstep)
        (asksDir_cons (.inr hsingle))
      obtain ⟨q', hfound, hq⟩ := ih.exists_finds depth hglobs hchild hrest htail (by omega)
      exact ⟨q', (mem_expandBelow_of_literal hliteral).mpr
        ⟨(isThere_iff hnamed hpath hstep).mpr hholds, hfound⟩, hq⟩
    | none =>
      obtain ⟨location, entries, hlocate, hname⟩ := hholds
      by_cases hdots : name ∈ [".", ".."]
      · -- only a part that begins with a dot stands for the dots
        obtain ⟨hsingle, haccepts, hrest⟩ := hfits.of_dots hdots
        have hjoin := Path.join_ne_empty hpath hstep.isAbsolute
        have htail := hcomes.tail hnamed hpath hjoin (Path.steps_join hpath hstep)
          (asksDir_cons (.inr hsingle))
        obtain ⟨q', hfound, hq⟩ := ih.exists_finds depth hglobs hjoin hrest htail (by omega)
        exact ⟨q', (mem_expandBelow_of_wild hliteral).mpr ⟨location, entries, hlocate,
          .inr ⟨(haccepts.2 hdots).2, name, hdots, haccepts.1, hfound⟩⟩, hq⟩
      · obtain ⟨entry, hentry, rfl⟩ := hname.resolve_left hdots
        have htail := hcomes.tail hnamed hpath hchild (steps_childPath hpath hstep) rfl
        obtain ⟨q', hfound, hq⟩ := ih.exists_mem_expandAt depth hparts hne hchild
          (hfits.of_not_dots hdots) htail (by omega)
        exact ⟨q', (mem_expandBelow_of_wild hliteral).mpr ⟨location, entries, hlocate,
          .inl ⟨entry, hentry, hfound⟩⟩, hq⟩

end MapLint.Glob
