import MapLint.Project.Glob
import MapLint.Proofs.Locations
import Mathlib.Data.List.Forall2

/-!
# The paths that a pattern stands for

A pattern is expanded from the top of the project downwards, one part at a time. How the paths come out
is told here by what every step keeps: a path is gone on by the name of an entry, by the text of a part
without wildcards, or, where a part with wildcards begins with a dot, by one or two dots. Whatever all
of these keep, every path that the pattern stands for has.

## Architecture

- `tokensFrom_cons` is one step of reading a pattern, and `literal?_of_parse` and its companions say
  which parts are looked up and which begin with a dot;
- `Keeps` is what a part has to keep, `keeps_of_mem_expandBelow` the induction on the depth;
- `keeps_of_mem_start` is the first step, at the top, where a dot in front gets lost;
- `exists_globs_of_expand` ties a pattern to its parts.
-/

namespace MapLint.Glob

/-! ## Reading a part -/

/-- The characters that do not stand for themselves. -/
def wildcards : List Char := ['*', '?', '[']

/-- There are no wildcards in the part of a pattern. -/
def isPlain (part : List Char) : Bool := part.all (· ∉ wildcards)

/-- A part that may stand for a dot: it is one, or it begins with one and has wildcards. -/
def mayBeDots (part : List Char) : Bool :=
  part = ['.'] || (part.head? = some '.' && !isPlain part)

theorem literal?_of_bracket? {cs : List Char} {token : GlobToken} {taken : Nat}
    (h : bracket? cs = some (token, taken)) : token.literal? = none := by
  unfold bracket? at h
  split at h
  case h_3 => cases h
  all_goals
    split at h
    · cases h
      rfl
    · cases h

theorem eq_map_of_map_eq_ok {ε α β : Type} {x : Except ε α} {f : α → β} {b : β}
    (h : x.map f = .ok b) : ∃ a, x = .ok a ∧ f a = b := by
  cases x with
  | error e => cases h
  | ok a =>
    cases h
    exact ⟨a, rfl, rfl⟩

/-- A character stands for itself, or it begins a token that does not. -/
def BeginsToken (c : Char) (token : GlobToken) (skip : Nat) : Prop :=
  (c ∉ wildcards ∧ token = .literal c ∧ skip = 0) ∨ (c ∈ wildcards ∧ token.literal? = none)

theorem tokensFrom_cons {position : Nat} {previous : Option Char} {c : Char} {cs : List Char}
    {tokens : List GlobToken} (h : tokensFrom position previous 0 (c :: cs) = .ok tokens) :
    ∃ token rest skip, token :: rest = tokens ∧
      tokensFrom (position + 1) (some c) skip cs = .ok rest ∧ BeginsToken c token skip := by
  have hstep : ∃ token skip,
      (tokensFrom (position + 1) (some c) skip cs).map (token :: ·) = .ok tokens ∧
        BeginsToken c token skip := by
    rw [tokensFrom] at h
    dsimp only at h
    split at h
    case isTrue hc => exact ⟨_, _, h, .inr ⟨by simp [wildcards, eq_of_beq hc], rfl⟩⟩
    case isFalse hquestion =>
      split at h
      case isTrue hc =>
        have hstar : c ∈ wildcards := by simp [wildcards, eq_of_beq hc]
        split at h
        · exact ⟨_, _, h, .inr ⟨hstar, rfl⟩⟩
        · split at h
          · split at h
            · exact ⟨_, _, h, .inr ⟨hstar, rfl⟩⟩
            · exact ⟨_, _, h, .inr ⟨hstar, rfl⟩⟩
            · cases h
          · cases h
        · cases h
      case isFalse hstar =>
        split at h
        case isTrue hc =>
          split at h
          case h_1 token taken hbracket =>
            exact ⟨_, _, h, .inr ⟨by simp [wildcards, eq_of_beq hc], literal?_of_bracket? hbracket⟩⟩
          case h_2 => cases h
        case isFalse hbracket =>
          simp only [beq_iff_eq] at hquestion hstar hbracket
          exact ⟨_, _, h, .inl ⟨by simp [wildcards, hquestion, hstar, hbracket], rfl, rfl⟩⟩
  obtain ⟨token, skip, hmap, htoken⟩ := hstep
  obtain ⟨rest, hrest, htokens⟩ := eq_map_of_map_eq_ok hmap
  exact ⟨token, rest, skip, htokens, hrest, htoken⟩

theorem exists_tokens_of_parse {text : String} {glob : Glob} (h : parse text = .ok glob) :
    tokensFrom 0 none 0 text.toList = .ok glob.tokens := by
  obtain ⟨tokens, htokens, rfl⟩ := eq_map_of_map_eq_ok h
  exact htokens

theorem literals_of_tokensFrom {position : Nat} {previous : Option Char} {cs : List Char}
    {tokens : List GlobToken} (h : tokensFrom position previous 0 cs = .ok tokens) :
    (∀ text, tokens.mapM GlobToken.literal? = some text → text = cs) ∧
      ((∀ c ∈ cs, c ∉ wildcards) → ∃ text, tokens.mapM GlobToken.literal? = some text) := by
  induction cs generalizing position previous tokens with
  | nil =>
    rw [tokensFrom] at h
    cases h
    exact ⟨fun text htext => by cases htext; rfl, fun _ => ⟨[], rfl⟩⟩
  | cons c cs ih =>
    obtain ⟨token, rest, skip, rfl, hrest, ⟨-, rfl, rfl⟩ | ⟨hc, htoken⟩⟩ := tokensFrom_cons h
    · obtain ⟨hread, hall⟩ := ih hrest
      constructor
      · intro text htext
        cases hmap : rest.mapM GlobToken.literal? with
        | none => simp [GlobToken.literal?, hmap] at htext
        | some more =>
          rw [hread more hmap] at hmap
          simpa [GlobToken.literal?, hmap, eq_comm] using htext
      · intro hplain
        obtain ⟨more, hmore⟩ := hall fun d hd => hplain d (List.mem_cons_of_mem _ hd)
        exact ⟨c :: more, by simp [GlobToken.literal?, hmore]⟩
    · constructor
      · intro text htext
        simp [htoken] at htext
      · intro hplain
        exact absurd hc (hplain c List.mem_cons_self)

/-- A part that is looked up is looked up as it is written. -/
theorem literal?_of_parse {part : List Char} {glob : Glob} {text : String}
    (h : parse (String.ofList part) = .ok glob) (htext : glob.literal? = some text) :
    text = String.ofList part := by
  have htokens := exists_tokens_of_parse h
  rw [String.toList_ofList] at htokens
  obtain ⟨chars, hchars, rfl⟩ := Option.map_eq_some_iff.mp htext
  rw [(literals_of_tokensFrom htokens).1 chars hchars]

/-- A part without wildcards is looked up. -/
theorem exists_literal?_of_parse {part : List Char} {glob : Glob}
    (h : parse (String.ofList part) = .ok glob) (hplain : isPlain part = true) :
    ∃ text, glob.literal? = some text := by
  have htokens := exists_tokens_of_parse h
  rw [String.toList_ofList] at htokens
  obtain ⟨chars, hchars⟩ := (literals_of_tokensFrom htokens).2 (by simpa [isPlain] using hplain)
  exact ⟨_, Option.map_eq_some_iff.mpr ⟨chars, hchars, rfl⟩⟩

theorem head?_of_parse {part : List Char} {glob : Glob} {c : Char}
    (h : parse (String.ofList part) = .ok glob) (hhead : glob.tokens.head? = some (.literal c)) :
    part.head? = some c := by
  have htokens := exists_tokens_of_parse h
  rw [String.toList_ofList] at htokens
  cases part with
  | nil =>
    rw [tokensFrom] at htokens
    rw [← Except.ok.inj htokens] at hhead
    cases hhead
  | cons d part =>
    obtain ⟨token, rest, skip, heq, -, ⟨-, rfl, -⟩ | ⟨-, htoken⟩⟩ := tokensFrom_cons htokens
    · rw [← heq] at hhead
      cases hhead
      rfl
    · rw [← heq] at hhead
      cases hhead
      cases htoken

theorem head?_ne_dot_of_parse {part : List Char} {glob : Glob}
    (h : parse (String.ofList part) = .ok glob) (hdots : mayBeDots part = false)
    (hnone : glob.literal? = none) : glob.tokens.head? ≠ some (.literal '.') := by
  intro hhead
  have hplain : isPlain part = true := by
    unfold mayBeDots at hdots
    rw [head?_of_parse h hhead] at hdots
    simpa using (Bool.or_eq_false_iff.mp hdots).2
  obtain ⟨text, htext⟩ := exists_literal?_of_parse h hplain
  rw [hnone] at htext
  cases htext

/-! ## One step of the expansion -/

theorem mem_of_mem_collapseRecursive {globs : List Glob} {glob : Glob}
    (h : glob ∈ collapseRecursive globs) : glob ∈ globs := by
  fun_induction collapseRecursive globs with
  | case1 g h' rest hboth ih => exact List.mem_cons_of_mem _ (ih h)
  | case2 g h' rest hboth => exact h
  | case3 globs => exact h

variable {top : FileTree} {dirsOnly : Bool} {depth : Nat} {glob : Glob} {globs : List Glob}
  {path q : Path}

/-- A path that is found from `next` on: what the other parts find below it, or `next` itself if there
are none. -/
def FoundFrom (top : FileTree) (dirsOnly : Bool) (depth : Nat) (globs : List Glob) (next q : Path) :
    Prop :=
  (globs = [] ∧ q = next) ∨ q ∈ expandBelow top dirsOnly depth globs next

/-- What the first part of a pattern does below a path: it is looked up, or it is compared with the
entries of the directory and, if it begins with a dot, with the dots. -/
inductive FirstStep (top : FileTree) (dirsOnly : Bool) (depth : Nat) (glob : Glob)
    (globs : List Glob) (path q : Path) : Prop where
  | lookUp (text : String) (htext : glob.literal? = some text) (hne : childPath path text ≠ "")
      (hfound : FoundFrom top dirsOnly depth globs (childPath path text) q)
  | entry {location : List String} {entries : List Entry} (hnone : glob.literal? = none)
      (hdir : top.locate path = .ok (location, .dir entries)) (entry : Entry)
      (hentry : entry ∈ entries)
      (hfound : q ∈ expandAt top dirsOnly depth (glob :: globs) (childPath path entry.name) entry.name)
  | dots (hnone : glob.literal? = none) (hdot : glob.tokens.head? = some (.literal '.'))
      (name : String) (hname : name ∈ [".", ".."])
      (hfound : FoundFrom top dirsOnly depth globs (path.join name) q)

theorem childPath_of_top (name : String) : childPath "." name = name := if_pos (by decide)

theorem childPath_of_undotted (h : path.Undotted) (name : String) :
    childPath path name = path.join name := by
  refine if_neg fun hhere => h.2 ?_
  rw [Path.Dotted, hhere]
  rfl

theorem childPath_dots_ne_empty {name : String} (h : name ∈ [".", ".."]) :
    childPath path name ≠ "" := by
  have hname : ∀ name ∈ [".", ".."], name ≠ "" ∧ Path.isAbsolute name = false ∧
      Path.parts name ≠ [] := by decide
  obtain ⟨hne, hrelative, hparts⟩ := hname name h
  unfold childPath
  split
  · exact hne
  · intro hempty
    have hjoin : (path.join name).parts = path.parts ++ Path.parts name := Path.parts_join hrelative
    rw [hempty, Path.parts_empty] at hjoin
    exact hparts (List.append_eq_nil_iff.mp hjoin.symm).2

/-- Nothing stands under the empty path. -/
theorem ne_empty_of_there
    (h : top.leadsSomewhere path = true ∨ (top.locateEntry path).toBool = true) : path ≠ "" := by
  rintro rfl
  rcases h with h | h <;> cases h

theorem firstStep_of_mem_expandBelow
    (h : q ∈ expandBelow top dirsOnly (depth + 1) (glob :: globs) path) :
    FirstStep top dirsOnly depth glob globs path q := by
  have hfound : ∀ {next : Path}, q ∈ (if globs.isEmpty then
      (if dirsOnly && !top.leadsToDir next then [] else [next])
      else expandBelow top dirsOnly depth globs next) →
      FoundFrom top dirsOnly depth globs next q := by
    intro next hq
    split at hq
    case isTrue hnil =>
      split at hq
      · cases hq
      · exact .inl ⟨List.isEmpty_iff.mp hnil, List.mem_singleton.mp hq⟩
    case isFalse => exact .inr hq
  rw [expandBelow] at h
  dsimp only at h
  split at h
  case h_1 text htext =>
    split at h
    case isTrue hdots =>
      split at h
      case isFalse => cases h
      case isTrue => exact .lookUp text htext (childPath_dots_ne_empty (by simpa using hdots)) (hfound h)
    case isFalse hdots =>
      split at h
      case isFalse => cases h
      case isTrue hthere =>
        exact .lookUp text htext (ne_empty_of_there (by simpa using hthere)) (hfound h)
  case h_2 hnone =>
    split at h
    case h_2 => cases h
    case h_1 location entries hlocate =>
      rcases List.mem_append.mp h with h | h
      · obtain ⟨entry, hentry, hq⟩ := List.mem_flatMap.mp h
        exact .entry hnone hlocate entry hentry hq
      · split at h
        case isFalse => cases h
        case isTrue hdot =>
          obtain ⟨name, hname, hq⟩ := List.mem_flatMap.mp h
          split at hq
          case isFalse => cases hq
          case isTrue => exact .dots hnone hdot name hname (hfound hq)

/-- At an entry, the entry itself is found, or what some of the parts find below it. -/
theorem exists_of_mem_expandAt {name : String}
    (h : q ∈ expandAt top dirsOnly (depth + 1) globs path name) :
    q = path ∨ ∃ gs, (∀ g ∈ gs, g ∈ globs) ∧ q ∈ expandBelow top dirsOnly depth gs path := by
  have hhere : ∀ (glob : Glob) (rest : List Glob), (∀ g ∈ glob :: rest, g ∈ globs) →
      q ∈ (if glob.isMatch name then
          if rest.isEmpty then (if dirsOnly && !top.leadsToDir path then [] else [path])
          else expandBelow top dirsOnly depth rest path
        else []) →
      q = path ∨ ∃ gs, (∀ g ∈ gs, g ∈ globs) ∧ q ∈ expandBelow top dirsOnly depth gs path := by
    intro glob rest hgs hq
    split at hq
    case isFalse => cases hq
    case isTrue =>
      split at hq
      · split at hq
        · cases hq
        · exact .inl (List.mem_singleton.mp hq)
      · exact .inr ⟨rest, fun g hg => hgs g (List.mem_cons_of_mem _ hg), hq⟩
  have hsubset : ∀ g ∈ collapseRecursive globs, g ∈ globs := fun g =>
    mem_of_mem_collapseRecursive
  rw [expandAt] at h
  dsimp only at h
  split at h
  case h_1 => cases h
  case h_2 glob rest heq =>
    rw [heq] at hsubset
    have hrest : ∀ g ∈ rest, g ∈ globs := fun g hg => hsubset g (List.mem_cons_of_mem _ hg)
    split at h
    case isFalse => exact hhere glob rest hsubset h
    case isTrue =>
      split at h
      case isFalse =>
        cases rest with
        | nil => cases h
        | cons next rest => exact hhere next rest hrest h
      case isTrue =>
        rcases List.mem_append.mp h with h | h
        · exact .inr ⟨glob :: rest, hsubset, h⟩
        · split at h
          · exact .inl (List.mem_singleton.mp h)
          · cases rest with
            | nil => cases h
            | cons next rest => exact hhere next rest hrest h

/-! ## What every step keeps -/

/-- What is kept by a part that is looked up, and by one that begins with a dot and so may stand for
the dots. -/
structure Keeps (R : Path → Prop) (glob : Glob) : Prop where
  literal : ∀ text, glob.literal? = some text → ∀ path, R path → R (childPath path text)
  dots : glob.literal? = none → glob.tokens.head? = some (.literal '.') →
    ∀ path, R path → ∀ name ∈ [".", ".."], R (path.join name)

variable {R : Path → Prop}

section Kept

variable (hnamed : top.wellNamed = true)
  (hentry : ∀ path name, R path → Path.IsName name → R (childPath path name))

include hnamed hentry

/-- Below a path that has what every step keeps, all paths that are found have it. -/
theorem keeps_of_mem_expandBelow (dirsOnly : Bool) (depth : Nat) :
    (∀ globs path, (∀ g ∈ globs, Keeps R g) → R path →
      ∀ q ∈ expandBelow top dirsOnly depth globs path, R q) ∧
    (∀ globs path name, (∀ g ∈ globs, Keeps R g) → R path →
      ∀ q ∈ expandAt top dirsOnly depth globs path name, R q) := by
  induction depth with
  | zero =>
    constructor
    · intro globs path _ _ q hq
      rw [expandBelow] at hq
      cases hq
    · intro globs path name _ _ q hq
      rw [expandAt] at hq
      cases hq
  | succ depth ih =>
    obtain ⟨ihBelow, ihAt⟩ := ih
    constructor
    · intro globs path hglobs hpath q hq
      cases globs with
      | nil =>
        rw [expandBelow] at hq
        cases hq
      | cons glob globs =>
        have hglob := hglobs glob List.mem_cons_self
        have hfrom : ∀ next, R next → FoundFrom top dirsOnly depth globs next q → R q := by
          rintro next hnext (⟨-, rfl⟩ | hq)
          · exact hnext
          · exact ihBelow globs next (fun g hg => hglobs g (List.mem_cons_of_mem _ hg)) hnext q hq
        cases firstStep_of_mem_expandBelow hq with
        | lookUp text htext _ hfound => exact hfrom _ (hglob.literal text htext path hpath) hfound
        | entry hnone hdir entry hmem hfound =>
          have hname : Path.IsName entry.name := FileTree.isName_of_mem
            (FileTree.everywhere_at? hnamed (FileTree.at?_of_locate hdir)) hmem
          exact ihAt _ _ _ hglobs (hentry path entry.name hpath hname) q hfound
        | dots hnone hdot name hname hfound =>
          exact hfrom _ (hglob.dots hnone hdot path hpath name hname) hfound
    · intro globs path name hglobs hpath q hq
      rcases exists_of_mem_expandAt hq with rfl | ⟨gs, hgs, hq⟩
      · exact hpath
      · exact ihBelow gs path (fun g hg => hglobs g (hgs g hg)) hpath q hq

/-- At the top, a path is found from what the first part stands for: the dot in front is not kept. -/
theorem keeps_of_mem_start (hglobs : ∀ g ∈ glob :: globs, Keeps R g)
    (hnames : ∀ name, Path.IsName name → R name)
    (hliteral : ∀ text, glob.literal? = some text → text ≠ "" → R text)
    (hdots : glob.literal? = none → glob.tokens.head? ≠ some (.literal '.'))
    (h : q ∈ expandBelow top dirsOnly (depth + 1) (glob :: globs) ".") : R q := by
  obtain ⟨hbelow, hat⟩ := keeps_of_mem_expandBelow hnamed hentry dirsOnly depth
  cases firstStep_of_mem_expandBelow h with
  | dots hnone hdot => exact absurd hdot (hdots hnone)
  | entry hnone hdir entry hmem hfound =>
    have hname : Path.IsName entry.name := FileTree.isName_of_mem
      (FileTree.everywhere_at? hnamed (FileTree.at?_of_locate hdir)) hmem
    rw [childPath_of_top] at hfound
    exact hat _ _ _ hglobs (hnames _ hname) q hfound
  | lookUp text htext hne hfound =>
    rw [childPath_of_top] at hne hfound
    have hR := hliteral text htext hne
    rcases hfound with ⟨-, rfl⟩ | hq
    · exact hR
    · exact hbelow _ _ (fun g hg => hglobs g (List.mem_cons_of_mem _ hg)) hR q hq

end Kept

/-! ## Patterns and their parts -/

theorem forall₂_of_mapM {α β ε : Type} {f : α → Except ε β} {xs : List α} {ys : List β}
    (h : xs.mapM f = .ok ys) : List.Forall₂ (fun x y => f x = .ok y) xs ys := by
  induction xs generalizing ys with
  | nil =>
    cases h
    exact .nil
  | cons x xs ih =>
    rw [List.mapM_cons] at h
    cases hx : f x with
    | error e =>
      rw [hx] at h
      cases h
    | ok y =>
      rw [hx] at h
      cases hxs : xs.mapM f with
      | error e =>
        rw [hxs] at h
        cases h
      | ok rest =>
        rw [hxs] at h
        cases h
        exact .cons hx (ih hxs)

/-- The parts of a pattern, and what each of them is read as. -/
abbrev ReadAs (parts : List (List Char)) (globs : List Glob) : Prop :=
  List.Forall₂ (fun part glob => parse (String.ofList part) = .ok glob) parts globs

/-- A pattern stands for what is found from the top by its parts. -/
theorem exists_globs_of_expand {text : String} {paths : List Path}
    (h : expand top text = .ok paths) :
    ∃ globs, ReadAs (Path.parts text) globs ∧
      paths = expandBelow top (text.toList.getLast? == some '/') maxDepth globs "." := by
  unfold expand at h
  cases hparse : parse text with
  | error e =>
    rw [hparse] at h
    cases h
  | ok whole =>
    rw [hparse] at h
    cases hglobs : componentGlobs text with
    | error e =>
      rw [hglobs] at h
      cases h
    | ok globs =>
      rw [hglobs] at h
      cases h
      exact ⟨globs, forall₂_of_mapM hglobs, rfl⟩

theorem exists_part_of_mem {parts : List (List Char)} (h : ReadAs parts globs)
    (hglob : glob ∈ globs) : ∃ part ∈ parts, parse (String.ofList part) = .ok glob := by
  induction h with
  | nil => cases hglob
  | cons hparse _ ih =>
    rcases List.mem_cons.mp hglob with rfl | hglob
    · exact ⟨_, List.mem_cons_self, hparse⟩
    · obtain ⟨part, hpart, hparse⟩ := ih hglob
      exact ⟨part, List.mem_cons_of_mem _ hpart, hparse⟩

theorem expandBelow_nil : expandBelow top dirsOnly depth [] path = [] := by
  cases depth <;> rw [expandBelow]

/-- Going on does not change how a path begins. -/
theorem keeps_undotted {part : List Char} (hslash : '/' ∉ part)
    (hparse : parse (String.ofList part) = .ok glob) : Keeps Path.Undotted glob where
  literal := by
    intro text htext path hpath
    have hrelative : Path.isAbsolute text = false := by
      rw [literal?_of_parse hparse htext]
      exact Path.isAbsolute_ofList hslash
    rw [childPath_of_undotted hpath]
    exact hpath.join hrelative
  dots := by
    intro _ _ path hpath name hname
    have hrelative : ∀ name ∈ [".", ".."], Path.isAbsolute name = false := by decide
    exact hpath.join (hrelative name hname)

/-- The paths of a pattern do not begin with a dot, unless its first part may stand for one. -/
theorem undotted_of_mem_expand (hnamed : top.wellNamed = true) {text : String} {paths : List Path}
    (h : expand top text = .ok paths) (hq : q ∈ paths)
    (hdots : ∀ part ∈ (Path.parts text).head?, mayBeDots part = false) : q.Undotted := by
  obtain ⟨globs, hglobs, rfl⟩ := exists_globs_of_expand h
  have hslashes : ∀ part ∈ Path.parts text, '/' ∉ part := fun part => Path.not_mem_of_mem_parts
  have hkeeps : ∀ g ∈ globs, Keeps Path.Undotted g := by
    intro g hg
    obtain ⟨part, hpart, hparse⟩ := exists_part_of_mem hglobs hg
    exact keeps_undotted (hslashes part hpart) hparse
  generalize Path.parts text = parts at hglobs hslashes hdots
  cases hglobs with
  | nil =>
    rw [expandBelow_nil] at hq
    cases hq
  | @cons part glob parts globs hparse hrest =>
    have hpart : mayBeDots part = false := hdots part rfl
    refine keeps_of_mem_start hnamed ?_ hkeeps ?_ ?_ (head?_ne_dot_of_parse hparse hpart) hq
    · intro path name hpath hname
      rw [childPath_of_undotted hpath]
      exact hpath.join (Path.isAbsolute_of_not_mem hname.1)
    · exact fun name hname => hname.undotted
    · intro text htext hne
      have hchars : text.toList = part := by
        rw [literal?_of_parse hparse htext, String.toList_ofList]
      refine Path.undotted_of_not_mem ?_ hne ?_
      · rw [hchars]
        exact hslashes part List.mem_cons_self
      · rintro hdot
        rw [← hchars, hdot] at hpart
        cases hpart

end MapLint.Glob
