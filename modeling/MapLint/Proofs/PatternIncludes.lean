import MapLint.Project.Config
import MapLint.Proofs.PatternWays

/-!
# Patterns among the includes

An include with wildcards is joined to the base directory, and the whole is read and expanded as one
pattern. A base directory whose name has no wildcards is then looked up part by part, and the rest goes on
from it as the include says.

## Architecture

- `toOption_tokensFrom_congr` and `exists_parse_append` say that a text without wildcards in front does not
  change how a pattern is read;
- `exists_way_of_mem_expandBelow_base` and `exists_mem_expandBelow_base` walk the parts of the base
  directory and go on from there by a way that fits;
- `goesDown_of_fits` says when no such way leaves the base directory;
- `include_pattern_expanded` is the result.
-/

namespace MapLint.Glob

/-! ## Reading behind a plain text -/

theorem toOption_map {ε α β : Type} (x : Except ε α) (f : α → β) :
    (x.map f).toOption = x.toOption.map f := by
  cases x <;> rfl

/-- Where a pattern begins does not matter to how it is read, if a slash or nothing comes before. -/
theorem toOption_tokensFrom_congr {previous previous' : Option Char} (position position' skip : Nat)
    (h : previous.all (· == '/') = previous'.all (· == '/')) (cs : List Char) :
    (tokensFrom position previous skip cs).toOption =
      (tokensFrom position' previous' skip cs).toOption := by
  -- behind the first character both readings remember the same one
  induction cs generalizing previous previous' position position' skip with
  | nil => rw [tokensFrom, tokensFrom]
  | cons c cs ih =>
    cases skip with
    | succ skip =>
      rw [tokensFrom, tokensFrom]
      exact ih _ _ _ rfl
    | zero =>
      have hrest : ∀ token skip,
          ((tokensFrom (position + 1) (some c) skip cs).map (token :: ·)).toOption =
            ((tokensFrom (position' + 1) (some c) skip cs).map (token :: ·)).toOption := by
        intro token skip
        rw [toOption_map, toOption_map, ih _ _ _ rfl]
      rw [tokensFrom, tokensFrom]
      dsimp only
      rw [h]
      split
      · exact hrest _ _
      · split
        · split
          · exact hrest _ _
          · split
            · split
              · exact hrest _ _
              · exact hrest _ _
              · rfl
            · rfl
          · rfl
        · split
          · split
            · exact hrest _ _
            · rfl
          · exact hrest _ _

/-- Plain characters in front are read as themselves. -/
theorem tokensFrom_plain_append {front : List Char} (hplain : isPlain front = true) (position : Nat)
    (previous : Option Char) (cs : List Char) :
    tokensFrom position previous 0 (front ++ cs) =
      (tokensFrom (position + front.length) (front.getLast?.or previous) 0 cs).map
        (front.map .literal ++ ·) := by
  induction front generalizing position previous with
  | nil =>
    show tokensFrom position previous 0 cs = (tokensFrom position previous 0 cs).map fun ts => ts
    cases tokensFrom position previous 0 cs <;> rfl
  | cons c front ih =>
    obtain ⟨hc, hfront⟩ : c ∉ wildcards ∧ isPlain front = true := by simpa [isPlain] using hplain
    have hstep : tokensFrom position previous 0 (c :: (front ++ cs)) =
        (tokensFrom (position + 1) (some c) 0 (front ++ cs)).map (.literal c :: ·) := by
      simp only [wildcards, List.mem_cons, List.not_mem_nil, or_false, not_or] at hc
      rw [tokensFrom]
      simp only [beq_iff_eq, hc.1, hc.2.1, hc.2.2, if_false]
    have hlast : (c :: front).getLast?.or previous = front.getLast?.or (some c) := by
      rw [List.getLast?_cons]
      cases front.getLast? <;> rfl
    rw [List.cons_append, hstep, ih hfront, hlast, List.length_cons, Nat.add_assoc, Nat.add_comm 1]
    cases tokensFrom (position + (front.length + 1)) (front.getLast?.or (some c)) 0 cs <;> rfl

/-- A text that stands behind a slash is a pattern if it is one on its own. -/
theorem exists_parse_append {front text : String} {glob : Glob} (hplain : isPlain front.toList = true)
    (hslash : front.toList.getLast? = some '/') (h : parse text = .ok glob) :
    ∃ whole, parse (front ++ text) = .ok whole := by
  have hstart : (some '/').all (· == '/') = (none : Option Char).all (· == '/') := rfl
  have hread : (tokensFrom (0 + front.toList.length) (some '/') 0 text.toList).toOption =
      (tokensFrom 0 none 0 text.toList).toOption := toOption_tokensFrom_congr _ _ _ hstart _
  rw [exists_tokens_of_parse h] at hread
  rw [parse, String.toList_append, tokensFrom_plain_append hplain, hslash, Option.some_or]
  cases htokens : tokensFrom (0 + front.toList.length) (some '/') 0 text.toList with
  | error e =>
    rw [htokens] at hread
    cases hread
  | ok tokens => exact ⟨_, rfl⟩

theorem parse_of_isPlain {part : List Char} (h : isPlain part = true) :
    parse (String.ofList part) = .ok ⟨part.map .literal⟩ := by
  have htokens := tokensFrom_plain_append h 0 none []
  rw [List.append_nil, tokensFrom] at htokens
  rw [parse, String.toList_ofList, htokens]
  simp [Except.map]

theorem mapM_eq_ok_of_forall₂ {α β ε : Type} {f : α → Except ε β} {xs : List α} {ys : List β}
    (h : List.Forall₂ (fun x y => f x = .ok y) xs ys) : xs.mapM f = .ok ys := by
  induction h with
  | nil => rfl
  | cons hx _ ih =>
    rw [List.mapM_cons, hx, ih]
    rfl

/-- The parts of a pattern are read in one way. -/
theorem ReadAs.unique {parts : List (List Char)} {globs globs' : List Glob} (h : ReadAs parts globs)
    (h' : ReadAs parts globs') : globs = globs' := by
  have heq := mapM_eq_ok_of_forall₂ h
  rw [mapM_eq_ok_of_forall₂ h'] at heq
  exact (Except.ok.inj heq).symm

theorem exists_readAs {parts : List (List Char)}
    (h : ∀ part ∈ parts, ∃ glob, parse (String.ofList part) = .ok glob) : ∃ globs, ReadAs parts globs := by
  induction parts with
  | nil => exact ⟨[], .nil⟩
  | cons part parts ih =>
    obtain ⟨⟨glob, hglob⟩, hparts⟩ := List.forall_mem_cons.mp h
    obtain ⟨globs, hglobs⟩ := ih hparts
    exact ⟨glob :: globs, .cons hglob hglobs⟩

/-- The parts of a path that can be read, none of them empty, are parts of a pattern. -/
theorem isPart_of_readAs {path : Path} {globs : List Glob} (hglobs : ReadAs path.parts globs)
    (hempty : [] ∉ path.parts) : ∀ g ∈ globs, g.IsPart := by
  intro g hg
  obtain ⟨part, hpart, hparse⟩ := exists_part_of_mem hglobs hg
  have hne : part ≠ [] := by
    rintro rfl
    exact hempty hpart
  exact isPart_of_parse (Path.not_mem_of_mem_parts hpart) hne hparse

/-- A pattern that can be read, with parts that can be read, is expanded from the top. -/
theorem expand_eq_ok {top : FileTree} {text : String} {whole : Glob} {globs : List Glob}
    (hwhole : parse text = .ok whole) (hglobs : ReadAs (Path.parts text) globs) :
    expand top text =
      .ok (expandBelow top (text.toList.getLast? == some '/') maxDepth globs ".") := by
  have hparts : componentGlobs text = .ok globs := mapM_eq_ok_of_forall₂ hglobs
  rw [expand, hwhole, hparts]
  rfl

/-! ## Walking to the base directory -/

variable {top : FileTree} {dirsOnly : Bool} {globs : List Glob} {path base : Path}
  {parts : List (List Char)}

theorem steps_follow (hpath : path ≠ "") (hslash : ∀ part ∈ parts, '/' ∉ part) (hempty : [] ∉ parts) :
    follow path parts ≠ "" ∧ (follow path parts).steps = path.steps ++ parts.filterMap Path.component? := by
  induction parts generalizing path with
  | nil => exact ⟨hpath, (List.append_nil _).symm⟩
  | cons part parts ih =>
    obtain ⟨hpart, hslash⟩ := List.forall_mem_cons.mp hslash
    rw [List.mem_cons, not_or] at hempty
    have hstep := Path.isStep_ofList hpart (Ne.symm hempty.1)
    obtain ⟨hne, hsteps⟩ := ih (childPath_ne_empty hpath hstep) hslash hempty.2
    rw [follow_cons]
    refine ⟨hne, ?_⟩
    rw [hsteps, steps_childPath hpath hstep, Path.step?, String.toList_ofList, List.append_assoc]
    cases hcomponent : Path.component? part <;> simp [hcomponent]

theorem leadsSomewhere_of_leadsToDir (h : top.leadsToDir path = true) : top.leadsSomewhere path = true := by
  obtain ⟨location, entries, hlocate⟩ := FileTree.leadsToDir_iff.mp h
  exact FileTree.leadsSomewhere_iff.mpr ⟨location, _, hlocate⟩

/-- The parts of a directory are looked up one after the other. -/
theorem mem_expandBelow_of_follow {readings : List Glob} (hslash : ∀ part ∈ parts, '/' ∉ part)
    (hplain : ∀ part ∈ parts, isPlain part = true) (hempty : [] ∉ parts)
    (hreadings : ReadAs parts readings) (hne : globs ≠ []) (hpath : path ≠ "")
    (hdir : top.leadsToDir (follow path parts) = true) {depth : Nat} {q : Path}
    (h : q ∈ expandBelow top dirsOnly depth globs (follow path parts)) :
    q ∈ expandBelow top dirsOnly (depth + parts.length) (readings ++ globs) path := by
  -- each part is there when it is looked up, because all of them together lead to a directory
  induction parts generalizing path readings with
  | nil =>
    cases hreadings
    exact h
  | cons part parts ih =>
    have hsteps := (steps_follow hpath hslash hempty).2
    cases hreadings with
    | @cons _ glob _ readings hglob hreadings =>
      obtain ⟨hpart, hslash⟩ := List.forall_mem_cons.mp hslash
      obtain ⟨hwild, hplain⟩ := List.forall_mem_cons.mp hplain
      rw [List.mem_cons, not_or] at hempty
      have hstep := Path.isStep_ofList hpart (Ne.symm hempty.1)
      have hnext := childPath_ne_empty hpath hstep
      obtain ⟨text, htext⟩ := exists_literal?_of_parse hglob hwild
      obtain rfl := literal?_of_parse hglob htext
      rw [follow_cons] at hdir h
      have hthere : isThere top path (String.ofList part) = true := by
        unfold isThere
        split
        · exact FileTree.leadsToDir_of_steps_append hpath hsteps hdir
        · have hchild := FileTree.leadsToDir_of_steps_append hnext
            (steps_follow hnext hslash hempty.2).2 hdir
          rw [leadsSomewhere_of_leadsToDir hchild, Bool.true_or]
      have hrest : readings ++ globs ≠ [] := fun hnil => hne (List.append_eq_nil_iff.mp hnil).2
      rw [List.length_cons, List.cons_append, ← Nat.add_assoc]
      exact (mem_expandBelow_of_literal htext).mpr
        ⟨hthere, .inr ⟨hrest, ih hslash hplain hempty.2 hreadings hnext hdir h⟩⟩

section Base

variable {readings : List Glob} {rest : List (List Char)} {root : Path} {way : List String}

/-- The path that the base directory turns into goes where the base directory does. -/
theorem steps_follow_parts (hdir : top.leadsToDir base = true) (hempty : [] ∉ base.parts) :
    follow "." base.parts ≠ "" ∧ (follow "." base.parts).steps = base.steps := by
  have hslash : ∀ part ∈ base.parts, '/' ∉ part := fun part => Path.not_mem_of_mem_parts
  have htop : ("." : Path) ≠ "" := by decide
  obtain ⟨hne, hsteps⟩ := steps_follow htop hslash hempty
  refine ⟨hne, ?_⟩
  rw [hsteps, Path.steps_of_parts (FileTree.not_rooted_of_leadsToDir hdir)]
  rfl

theorem isPlain_of_mem_parts (h : isPlain base.toList = true) {part : List Char}
    (hpart : part ∈ base.parts) : isPlain part = true := by
  rw [isPlain, List.all_eq_true] at h ⊢
  exact fun c hc => h c (Path.mem_of_mem_splitSlashes (Path.mem_of_mem_trimmed hpart) hc)

/-- The walk along a way stays within the depth that the length of its spelling allows. -/
theorem length_parts_add_le (hempty : [] ∉ base.parts) (hway : ∀ name ∈ way, Path.IsStep name) :
    2 * (base.parts.length + way.length) ≤ (base.descend way).length + 1 := by
  have hdescend := Path.parts_descend_of_isStep hway base
  have hnone : [] ∉ (base.descend way).parts := by
    rw [hdescend, List.mem_append, not_or, List.mem_map]
    refine ⟨hempty, ?_⟩
    rintro ⟨name, hname, heq⟩
    exact (hway name hname).2 (String.toList_eq_nil_iff.mp heq)
  have hcount := Path.two_mul_length_parts_le hnone
  rwa [hdescend, List.length_append, List.length_map] at hcount

variable (hnamed : top.wellNamed = true) (hdir : top.leadsToDir base = true)
  (hplain : isPlain base.toList = true) (hempty : [] ∉ base.parts) (hreadings : ReadAs base.parts readings)
  (hisPart : ∀ g ∈ globs, g.IsPart)

include hnamed hdir hplain hempty hreadings hisPart

/-- What is found from the top on is what a way from the base directory comes to. -/
theorem exists_way_of_mem_expandBelow_base (hrest : rest ≠ []) (hglobs : ReadAs rest globs) {depth : Nat}
    (hroot : root ∈ expandBelow top dirsOnly depth (readings ++ globs) ".") :
    ∃ way, Fits true globs way ∧ ComesTo top dirsOnly globs base way root := by
  have hparts : ∀ part ∈ base.parts, '/' ∉ part ∧ isPlain part = true := fun part hpart =>
    ⟨Path.not_mem_of_mem_parts hpart, isPlain_of_mem_parts hplain hpart⟩
  have hne : globs ≠ [] := by
    rintro rfl
    exact hrest (List.forall₂_nil_right_iff.mp hglobs)
  obtain ⟨hfollowNe, hfollow⟩ := steps_follow_parts hdir hempty
  obtain ⟨-, depth', globs', hglobs', hmem⟩ := exists_of_mem_expandBelow_append hparts hrest
    (List.rel_append hreadings hglobs) (.inl rfl) hroot
  obtain rfl := hglobs.unique hglobs'
  obtain ⟨way, hfits, hcomes⟩ :=
    waysBelow hnamed dirsOnly depth' globs _ root hisPart hne hfollowNe hmem
  exact ⟨way, hfits, hcomes.congr hnamed hfollowNe (FileTree.ne_empty_of_leadsToDir hdir) hfollow⟩

/-- What a way from the base directory comes to is found from the top on. -/
theorem exists_mem_expandBelow_base (hne : globs ≠ []) (hfits : Fits true globs way)
    (hcomes : ComesTo top dirsOnly globs base way (base.descend way))
    (hlength : (base.descend way).length ≤ maxDepth) :
    ∃ root ∈ expandBelow top dirsOnly maxDepth (readings ++ globs) ".",
      root.steps = (base.descend way).steps := by
  have hbase := FileTree.ne_empty_of_leadsToDir hdir
  obtain ⟨hfollowNe, hfollow⟩ := steps_follow_parts hdir hempty
  have hfollowDir : top.leadsToDir (follow "." base.parts) = true := by
    rwa [FileTree.leadsToDir_eq_of_steps_eq hfollowNe hbase hfollow]
  have hdepth := length_parts_add_le hempty (hcomes.goes.isStep hnamed)
  have hcount := List.length_pos_of_ne_nil (mt Path.parts_eq_nil_iff.mp hbase)
  -- the parts of the base directory take a step each, and the way has the rest of the depth
  obtain ⟨root, hmem, hsteps⟩ := findsWay hnamed dirsOnly way (base.descend way) globs
    (follow "." base.parts) (maxDepth - base.parts.length) hisPart hne hfollowNe hfits
    (hcomes.congr hnamed hbase hfollowNe hfollow.symm) (by omega)
  have hfound := mem_expandBelow_of_follow (fun part => Path.not_mem_of_mem_parts)
    (fun part => isPlain_of_mem_parts hplain) hempty hreadings hne (by decide) hfollowDir hmem
  rw [Nat.sub_add_cancel (by omega)] at hfound
  exact ⟨root, hfound, hsteps⟩

end Base

end MapLint.Glob

namespace MapLint

variable {top : FileTree} {base : Path} {config : Config} {text pattern field : String}
  {patterns : List String}

/-! ## Includes -/

theorem exists_eq_ok_of_isOk {ε α : Type} {x : Except ε α} (h : x.isOk = true) : ∃ a, x = .ok a := by
  cases x with
  | error e => cases h
  | ok a => exact ⟨a, rfl⟩

theorem Config.exists_glob_of_badPattern? (h : Config.badPattern? field patterns = none)
    (hpattern : pattern ∈ patterns) : ∃ glob, Glob.parse pattern = .ok glob := by
  induction patterns with
  | nil => cases hpattern
  | cons first patterns ih =>
    rw [Config.badPattern?] at h
    split at h
    case h_2 => cases h
    case h_1 glob hglob =>
      rcases List.mem_cons.mp hpattern with rfl | hpattern
      · exact ⟨glob, hglob⟩
      · exact ih h hpattern

/-- The patterns among the includes of a configuration that is not refused can be read. -/
theorem Config.exists_glob_of_validate (h : config.validate = .ok ()) (htext : text ∈ config.includes)
    (hpattern : Glob.isPattern text = true) : ∃ glob, Glob.parse text = .ok glob := by
  unfold Config.validate at h
  split at h
  case h_1 => cases h
  case h_2 =>
    split at h
    case h_1 => cases h
    case h_2 hnone =>
      exact Config.exists_glob_of_badPattern? hnone (List.mem_filter.mpr ⟨htext, hpattern⟩)

/-- The base directory joined to an include is a plain text that ends in a slash, and then the include. -/
theorem exists_front_of_join (hbase : base ≠ "") (hplain : Glob.isPlain base.toList = true)
    (hrelative : Path.isAbsolute text = false) :
    ∃ front : String, base.join text = front ++ text ∧ Glob.isPlain front.toList = true ∧
      front.toList.getLast? = some '/' := by
  unfold Path.join
  rw [hrelative, if_neg Bool.false_ne_true]
  by_cases hslash : base.toList.getLast? = some '/'
  · exact ⟨base, by rw [hslash]; simp, hplain, hslash⟩
  · refine ⟨base ++ "/", ?_, ?_, ?_⟩
    · simp [hbase, hslash]
    · rw [String.toList_append, Glob.isPlain, List.all_append, ← Glob.isPlain, hplain]
      rfl
    · rw [String.toList_append]
      exact List.getLast?_concat ..

/-- A pattern ends in a slash. -/
def asksForDirectories (text : String) : Bool := text.toList.getLast? == some '/'

/-- What an include with wildcards stands for. -/
theorem includeRoots_eq (hdir : top.leadsToDir base = true) (hplain : Glob.isPlain base.toList = true)
    (hpattern : Glob.isPattern text = true) (hrelative : Path.isAbsolute text = false) {whole : Glob}
    (hwhole : Glob.parse text = .ok whole) {globs : List Glob}
    (hglobs : Glob.ReadAs (Path.parts text) globs) :
    ∃ readings, Glob.ReadAs base.parts readings ∧
      includeRoots top base text = (Glob.expandBelow top (asksForDirectories text) Glob.maxDepth
        (readings ++ globs) ".", []) := by
  have hbase := FileTree.ne_empty_of_leadsToDir hdir
  obtain ⟨front, hjoin, hfront, hslash⟩ := exists_front_of_join hbase hplain hrelative
  obtain ⟨readings, hreadings⟩ := Glob.exists_readAs fun part hpart =>
    ⟨_, Glob.parse_of_isPlain (Glob.isPlain_of_mem_parts hplain hpart)⟩
  obtain ⟨joined, hjoined⟩ := Glob.exists_parse_append hfront hslash hwhole
  have hparts : Glob.ReadAs (Path.parts (base.join text)) (readings ++ globs) := by
    rw [Path.parts_join hrelative]
    exact List.rel_append hreadings hglobs
  have hlast : (base.join text).toList.getLast? = text.toList.getLast? := by
    have hne : text.toList ≠ [] := mt String.toList_eq_nil_iff.mp (ne_empty_of_isPattern hpattern)
    rw [hjoin, String.toList_append, List.getLast?_append_of_ne_nil _ hne]
  refine ⟨readings, hreadings, ?_⟩
  rw [includeRoots, if_pos hpattern, Glob.expand_eq_ok (hjoin ▸ hjoined) hparts, hlast]
  rfl

/-- The way goes down, by names only. -/
def GoesDown (way : List String) : Prop :=
  ∃ names : List String, (∀ name ∈ names, Path.IsName name) ∧
    way.filterMap Path.step? = names.map Component.name

theorem GoesDown.cons {path : Path} {name : String} {way : List String} (hnamed : top.wellNamed = true)
    (hholds : top.Holds path name) (hup : name ≠ "..") (h : GoesDown way) : GoesDown (name :: way) := by
  obtain ⟨names, hnames, hway⟩ := h
  rcases hholds.isName_or hnamed with hdots | hname
  · obtain rfl : name = "." := by simpa [hup] using hdots
    exact ⟨names, hnames, hway⟩
  · refine ⟨name :: names, List.forall_mem_cons.mpr ⟨hname, hnames⟩, ?_⟩
    rw [List.filterMap_cons_some (Path.step?_of_isName hname), hway, List.map_cons]

/-- A way goes down if no part stands for the name that goes up. -/
theorem goesDown_of_fits {direct : Bool} {globs : List Glob} {way : List String}
    (hnamed : top.wellNamed = true) (hup : ∀ g ∈ globs, ¬ g.Accepts true "..")
    (hfits : Glob.Fits direct globs way) {path : Path} (hgoes : top.Goes path way) : GoesDown way := by
  -- stars never stand for the two names made of dots, so only `name` asks what a part accepts
  induction hfits generalizing path with
  | done => exact ⟨[], fun _ h => absurd h List.not_mem_nil, rfl⟩
  | @name direct glob globs name way hsingle haccepts hrest ih =>
    obtain ⟨hglob, hglobs⟩ := List.forall_mem_cons.mp hup
    refine .cons hnamed hgoes.1 ?_ (ih hglobs hgoes.2)
    rintro rfl
    exact hglob ⟨haccepts.1, fun hdots => ⟨rfl, (haccepts.2 hdots).2⟩⟩
  | skip hstars hne hrest ih => exact ih (List.forall_mem_cons.mp hup).2 hgoes
  | more hstars hname hrest ih =>
    exact .cons hnamed hgoes.1 (fun heq => hname (by rw [heq]; decide)) (ih hup hgoes.2)
  | last hstars hname =>
    exact .cons hnamed hgoes.1 (fun heq => hname (by rw [heq]; decide))
      ⟨[], fun _ h => absurd h List.not_mem_nil, rfl⟩

/-- An include with wildcards is taken relative to the base directory, which is one that is seen from the
working directory and not an absolute one. -/
theorem include_pattern_expanded (hnamed : top.wellNamed = true) (hdir : top.leadsToDir base = true)
    (hplain : Glob.isPlain base.toList = true) (hvalid : config.validate = .ok ())
    (htext : text ∈ config.includes) (hpattern : Glob.isPattern text = true)
    (hempty : [] ∉ (base.join text).parts)
    (hparts : ∀ part ∈ Path.parts text, (Glob.parse (String.ofList part)).isOk = true) :
    ∃ globs roots, Glob.ReadAs (Path.parts text) globs ∧ includeRoots top base text = (roots, []) ∧
      (∀ root ∈ roots, ∃ way, Glob.Fits true globs way ∧
        Glob.ComesTo top (asksForDirectories text) globs base way root) ∧
      (∀ way, Glob.Fits true globs way →
        Glob.ComesTo top (asksForDirectories text) globs base way (base.descend way) →
          (base.descend way).length ≤ Glob.maxDepth →
            ∃ root ∈ roots, root.steps = (base.descend way).steps) ∧
      ((∀ g ∈ globs, ¬ g.Accepts true "..") → ∀ root ∈ roots,
        ∃ names : List String, (∀ name ∈ names, Path.IsName name) ∧
          root.steps = base.steps ++ names.map Component.name) := by
  have hrelative : Path.isAbsolute text = false := by
    by_contra habsolute
    rw [Bool.not_eq_false] at habsolute
    rw [Path.join_of_isAbsolute habsolute] at hempty
    exact hempty (List.mem_of_head? (Path.head?_parts_of_isAbsolute habsolute))
  rw [Path.parts_join hrelative, List.mem_append, not_or] at hempty
  obtain ⟨hbaseParts, htextParts⟩ := hempty
  obtain ⟨whole, hwhole⟩ := Config.exists_glob_of_validate hvalid htext hpattern
  obtain ⟨globs, hglobs⟩ := Glob.exists_readAs fun part hpart => exists_eq_ok_of_isOk (hparts part hpart)
  obtain ⟨readings, hreadings, hroots⟩ := includeRoots_eq hdir hplain hpattern hrelative hwhole hglobs
  have hrest : Path.parts text ≠ [] := mt Path.parts_eq_nil_iff.mp (ne_empty_of_isPattern hpattern)
  have hne : globs ≠ [] := by
    rintro rfl
    exact hrest (List.forall₂_nil_right_iff.mp hglobs)
  have hisPart := Glob.isPart_of_readAs hglobs htextParts
  have hsound : ∀ root ∈ Glob.expandBelow top (asksForDirectories text) Glob.maxDepth (readings ++ globs)
      ".", ∃ way, Glob.Fits true globs way ∧
        Glob.ComesTo top (asksForDirectories text) globs base way root :=
    fun root hroot => Glob.exists_way_of_mem_expandBelow_base hnamed hdir hplain hbaseParts hreadings
      hisPart hrest hglobs hroot
  refine ⟨globs, _, hglobs, hroots, hsound, fun way hfits hcomes hlength => ?_, fun hup root hroot => ?_⟩
  · exact Glob.exists_mem_expandBelow_base hnamed hdir hplain hbaseParts hreadings hisPart hne hfits hcomes
      hlength
  · obtain ⟨way, hfits, hcomes⟩ := hsound root hroot
    obtain ⟨names, hnames, hway⟩ := goesDown_of_fits hnamed hup hfits hcomes.goes
    refine ⟨names, hnames, ?_⟩
    rw [hcomes.steps, Path.steps_descend (FileTree.ne_empty_of_leadsToDir hdir)
      (hcomes.goes.isStep hnamed), hway]

/-- A project with a package that holds a script in a directory of its own. -/
def packageProject : FileTree :=
  .dir [.mk "pkg" (.dir [.mk "src" (.dir [.mk "a.js" (.file (.text []))])])]

/-- The parts of a pattern with a star and a question mark. -/
def scriptGlobs : List Glob :=
  [⟨[.anyText]⟩, ⟨[.literal 'a', .literal '.', .anyChar, .literal 's']⟩]

/-- A directory and a script in it are found by their wildcards, below the base directory. -/
theorem include_pattern_expanded_package :
    packageProject.leadsToDir "./pkg" = true ∧
      (Config.mk ["*/a.?s"] [] false .strict).validate = .ok () ∧
      (includeRoots packageProject "./pkg" "*/a.?s").2 = [] ∧
      (∃ root ∈ (includeRoots packageProject "./pkg" "*/a.?s").1,
        root.steps = Path.steps "./pkg/src/a.js") ∧
      ∀ root ∈ (includeRoots packageProject "./pkg" "*/a.?s").1,
        ∃ names : List String, (∀ name ∈ names, Path.IsName name) ∧
          root.steps = Path.steps "./pkg" ++ names.map Component.name := by
  have hdir : packageProject.leadsToDir "./pkg" = true := by decide +kernel
  have hvalid : (Config.mk ["*/a.?s"] [] false .strict).validate = .ok () := by decide +kernel
  have htext : "*/a.?s" ∈ (Config.mk ["*/a.?s"] [] false .strict).includes := List.mem_singleton_self _
  obtain ⟨globs, roots, hglobs, hroots, -, hcomplete, hbelow⟩ :=
    include_pattern_expanded (by decide +kernel) hdir (by decide +kernel) hvalid htext
      (by decide +kernel) (by decide +kernel) (by decide +kernel)
  have hparts : Path.parts "*/a.?s" = ["*".toList, "a.?s".toList] := by decide +kernel
  rw [hparts] at hglobs
  obtain rfl : globs = scriptGlobs := hglobs.unique (.cons rfl (.cons rfl .nil))
  rw [hroots]
  refine ⟨hdir, hvalid, rfl, ?_, hbelow ?_⟩
  · have hfits : Glob.Fits true scriptGlobs ["src", "a.js"] :=
      .name rfl ⟨by decide, by decide⟩ (.name rfl ⟨by decide, by decide⟩ (.done true))
    refine hcomplete ["src", "a.js"] hfits ⟨⟨?_, ?_, trivial⟩, rfl, by decide⟩ (by decide +kernel)
    · exact ⟨["pkg"], _, rfl, .inr ⟨_, List.mem_singleton_self _, rfl⟩⟩
    · exact ⟨["pkg", "src"], _, rfl, .inr ⟨_, List.mem_singleton_self _, rfl⟩⟩
  · unfold scriptGlobs Glob.Accepts
    decide

/-- Two directories, one with brackets in its name. -/
def bracketProject : FileTree :=
  .dir [.mk "a[1]" (.dir [.mk "x.js" (.file (.text []))]), .mk "a1" (.dir [.mk "y.js" (.file (.text []))])]

/-- The brackets in the name of the base directory are read as wildcards: what it holds is not found, and
what another directory holds is. -/
theorem include_not_relative_to_brackets :
    bracketProject.leadsToDir "a[1]" = true ∧ (Config.mk ["*"] [] false .strict).validate = .ok () ∧
      bracketProject.leadsSomewhere "a[1]/x.js" = true ∧
      includeRoots bracketProject "a[1]" "*" = (["a1/y.js"], []) := by decide +kernel

end MapLint
