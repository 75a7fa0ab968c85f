import MapLint.Project.Path
import Mathlib.Data.List.Basic

/-!
# The parts of a spelling

A path is a text, and `join` works on the text: it adds a slash or does not, and takes the child alone
if that is absolute. Nothing that is told of scans should have to look at slashes again, so a spelling
is seen here as the list of what stands between its slashes. On these `parts`, `join` is `++`, and the
components of a path are read off them.

## Architecture

- `splitSlashes_eq_splitOn` opens the library's lemmas on splitting;
- `parts` are all that was split off, less an empty one behind a slash at the end, and `parts_join` and
  `components_eq` are the two facts that all else goes through;
- `IsName` is a text that can stand as one step of a path, `descend` goes on by names;
- `steps` is the way that a path goes, however it is spelled, and `components_prefix_of_steps_prefix`
  says when the components tell as much.
-/

namespace MapLint.Path

/-! ## Splitting -/

theorem splitSlashes_eq_splitOn (cs : List Char) : splitSlashes cs = cs.splitOn '/' := by
  induction cs with
  | nil => rfl
  | cons c cs ih =>
    rw [List.splitOn_eq_splitOnP, List.splitOnP_cons_eq_if_modifyHead,
      ← List.splitOn_eq_splitOnP, ← ih, splitSlashes]
    split
    · rfl
    · -- a split list is never empty, so the second branch of the match is the head's
      have hne : splitSlashes cs ≠ [] := by
        rw [ih]
        exact List.splitOn_ne_nil _ _
      cases hsplit : splitSlashes cs with
      | nil => exact absurd hsplit hne
      | cons part parts => rfl

theorem splitSlashes_ne_nil (cs : List Char) : splitSlashes cs ≠ [] := by
  rw [splitSlashes_eq_splitOn]
  exact List.splitOn_ne_nil _ _

theorem splitSlashes_append_slash (as bs : List Char) :
    splitSlashes (as ++ '/' :: bs) = splitSlashes as ++ splitSlashes bs := by
  simp only [splitSlashes_eq_splitOn, List.splitOn_eq_splitOnP]
  exact List.splitOnP_append_cons as bs rfl

theorem splitSlashes_of_not_mem {cs : List Char} (h : '/' ∉ cs) : splitSlashes cs = [cs] := by
  rw [splitSlashes_eq_splitOn, List.splitOn_eq_splitOnP]
  refine List.splitOnP_eq_singleton fun c hc => ?_
  rw [beq_eq_false_iff_ne]
  rintro rfl
  exact h hc

theorem not_mem_of_mem_splitSlashes {cs part : List Char} (h : part ∈ splitSlashes cs) :
    '/' ∉ part := by
  induction cs generalizing part with
  | nil =>
    rw [splitSlashes, List.mem_singleton] at h
    rw [h]
    exact List.not_mem_nil
  | cons c cs ih =>
    rw [splitSlashes] at h
    split at h
    case isTrue =>
      rcases List.mem_cons.mp h with rfl | h
      · exact List.not_mem_nil
      · exact ih h
    case isFalse hc =>
      cases hsplit : splitSlashes cs with
      | nil => exact absurd hsplit (splitSlashes_ne_nil cs)
      | cons first rest =>
        rw [hsplit] at h ih
        rcases List.mem_cons.mp h with rfl | h
        · rw [List.mem_cons, not_or]
          exact ⟨fun heq => hc (by rw [← heq]; rfl), ih List.mem_cons_self⟩
        · exact ih (List.mem_cons_of_mem _ h)

theorem splitSlashes_inj {as bs : List Char} (h : splitSlashes as = splitSlashes bs) : as = bs := by
  rw [splitSlashes_eq_splitOn, splitSlashes_eq_splitOn] at h
  calc as = ['/'].intercalate (as.splitOn '/') := (List.intercalate_splitOn '/').symm
    _ = ['/'].intercalate (bs.splitOn '/') := by rw [h]
    _ = bs := List.intercalate_splitOn '/'

/-- Only behind a slash, or where there is nothing, is the last part empty. -/
theorem getLast?_splitSlashes_concat {cs : List Char} {c : Char} (hc : c ≠ '/') :
    (splitSlashes (cs ++ [c])).getLast? ≠ some [] := by
  induction cs with
  | nil => simp [splitSlashes, hc]
  | cons d cs ih =>
    rw [List.cons_append, splitSlashes]
    cases hsplit : splitSlashes (cs ++ [c]) with
    | nil => exact absurd hsplit (splitSlashes_ne_nil _)
    | cons part parts =>
      rw [hsplit] at ih
      split
      · rwa [List.getLast?_cons_cons]
      · cases parts with
        | nil => simp
        | cons next parts => rwa [List.getLast?_cons_cons] at ih ⊢

/-! ## Parts -/

/-- A list without an empty part at its end. -/
def trimmed (parts : List (List Char)) : List (List Char) :=
  if parts.getLast? = some [] then parts.dropLast else parts

/-- What stands between the slashes of a path; a slash at the end begins no part. -/
def parts (path : Path) : List (List Char) := trimmed (splitSlashes path.toList)

theorem trimmed_append (ps : List (List Char)) {qs : List (List Char)} (h : qs ≠ []) :
    trimmed (ps ++ qs) = ps ++ trimmed qs := by
  obtain ⟨front, last, rfl⟩ : ∃ front last, qs = front ++ [last] :=
    ⟨_, _, (List.dropLast_concat_getLast h).symm⟩
  unfold trimmed
  rw [← List.append_assoc, List.getLast?_concat, List.getLast?_concat, List.dropLast_concat,
    List.dropLast_concat]
  split
  · rfl
  · exact List.append_assoc ..

theorem trimmed_cons {part : List Char} {ps : List (List Char)} (h : part ≠ [] ∨ ps ≠ []) :
    trimmed (part :: ps) = part :: trimmed ps := by
  cases ps with
  | nil =>
    have hpart : part ≠ [] := h.resolve_right fun hne => hne rfl
    simp [trimmed, hpart]
  | cons next ps => exact trimmed_append [part] (List.cons_ne_nil next ps)

theorem mem_of_mem_trimmed {ps : List (List Char)} {part : List Char} (h : part ∈ trimmed ps) :
    part ∈ ps := by
  unfold trimmed at h
  split at h
  · exact List.dropLast_subset ps h
  · exact h

theorem not_mem_of_mem_parts {path : Path} {part : List Char} (h : part ∈ path.parts) :
    '/' ∉ part :=
  not_mem_of_mem_splitSlashes (mem_of_mem_trimmed h)

/-- What is split off a joined path: one slash between the base and the child is enough. -/
theorem splitSlashes_join {base child : Path} (h : child.isAbsolute = false) :
    splitSlashes (base.join child).toList = base.parts ++ splitSlashes child.toList := by
  have hsplit : base.toList = [] ∨ (∃ cs, base.toList = cs ++ ['/']) ∨
      ∃ cs c, base.toList = cs ++ [c] ∧ c ≠ '/' := by
    rcases List.eq_nil_or_concat base.toList with hnil | ⟨cs, c, hcs⟩
    · exact .inl hnil
    · rw [List.concat_eq_append] at hcs
      by_cases hc : c = '/'
      · exact .inr (.inl ⟨cs, by rw [hcs, hc]⟩)
      · exact .inr (.inr ⟨cs, c, hcs, hc⟩)
  unfold join
  rw [h, if_neg Bool.false_ne_true]
  rcases hsplit with hnil | ⟨cs, hcs⟩ | ⟨cs, c, hcs, hc⟩
  · obtain rfl : base = "" := String.toList_eq_nil_iff.mp hnil
    simp [parts, trimmed, splitSlashes]
  · have hlast : base.toList.getLast? = some '/' := by rw [hcs, List.getLast?_concat]
    rw [hlast, if_pos (by simp), String.toList_append, parts, hcs, splitSlashes_append_slash,
      trimmed_append _ (by simp [splitSlashes]), List.append_assoc, List.singleton_append,
      splitSlashes_append_slash]
    simp [trimmed, splitSlashes]
  · have hlast : base.toList.getLast? = some c := by rw [hcs, List.getLast?_concat]
    have hempty : base ≠ "" := by
      rintro rfl
      cases hlast
    rw [hlast, if_neg (by simp [hempty, hc]), String.toList_append, String.toList_append,
      List.append_assoc]
    rw [show ("/".toList ++ child.toList) = '/' :: child.toList from rfl, splitSlashes_append_slash,
      parts, trimmed, if_neg (by rw [hcs]; exact getLast?_splitSlashes_concat hc)]

theorem parts_join {base child : Path} (h : child.isAbsolute = false) :
    (base.join child).parts = base.parts ++ child.parts := by
  rw [parts, splitSlashes_join h, trimmed_append _ (splitSlashes_ne_nil _), parts, parts]

@[simp]
theorem parts_empty : parts "" = [] := rfl

theorem parts_eq_nil_iff {path : Path} : path.parts = [] ↔ path = "" := by
  constructor
  · intro h
    unfold parts trimmed at h
    split at h
    case isFalse => exact absurd h (splitSlashes_ne_nil _)
    case isTrue hlast =>
      -- the one part that was split off is the empty one that was dropped
      have hone : splitSlashes path.toList = splitSlashes [] := by
        obtain ⟨before, hbefore⟩ := List.getLast?_eq_some_iff.mp hlast
        rw [hbefore, List.dropLast_concat] at h
        rw [hbefore, h]
        rfl
      exact String.toList_eq_nil_iff.mp (splitSlashes_inj hone)
  · rintro rfl
    rfl

theorem parts_of_not_mem {text : String} (h : '/' ∉ text.toList) (hne : text ≠ "") :
    parts text = [text.toList] := by
  have hchars : text.toList ≠ [] := mt String.toList_eq_nil_iff.mp hne
  rw [parts, splitSlashes_of_not_mem h, trimmed_cons (.inl hchars)]
  rfl

theorem parts_ofList {part : List Char} (h : '/' ∉ part) (hne : part ≠ []) :
    parts (String.ofList part) = [part] := by
  have hchars : (String.ofList part).toList = part := String.toList_ofList
  rw [parts_of_not_mem (by rwa [hchars]) fun hempty => hne ?_, hchars]
  rw [← hchars, hempty]
  rfl

/-- A spelling that does not end in a slash can be read off its parts. -/
theorem eq_of_parts_eq {p q : Path} (hp : (splitSlashes p.toList).getLast? ≠ some [])
    (hq : (splitSlashes q.toList).getLast? ≠ some []) (h : p.parts = q.parts) : p = q := by
  rw [parts, parts, trimmed, trimmed, if_neg hp, if_neg hq] at h
  exact String.toList_inj.mp (splitSlashes_inj h)

/-! ## Components -/

/-- The component of the first part of a path, where a dot and an empty part count too. -/
def lead? (part : List Char) : Option Component :=
  if part = [] then some .root else if part = ['.'] then some .here else component? part

/-- The components of a path with these parts. -/
def componentsOf : List (List Char) → List Component
  | [] => []
  | part :: parts => (lead? part).toList ++ parts.filterMap component?

theorem componentsOf_append {ps qs : List (List Char)} (h : ps ≠ []) :
    componentsOf (ps ++ qs) = componentsOf ps ++ qs.filterMap component? := by
  cases ps with
  | nil => exact absurd rfl h
  | cons part ps => rw [List.cons_append, componentsOf, componentsOf, List.filterMap_append,
      List.append_assoc]

/-- An empty part at the end is no component. -/
theorem filterMap_component?_trimmed (ps : List (List Char)) :
    (trimmed ps).filterMap component? = ps.filterMap component? := by
  unfold trimmed
  split
  case isTrue hlast =>
    obtain ⟨before, rfl⟩ := List.getLast?_eq_some_iff.mp hlast
    rw [List.dropLast_concat, List.filterMap_append]
    simp [component?]
  case isFalse => rfl

theorem componentsOf_cons_of_lead {part : List Char} (h : lead? part = component? part)
    (ps : List (List Char)) : componentsOf (part :: ps) = (part :: ps).filterMap component? := by
  rw [componentsOf, h, List.filterMap_cons]
  cases component? part <;> rfl

theorem components_eq (path : Path) : path.components = componentsOf path.parts := by
  unfold components parts
  split
  case h_1 parts hsplit =>
    rw [hsplit]
    split
    case isTrue hnil =>
      rw [hnil]
      rfl
    case isFalse hne =>
      rw [trimmed_cons (.inr hne)]
      exact congrArg (Component.root :: ·) (filterMap_component?_trimmed parts).symm
  case h_2 parts hsplit =>
    rw [hsplit, trimmed_cons (.inl (List.cons_ne_nil _ _))]
    exact congrArg (Component.here :: ·) (filterMap_component?_trimmed parts).symm
  case h_3 hempty hdot =>
    cases hsplit : splitSlashes path.toList with
    | nil => exact absurd hsplit (splitSlashes_ne_nil _)
    | cons part parts =>
      have hpart : part ≠ [] := fun h => hempty parts (by rw [hsplit, h])
      have hlead : lead? part = component? part := by
        unfold lead?
        rw [if_neg hpart, if_neg fun h => hdot parts (by rw [hsplit, h])]
      rw [← filterMap_component?_trimmed, trimmed_cons (.inl hpart), componentsOf_cons_of_lead hlead]

/-- The first part of a path is always a component. -/
theorem exists_lead (part : List Char) : ∃ c, lead? part = some c := by
  unfold lead?
  split
  case isTrue => exact ⟨_, rfl⟩
  case isFalse hempty =>
    split
    case isTrue => exact ⟨_, rfl⟩
    case isFalse hdot =>
      rw [component?, if_neg (by simp [hempty, hdot])]
      split <;> exact ⟨_, rfl⟩

/-! ## Names -/

/-- A text that can stand as a name in a directory. -/
def IsName (text : String) : Prop := '/' ∉ text.toList ∧ text ∉ ["", ".", ".."]

instance (text : String) : Decidable (IsName text) := inferInstanceAs (Decidable (_ ∧ _))

theorem isAbsolute_of_not_mem {text : String} (h : '/' ∉ text.toList) :
    isAbsolute text = false := by
  unfold isAbsolute
  cases htext : text.toList with
  | nil => rfl
  | cons c cs =>
    rw [htext, List.mem_cons, not_or] at h
    simpa using fun hc : c = '/' => h.1 hc.symm

theorem isAbsolute_ofList {part : List Char} (h : '/' ∉ part) :
    isAbsolute (String.ofList part) = false :=
  isAbsolute_of_not_mem (by rwa [String.toList_ofList])

theorem IsName.toList_ne {text : String} (h : IsName text) :
    text.toList ≠ [] ∧ text.toList ≠ ['.'] ∧ text.toList ≠ ['.', '.'] := by
  have hne := h.2
  simp only [List.mem_cons, List.not_mem_nil, or_false, not_or] at hne
  refine ⟨fun heq => hne.1 ?_, fun heq => hne.2.1 ?_, fun heq => hne.2.2 ?_⟩ <;>
    exact String.toList_inj.mp heq

theorem IsName.component? {text : String} (h : IsName text) :
    Path.component? text.toList = some (.name text) := by
  obtain ⟨hempty, hdot, hdots⟩ := h.toList_ne
  rw [Path.component?, if_neg (by simp [hempty, hdot]), if_neg hdots, String.ofList_toList]

theorem IsName.ne_empty {text : String} (h : IsName text) : text ≠ "" := fun hempty =>
  h.2 (by rw [hempty]; exact List.mem_cons_self)

theorem IsName.parts {text : String} (h : IsName text) : Path.parts text = [text.toList] :=
  parts_of_not_mem h.1 h.ne_empty

theorem IsName.lead? {text : String} (h : IsName text) :
    Path.lead? text.toList = some (.name text) := by
  obtain ⟨hempty, hdot, -⟩ := h.toList_ne
  rw [Path.lead?, if_neg hempty, if_neg hdot, h.component?]

theorem filterMap_component?_names {names : List String} (h : ∀ name ∈ names, IsName name) :
    (names.map String.toList).filterMap component? = names.map Component.name := by
  induction names with
  | nil => rfl
  | cons name names ih =>
    rw [List.map_cons, List.filterMap_cons_some (h name List.mem_cons_self).component?,
      ih fun n hn => h n (List.mem_cons_of_mem _ hn), List.map_cons]

theorem componentsOf_append_names (ps : List (List Char)) {names : List String}
    (h : ∀ name ∈ names, IsName name) :
    componentsOf (ps ++ names.map String.toList) = componentsOf ps ++ names.map Component.name := by
  cases ps with
  | cons part ps =>
    rw [componentsOf_append (List.cons_ne_nil _ _), filterMap_component?_names h]
  | nil =>
    cases names with
    | nil => rfl
    | cons name names =>
      have hname := h name List.mem_cons_self
      have hnames := fun n hn => h n (List.mem_cons_of_mem _ hn)
      show (lead? name.toList).toList ++ (names.map String.toList).filterMap component? = _
      rw [hname.lead?, filterMap_component?_names hnames]
      rfl

/-- The path that goes on from `base` by names. -/
def descend (base : Path) (names : List String) : Path := names.foldl join base

@[simp]
theorem descend_nil (base : Path) : base.descend [] = base := rfl

@[simp]
theorem descend_cons (base : Path) (name : String) (names : List String) :
    base.descend (name :: names) = (base.join name).descend names := rfl

theorem parts_descend {names : List String} (h : ∀ name ∈ names, IsName name) (base : Path) :
    (base.descend names).parts = base.parts ++ names.map String.toList := by
  induction names generalizing base with
  | nil => simp
  | cons name names ih =>
    have hname := h name List.mem_cons_self
    rw [descend_cons, ih fun n hn => h n (List.mem_cons_of_mem _ hn),
      parts_join (isAbsolute_of_not_mem hname.1), hname.parts]
    simp

theorem components_descend {names : List String} (h : ∀ name ∈ names, IsName name) (base : Path) :
    (base.descend names).components = base.components ++ names.map Component.name := by
  rw [components_eq, parts_descend h, componentsOf_append_names _ h, ← components_eq]

/-! ## Dots in front -/

/-- The path begins with a slash. -/
def Rooted (path : Path) : Prop := path.components.head? = some .root

/-- The path begins with a dot that is a component. -/
def Dotted (path : Path) : Prop := path.components.head? = some .here

theorem Rooted.not_dotted {path : Path} (h : path.Rooted) : ¬ path.Dotted := by
  intro hdot
  rw [Dotted, h] at hdot
  cases hdot

/-- How a path begins is settled by its first part. -/
theorem head?_components (path : Path) : path.components.head? = path.parts.head?.bind lead? := by
  rw [components_eq]
  cases path.parts with
  | nil => rfl
  | cons part parts =>
    obtain ⟨c, hc⟩ := exists_lead part
    rw [componentsOf, hc]
    exact hc.symm

theorem dotted_iff {path : Path} : path.Dotted ↔ path.parts.head? = some ['.'] := by
  have hlead : ∀ part, lead? part = some .here ↔ part = ['.'] := by
    intro part
    by_cases hempty : part = []
    · simp [lead?, hempty]
    · by_cases hdot : part = ['.']
      · simp [lead?, hdot]
      · by_cases hup : part = ['.', '.'] <;> simp [lead?, component?, hempty, hdot, hup]
  rw [Dotted, head?_components, Option.bind_eq_some_iff]
  constructor
  · rintro ⟨part, hpart, hhere⟩
    rw [hpart, (hlead part).mp hhere]
  · exact fun h => ⟨['.'], h, rfl⟩

/-- The way that a path goes, from the root or from the working directory. Paths that are spelled with
and without a dot in front go the same way. -/
def steps (path : Path) : List Component :=
  match path.components with
  | .root :: rest => .root :: rest
  | cs => .here :: cs.filter (· ≠ .here)

theorem here_not_mem_filterMap (ps : List (List Char)) :
    Component.here ∉ ps.filterMap component? := by
  intro h
  obtain ⟨part, -, hpart⟩ := List.mem_filterMap.mp h
  unfold component? at hpart
  repeat' split at hpart
  all_goals cases hpart

/-- A dot is a component only in front. -/
theorem here_not_mem_tail (path : Path) : Component.here ∉ path.components.tail := by
  rw [components_eq]
  cases path.parts with
  | nil => exact List.not_mem_nil
  | cons part parts =>
    obtain ⟨c, hlead⟩ := exists_lead part
    rw [componentsOf, hlead]
    exact here_not_mem_filterMap parts

theorem filter_ne_here {tail : List Component} (h : Component.here ∉ tail) :
    tail.filter (· ≠ .here) = tail := by
  refine List.filter_eq_self.mpr fun c hc => ?_
  rw [decide_eq_true_eq]
  rintro rfl
  exact h hc

theorem steps_of_rooted {path : Path} (h : path.Rooted) : path.steps = path.components := by
  obtain ⟨rest, hrest⟩ := List.head?_eq_some_iff.mp h
  rw [steps, hrest]

theorem steps_of_not_rooted {path : Path} (h : ¬ path.Rooted) :
    path.steps = .here :: path.components.filter (· ≠ .here) := by
  unfold steps
  split
  case h_1 rest hrest => exact absurd (by rw [Rooted, hrest]; rfl) h
  case h_2 => rfl

theorem steps_of_dotted {path : Path} (h : path.Dotted) : path.steps = path.components := by
  obtain ⟨rest, hrest⟩ := List.head?_eq_some_iff.mp h
  have htail := here_not_mem_tail path
  rw [hrest, List.tail_cons] at htail
  rw [steps, hrest]
  dsimp only
  rw [List.filter_cons_of_neg (by simp), filter_ne_here htail]

theorem steps_of_plain {path : Path} (hroot : ¬ path.Rooted) (hdot : ¬ path.Dotted) :
    path.steps = .here :: path.components := by
  rw [steps_of_not_rooted hroot, filter_ne_here]
  intro hmem
  cases hcomponents : path.components with
  | nil =>
    rw [hcomponents] at hmem
    cases hmem
  | cons c cs =>
    have htail := here_not_mem_tail path
    rw [hcomponents] at hmem htail
    rcases List.mem_cons.mp hmem with rfl | hmem
    · exact hdot (by rw [Dotted, hcomponents]; rfl)
    · exact htail hmem

/-- Ways that begin alike begin both at the root or both at the working directory. -/
theorem rooted_iff_of_steps_prefix {p q : Path} (h : p.steps <+: q.steps) :
    p.Rooted ↔ q.Rooted := by
  have hhead : ∀ path : Path, path.Rooted ↔ path.steps.head? = some .root := by
    intro path
    by_cases hpath : path.Rooted
    · rw [steps_of_rooted hpath]
      exact Iff.rfl
    · rw [steps_of_not_rooted hpath]
      exact iff_of_false hpath fun h => by cases h
  obtain ⟨rest, hrest⟩ := h
  rw [hhead p, hhead q, ← hrest]
  cases hsteps : p.steps with
  | nil =>
    have hne : p.steps ≠ [] := by
      unfold steps
      split <;> exact List.cons_ne_nil _ _
    exact absurd hsteps hne
  | cons c cs => rfl

/-- Paths that agree on a dot in front compare as their ways do. -/
theorem components_prefix_of_steps_prefix {p q : Path} (hdots : p.Dotted ↔ q.Dotted)
    (h : p.steps <+: q.steps) : p.components <+: q.components := by
  have hroots := rooted_iff_of_steps_prefix h
  by_cases hroot : p.Rooted
  · rwa [steps_of_rooted hroot, steps_of_rooted (hroots.mp hroot)] at h
  · by_cases hdot : p.Dotted
    · rwa [steps_of_dotted hdot, steps_of_dotted (hdots.mp hdot)] at h
    · rw [steps_of_plain hroot hdot,
        steps_of_plain (mt hroots.mpr hroot) (mt hdots.mpr hdot)] at h
      exact (List.cons_prefix_cons.mp h).2

theorem head?_parts_of_isAbsolute {path : Path} (h : path.isAbsolute = true) :
    path.parts.head? = some [] := by
  obtain ⟨rest, hrest⟩ := List.head?_eq_some_iff.mp (eq_of_beq h)
  rw [parts, hrest, splitSlashes, if_pos (by rfl), trimmed_cons (.inr (splitSlashes_ne_nil rest))]
  rfl

theorem rooted_of_isAbsolute {path : Path} (h : path.isAbsolute = true) : path.Rooted := by
  rw [Rooted, head?_components, head?_parts_of_isAbsolute h]
  rfl

theorem join_of_isAbsolute {base child : Path} (h : child.isAbsolute = true) :
    base.join child = child := by
  rw [join, if_pos h]

theorem head?_parts_join {base child : Path} (hbase : base ≠ "") (hchild : child.isAbsolute = false) :
    (base.join child).parts.head? = base.parts.head? := by
  rw [parts_join hchild, List.head?_append_of_ne_nil _ (mt parts_eq_nil_iff.mp hbase)]

theorem head?_parts_descend {names : List String} (h : ∀ name ∈ names, IsName name) {base : Path}
    (hbase : base ≠ "") : (base.descend names).parts.head? = base.parts.head? := by
  rw [parts_descend h, List.head?_append_of_ne_nil _ (mt parts_eq_nil_iff.mp hbase)]

theorem join_ne_empty {base child : Path} (hbase : base ≠ "") (hchild : child.isAbsolute = false) :
    base.join child ≠ "" := by
  intro h
  have hparts : (base.join child).parts = base.parts ++ child.parts := parts_join hchild
  rw [h, parts_empty] at hparts
  exact hbase (parts_eq_nil_iff.mp (List.append_eq_nil_iff.mp hparts.symm).1)

/-- The path begins with something, and not with a dot. -/
def Undotted (path : Path) : Prop := path ≠ "" ∧ ¬ path.Dotted

theorem Undotted.join {base child : Path} (h : base.Undotted) (hchild : child.isAbsolute = false) :
    (base.join child).Undotted := by
  refine ⟨join_ne_empty h.1 hchild, ?_⟩
  rw [dotted_iff, head?_parts_join h.1 hchild, ← dotted_iff]
  exact h.2

theorem undotted_of_not_mem {text : String} (h : '/' ∉ text.toList) (hne : text ≠ "")
    (hdot : text.toList ≠ ['.']) : Undotted text := by
  refine ⟨hne, ?_⟩
  rw [dotted_iff, parts_of_not_mem h hne]
  exact fun heq => hdot (Option.some.inj heq)

theorem IsName.undotted {text : String} (h : IsName text) : Undotted text :=
  undotted_of_not_mem h.1 h.ne_empty h.toList_ne.2.1

end MapLint.Path
