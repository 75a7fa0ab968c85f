import Mathlib.Data.List.TakeWhile
import MapLint.Proofs.PathParts

/-!
# The parent of a path

The parent of a path is found on its spelling: parts are cut off its end, slashes and dots that are no
components along with them. What is cut off comes to the last component, neither more nor less. So a path has a
parent unless it is empty or leads to the root, and the way upwards is as long as the path has components.

## Architecture

- `bodyComponents` reads the components off a spelling that is written backwards, as the cutting does, and
  `bodyComponents_eq` is one part of it;
- `CutAt` says that something was cut off at a slash, so that the beginning of the spelling means what it meant
  before (`CutAt.cutLead_append`);
- `parent?_cases` is all that there is to know: no parent, or one component less;
- `upwards` is the induction that follows the parents.
-/

namespace MapLint.Path

/-! ## Components of a spelling written backwards -/

/-- The components of what follows the lead of a path, written backwards. -/
def bodyComponents (reversed : List Char) : List Component :=
  (splitSlashes reversed.reverse).filterMap component?

/-- The component of the last part of a path, the part written backwards. -/
def endComponent? (reversed : List Char) : Option Component :=
  component? (reversed.takeWhile (· != '/')).reverse

/-- A text is its first part, or that and a slash and the rest. -/
theorem dropPart_cases (reversed : List Char) :
    (reversed.takeWhile (· != '/') = reversed ∧ dropPart reversed = []) ∨
      reversed = reversed.takeWhile (· != '/') ++ '/' :: dropPart reversed := by
  have hsplit : reversed.takeWhile (· != '/') ++ reversed.dropWhile (· != '/') = reversed :=
    List.takeWhile_append_dropWhile
  unfold dropPart
  cases hrest : reversed.dropWhile (· != '/') with
  | nil =>
    rw [hrest, List.append_nil] at hsplit
    exact .inl ⟨hsplit, rfl⟩
  | cons c rest =>
    have hslash : c = '/' := by
      have hhead := List.head?_dropWhile_not (· != '/') reversed
      rw [hrest] at hhead
      simpa using hhead
    rw [hrest, hslash] at hsplit
    exact .inr hsplit.symm

theorem not_mem_takeWhile_reverse (reversed : List Char) :
    '/' ∉ (reversed.takeWhile (· != '/')).reverse := by
  intro hmem
  have := List.mem_takeWhile_imp (List.mem_reverse.mp hmem)
  simp at this

/-- One part at the end of a spelling is one component or none. -/
theorem bodyComponents_eq (reversed : List Char) :
    bodyComponents reversed = bodyComponents (dropPart reversed) ++ (endComponent? reversed).toList := by
  have hpart := splitSlashes_of_not_mem (not_mem_takeWhile_reverse reversed)
  have hlast : [(reversed.takeWhile (· != '/')).reverse].filterMap component? =
      (endComponent? reversed).toList := by
    unfold endComponent?
    cases hc : component? (reversed.takeWhile (· != '/')).reverse <;> simp [hc]
  rcases dropPart_cases reversed with ⟨hall, hnil⟩ | hcut
  · rw [hall] at hpart hlast
    rw [hnil, bodyComponents, hpart, hlast]
    rfl
  · have hsplit : splitSlashes reversed.reverse = splitSlashes (dropPart reversed).reverse ++
        [(reversed.takeWhile (· != '/')).reverse] := by
      have hreverse : reversed.reverse =
          (dropPart reversed).reverse ++ '/' :: (reversed.takeWhile (· != '/')).reverse := by
        rw [congrArg List.reverse hcut]
        simp
      rw [hreverse, splitSlashes_append_slash, hpart]
    rw [bodyComponents, hsplit, List.filterMap_append, hlast, bodyComponents]

theorem endComponent?_ne_root (reversed : List Char) : endComponent? reversed ≠ some .root := by
  unfold endComponent? component?
  split
  · exact (Option.some_ne_none _).symm
  · split <;> simp

theorem length_dropPart_lt {reversed : List Char} (h : reversed ≠ []) :
    (dropPart reversed).length < reversed.length := by
  have hpos := List.length_pos_iff.mpr h
  rcases dropPart_cases reversed with ⟨-, hnil⟩ | hcut
  · rw [hnil]
    exact hpos
  · have hlength := congrArg List.length hcut
    rw [List.length_append, List.length_cons] at hlength
    omega

/-- The parts that are dropped as idle are those that are no components. -/
theorem endComponent?_eq_none_iff (reversed : List Char) :
    endComponent? reversed = none ↔
      reversed.takeWhile (· != '/') = [] ∨ reversed.takeWhile (· != '/') = ['.'] := by
  have hdot : ∀ part : List Char, part.reverse = ['.'] ↔ part = ['.'] := fun part => by
    rw [List.reverse_eq_iff]
    rfl
  unfold endComponent? component?
  split
  case isTrue h => simpa [hdot] using h
  case isFalse h =>
    have hbusy : ¬ (reversed.takeWhile (· != '/') = [] ∨ reversed.takeWhile (· != '/') = ['.']) := by
      simpa [hdot] using h
    split <;> exact iff_of_false (Option.some_ne_none _) hbusy

/-- Dropping idle parts drops no component. Induction on the number of parts that may be dropped. -/
theorem bodyComponents_dropIdleParts (n : Nat) (reversed : List Char) :
    bodyComponents (dropIdleParts n reversed) = bodyComponents reversed := by
  induction n generalizing reversed with
  | zero => rfl
  | succ n ih =>
    unfold dropIdleParts
    dsimp only
    split
    case isFalse => rfl
    case isTrue hidle =>
      simp only [Bool.and_eq_true, Bool.or_eq_true, decide_eq_true_eq] at hidle
      have hnone := (endComponent?_eq_none_iff reversed).mpr hidle.2
      rw [ih, bodyComponents_eq reversed, hnone, Option.toList_none, List.append_nil]

/-- Enough of them dropped, nothing is left or a component stands at the end. -/
theorem dropIdleParts_eq_nil_or {n : Nat} {reversed : List Char} (h : reversed.length ≤ n) :
    dropIdleParts n reversed = [] ∨ ∃ c, endComponent? (dropIdleParts n reversed) = some c := by
  induction n generalizing reversed with
  | zero =>
    left
    exact List.length_eq_zero_iff.mp (Nat.le_zero.mp h)
  | succ n ih =>
    unfold dropIdleParts
    dsimp only
    split
    case isTrue hidle =>
      simp only [Bool.and_eq_true, decide_eq_true_eq] at hidle
      have hshorter := length_dropPart_lt hidle.1
      exact ih (by omega)
    case isFalse hbusy =>
      by_cases hnil : reversed = []
      · exact .inl hnil
      · right
        rw [← Option.ne_none_iff_exists', ne_eq, endComponent?_eq_none_iff]
        simpa [hnil] using hbusy

/-! ## Cutting at slashes -/

/-- What is left of a text, both written backwards, when parts are cut off at its end. -/
def CutAt (reversed rest : List Char) : Prop := rest = [] ∨ ∃ part, reversed = part ++ '/' :: rest

theorem CutAt.trans {as bs cs : List Char} (h : CutAt as bs) (h' : CutAt bs cs) : CutAt as cs := by
  rcases h' with hnil | ⟨part', rfl⟩
  · exact .inl hnil
  · rcases h with hnil | ⟨part, rfl⟩
    · exact absurd hnil (List.append_ne_nil_of_right_ne_nil _ (List.cons_ne_nil _ _))
    · exact .inr ⟨part ++ '/' :: part', by simp⟩

theorem cutAt_dropPart (reversed : List Char) : CutAt reversed (dropPart reversed) :=
  (dropPart_cases reversed).imp And.right fun hcut => ⟨_, hcut⟩

theorem dropIdleParts_eq_or_cutAt (n : Nat) (reversed : List Char) :
    dropIdleParts n reversed = reversed ∨ CutAt reversed (dropIdleParts n reversed) := by
  induction n generalizing reversed with
  | zero => exact .inl rfl
  | succ n ih =>
    unfold dropIdleParts
    dsimp only
    split
    case isFalse => exact .inl rfl
    case isTrue =>
      right
      rcases ih (dropPart reversed) with heq | hcut
      · rw [heq]
        exact cutAt_dropPart reversed
      · exact (cutAt_dropPart reversed).trans hcut

/-- What is left when a part is cut off, and idle parts before and behind it. -/
theorem cutAt_dropIdleParts_dropPart (m n : Nat) (reversed : List Char) :
    CutAt reversed (dropIdleParts n (dropPart (dropIdleParts m reversed))) := by
  have hinner : CutAt (dropIdleParts m reversed) (dropIdleParts n (dropPart (dropIdleParts m reversed))) := by
    rcases dropIdleParts_eq_or_cutAt n (dropPart (dropIdleParts m reversed)) with heq | hcut
    · rw [heq]
      exact cutAt_dropPart _
    · exact (cutAt_dropPart _).trans hcut
  rcases dropIdleParts_eq_or_cutAt m reversed with heq | hcut
  · rwa [heq] at hinner ⊢
  · exact hcut.trans hinner

/-! ## The beginning of a spelling -/

/-- The component that a lead stands for. -/
def leadComponents (lead : List Char) : List Component :=
  if lead = ['/'] then [.root] else if lead = ['.'] then [.here] else []

theorem cutLead_append (cs : List Char) : (cutLead cs).1 ++ (cutLead cs).2 = cs := by
  fun_cases cutLead cs <;> rfl

/-- The text goes on with a slash where it was cut. -/
theorem CutAt.exists_more {cs rest : List Char} (h : CutAt cs.reverse rest) :
    rest.reverse = [] ∨ ∃ more, cs = rest.reverse ++ '/' :: more := by
  refine h.imp (fun hnil => by rw [hnil, List.reverse_nil]) fun ⟨part, hpart⟩ => ⟨part.reverse, ?_⟩
  rw [← List.reverse_inj, hpart]
  simp

/-- How a spelling begins is settled in front of its first slash, so cutting parts off does not change it. -/
theorem CutAt.cutLead_append {cs rest : List Char} (h : CutAt (cutLead cs).2.reverse rest) :
    cutLead ((cutLead cs).1 ++ rest.reverse) = ((cutLead cs).1, rest.reverse) := by
  have hfront := h.exists_more
  generalize rest.reverse = front at hfront ⊢
  revert hfront
  fun_cases cutLead cs with
  | case1 rest => exact fun _ => rfl
  | case2 =>
    rintro (rfl | ⟨more, hmore⟩)
    · rfl
    · exact absurd hmore.symm (List.append_ne_nil_of_right_ne_nil _ (List.cons_ne_nil _ _))
  | case3 rest =>
    rintro (rfl | ⟨more, hmore⟩)
    · rfl
    · cases front with
      | nil => rfl
      | cons c front =>
        obtain ⟨rfl, -⟩ := List.cons.inj hmore
        rfl
  | case4 _ hslash hdot hdotSlash =>
    rintro (rfl | ⟨more, hmore⟩)
    · rfl
    · -- a lead of what is left would be one of the whole
      rw [List.nil_append]
      fun_cases cutLead front with
      | case1 rest => exact absurd hmore (hslash _)
      | case2 => exact absurd hmore (hdotSlash more)
      | case3 rest => exact absurd hmore (hdotSlash _)
      | case4 => rfl

theorem components_eq_cutLead (path : Path) :
    path.components =
      leadComponents (cutLead path.toList).1 ++ bodyComponents (cutLead path.toList).2.reverse := by
  unfold components bodyComponents
  generalize path.toList = cs
  rw [List.reverse_reverse]
  fun_cases cutLead cs with
  | case1 rest => simp [splitSlashes, splitSlashes_ne_nil, leadComponents]
  | case2 => simp [splitSlashes, leadComponents, component?]
  | case3 rest => simp [splitSlashes, leadComponents, component?]
  | case4 _ hslash hdot hdotSlash =>
    -- the first part is neither empty nor a dot, unless there is nothing at all
    have hfirst : '/' ∉ cs.takeWhile (· != '/') := fun hmem => by
      simpa using List.mem_takeWhile_imp hmem
    have hparts : ∃ part parts, splitSlashes cs = part :: parts ∧ (part = [] → parts = []) ∧
        part ≠ ['.'] := by
      rcases dropPart_cases cs with ⟨hall, -⟩ | hcut
      · rw [hall] at hfirst
        exact ⟨cs, [], splitSlashes_of_not_mem hfirst, fun _ => rfl, hdot⟩
      · refine ⟨cs.takeWhile (· != '/'), splitSlashes (dropPart cs), ?_, fun hnil => ?_, fun hone => ?_⟩
        · have hsplit := congrArg splitSlashes hcut
          rwa [splitSlashes_append_slash, splitSlashes_of_not_mem hfirst] at hsplit
        · rw [hnil] at hcut
          exact absurd hcut (hslash _)
        · rw [hone] at hcut
          exact absurd hcut (hdotSlash _)
    obtain ⟨part, parts, hsplit, hempty, hnodot⟩ := hparts
    rw [hsplit]
    split
    case h_1 rest hrest =>
      obtain ⟨hnil, rfl⟩ := List.cons.inj hrest
      rw [hempty hnil, hnil]
      rfl
    case h_2 rest hrest => exact absurd (List.cons.inj hrest).1 hnodot
    case h_3 => rfl

/-! ## Going up -/

theorem components_eq_nil_iff {path : Path} : path.components = [] ↔ path = "" := by
  constructor
  · intro h
    rw [components_eq] at h
    rw [← parts_eq_nil_iff]
    cases hparts : path.parts with
    | nil => rfl
    | cons part parts =>
      obtain ⟨c, hc⟩ := exists_lead part
      rw [hparts, componentsOf, hc] at h
      cases h
  · rintro rfl
    rfl

/-- What is left of a path when parts are cut off has the lead of the path and the components that are left. -/
theorem components_of_cutAt {path : Path} {rest : List Char}
    (h : CutAt (cutLead path.toList).2.reverse rest) :
    components (String.ofList ((cutLead path.toList).1 ++ rest.reverse)) =
      leadComponents (cutLead path.toList).1 ++ bodyComponents rest := by
  rw [components_eq_cutLead, String.toList_ofList, h.cutLead_append, List.reverse_reverse]

/-- A path without a parent is empty or leads to the root. Any other one has a parent, with one component less,
and goes on in its spelling where the parent ends. -/
theorem parent?_cases (path : Path) :
    (path.parent? = none ∧ (path = "" ∨ path.components = [.root])) ∨
      ∃ parent c, path.parent? = some parent ∧ path.components = parent.components ++ [c] ∧ c ≠ .root ∧
        ∃ rest, path.toList = parent.toList ++ rest := by
  have hpath := components_eq_cutLead path
  have hspelled := cutLead_append path.toList
  have hidle := bodyComponents_dropIdleParts (cutLead path.toList).2.length (cutLead path.toList).2.reverse
  have henough : (cutLead path.toList).2.reverse.length ≤ (cutLead path.toList).2.length :=
    Nat.le_of_eq List.length_reverse
  have hend := dropIdleParts_eq_nil_or henough
  have hcut := cutAt_dropIdleParts_dropPart (cutLead path.toList).2.length (cutLead path.toList).2.length
    (cutLead path.toList).2.reverse
  rw [← hidle] at hpath
  unfold parent?
  dsimp only
  cases hbody : dropIdleParts (cutLead path.toList).2.length (cutLead path.toList).2.reverse with
  | nil =>
    rw [hbody] at hpath
    by_cases hdot : (cutLead path.toList).1 = ['.']
    · right
      refine ⟨"", .here, if_pos hdot, ?_, by decide, path.toList, rfl⟩
      rw [hpath, hdot]
      rfl
    · left
      refine ⟨if_neg hdot, ?_⟩
      rw [← components_eq_nil_iff, hpath, leadComponents, if_neg hdot]
      split
      · exact .inr rfl
      · exact .inl rfl
  | cons c cs =>
    right
    rw [hbody] at hend hcut hpath
    obtain ⟨last, hlast⟩ := hend.resolve_left (List.cons_ne_nil c cs)
    have hroot : last ≠ .root := fun hroot => endComponent?_ne_root (c :: cs) (hroot ▸ hlast)
    refine ⟨_, last, rfl, ?_, hroot, ?_⟩
    · rw [hpath, components_of_cutAt hcut, bodyComponents_dropIdleParts, bodyComponents_eq (c :: cs), hlast,
        List.append_assoc]
      rfl
    · -- the body goes on where it was cut
      have hmore : ∃ more, (cutLead path.toList).2 =
          (dropIdleParts (cutLead path.toList).2.length (dropPart (c :: cs))).reverse ++ more := by
        rcases hcut.exists_more with hnil | ⟨more, hmore⟩
        · exact ⟨_, by rw [hnil, List.nil_append]⟩
        · exact ⟨_, hmore⟩
      obtain ⟨more, hmore⟩ := hmore
      refine ⟨more, ?_⟩
      rw [String.toList_ofList, List.append_assoc, ← hmore, hspelled]

variable {path parent : Path}

/-- Only the empty path and those that lead to the root have no parent. -/
theorem parent?_eq_none_iff : path.parent? = none ↔ path = "" ∨ path.components = [.root] := by
  rcases parent?_cases path with ⟨hnone, hend⟩ | ⟨parent, c, hsome, hcomponents, hroot, -⟩
  · exact iff_of_true hnone hend
  · refine iff_of_false (by rw [hsome]; exact Option.some_ne_none _) ?_
    rintro (rfl | honly)
    · exact List.append_ne_nil_of_right_ne_nil _ (List.cons_ne_nil c []) hcomponents.symm
    · rw [honly] at hcomponents
      have hlast := congrArg List.getLast? hcomponents
      rw [List.getLast?_concat] at hlast
      exact hroot (Option.some.inj hlast).symm

/-- The last component is missing in the parent, and so is what spells it. -/
theorem components_eq_of_parent? (h : path.parent? = some parent) :
    (∃ c, path.components = parent.components ++ [c]) ∧ parent.toList <+: path.toList := by
  rcases parent?_cases path with ⟨hnone, -⟩ | ⟨_, c, hsome, hcomponents, -, rest, hrest⟩
  · rw [hnone] at h
    cases h
  · obtain rfl := Option.some.inj (hsome.symm.trans h)
    exact ⟨⟨c, hcomponents⟩, rest, hrest.symm⟩

theorem components_parent? (h : path.parent? = some parent) : parent.components = path.components.dropLast := by
  obtain ⟨⟨c, hcomponents⟩, -⟩ := components_eq_of_parent? h
  rw [hcomponents, List.dropLast_concat]

theorem length_components_of_parent? (h : path.parent? = some parent) :
    path.components.length = parent.components.length + 1 := by
  obtain ⟨⟨c, hcomponents⟩, -⟩ := components_eq_of_parent? h
  rw [hcomponents, List.length_append, List.length_singleton]

theorem length_parent?_lt (h : path.parent? = some parent) : parent.length < path.length := by
  obtain ⟨-, hbegins⟩ := components_eq_of_parent? h
  have hlength := hbegins.length_le
  rw [String.length_toList, String.length_toList] at hlength
  refine Nat.lt_of_le_of_ne hlength fun heq => ?_
  -- a parent spelled like the path would have as many components
  have hsame : parent = path := by
    refine String.toList_inj.mp (hbegins.eq_of_length ?_)
    rw [String.length_toList, String.length_toList, heq]
  have hcomponents := length_components_of_parent? h
  rw [hsame] at hcomponents
  omega

/-- Induction upwards: from the parent to the path, beginning with the paths that have no parent. -/
theorem upwards {motive : Path → Prop} (last : ∀ path, path.parent? = none → motive path)
    (up : ∀ path parent, path.parent? = some parent → motive parent → motive path) (path : Path) :
    motive path := by
  -- every step shortens the spelling
  induction hlength : path.length using Nat.strong_induction_on generalizing path with
  | _ length ih =>
    cases hparent : path.parent? with
    | none => exact last path hparent
    | some parent =>
      have hshorter := length_parent?_lt hparent
      exact up path parent hparent (ih parent.length (hlength ▸ hshorter) parent rfl)

end MapLint.Path
