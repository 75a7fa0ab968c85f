import MapLint.Proofs.Locations
import Mathlib.Data.List.Induction

/-!
# What a write changes in a tree

A text is written to the file that a path leads to. What that file holds is all that changes, and
paths lead where they led before; so writes can be made one after the other, and each location holds
in the end what was last written there, or what it held at the start.

## Architecture

- `Item` is what stands at a location, a directory without what is in it; `itemAt?_put` is the frame
  of one change;
- `shapeAt?` leaves out what files hold, too, and `Alike` trees have the same shape everywhere;
  `Alike.resolve_eq` says that components are followed alike in them;
- `EndsAtFile` is a path that leads to a file without a link at its end; `EndsAtFile.writeText_eq` is
  a write under it, and `foldl_writeText` any number of writes.
-/

namespace MapLint.FileTree

/-- What stands at a location, a directory without what is in it. -/
inductive Item where
  | file (content : Content)
  | dir
  | link (target : Path)
deriving DecidableEq

/-- A tree without what is in its directory. -/
def item : FileTree → Item
  | .file content => .file content
  | .dir _ => .dir
  | .link target => .link target

/-- The item at a location. -/
def itemAt? (top : FileTree) (location : List String) : Option Item := (top.at? location).map item

/-- An item without what a file holds. -/
def Item.emptied : Item → Item
  | .file _ => .file (.text [])
  | .dir => .dir
  | .link target => .link target

/-- The shape of a tree at a location: what decides where a path leads. -/
def shapeAt? (top : FileTree) (location : List String) : Option Item :=
  (top.itemAt? location).map Item.emptied

variable {top tree a b : FileTree} {entries : List Entry} {name : String} {content : Content}
  {here place location other : List String} {path : Path}

theorem itemAt?_eq_file_iff :
    top.itemAt? location = some (.file content) ↔ top.at? location = some (.file content) := by
  unfold itemAt?
  cases top.at? location with
  | none => simp
  | some tree => cases tree <;> simp [item]

theorem itemAt?_cons (tree : FileTree) (name : String) (names : List String) :
    tree.itemAt? (name :: names) = (tree.child? name).bind fun child => child.itemAt? names := by
  unfold itemAt?
  rw [at?]
  cases tree.child? name <;> rfl

/-! ## One change -/

theorem child?_set (entries : List Entry) (name other : String) (tree : FileTree) :
    (FileTree.dir (Entry.set entries name tree)).child? other =
      if other = name then some tree else (FileTree.dir entries).child? other := by
  show ((Entry.set entries name tree).find? (·.name == other)).map Entry.tree =
    if other = name then some tree else (entries.find? (·.name == other)).map Entry.tree
  -- the entry that is set, in front of any others
  have hset : ∀ rest : List Entry,
      ((Entry.mk name tree :: rest).find? (·.name == other)).map Entry.tree =
        if other = name then some tree else (rest.find? (·.name == other)).map Entry.tree := by
    intro rest
    by_cases h : other = name
    · rw [if_pos h, List.find?_cons_of_pos (by simp [Entry.name, h])]
      rfl
    · rw [if_neg h, List.find?_cons_of_neg (by simpa [Entry.name] using Ne.symm h)]
  induction entries with
  | nil => exact hset []
  | cons entry entries ih =>
    rw [Entry.set]
    by_cases hname : entry.name = name
    · rw [if_pos hname, hset]
      split
      case isTrue => rfl
      case isFalse h => rw [List.find?_cons_of_neg (by simpa [hname] using Ne.symm h)]
    · rw [if_neg hname]
      by_cases h : entry.name = other
      · have hother : other ≠ name := fun heq => hname (h.trans heq)
        rw [if_neg hother, List.find?_cons_of_pos (by simpa using h),
          List.find?_cons_of_pos (by simpa using h)]
      · rw [List.find?_cons_of_neg (by simpa using h), List.find?_cons_of_neg (by simpa using h), ih]

/-- Where a file is put in the place of a file, nothing else changes. -/
theorem itemAt?_put (h : top.itemAt? location = some (.file content)) (new : Content)
    (other : List String) :
    (top.put location (.file new)).itemAt? other =
      if other = location then some (.file new) else top.itemAt? other := by
  induction location generalizing top other with
  | nil =>
    cases itemAt?_eq_file_iff.mp h
    cases other with
    | nil => rfl
    | cons first rest => rfl
  | cons name names ih =>
    rw [itemAt?_cons] at h
    obtain ⟨child, hchild, hfile⟩ := Option.bind_eq_some_iff.mp h
    obtain ⟨entries, -, rfl, -⟩ := exists_entry_of_child? hchild
    rw [put, hchild, Option.getD_some]
    cases other with
    | nil => rfl
    | cons first rest =>
      rw [itemAt?_cons, itemAt?_cons]
      show ((FileTree.dir (Entry.set entries name _)).child? first).bind _ = _
      rw [child?_set]
      by_cases hfirst : first = name
      · rw [if_pos hfirst, Option.bind_some, ih hfile rest, hfirst, hchild, Option.bind_some]
        simp
      · rw [if_neg hfirst, if_neg (by simp [hfirst])]

/-! ## Trees of one shape -/

/-- Two trees differ at most in what their files hold. -/
def Alike (a b : FileTree) : Prop := ∀ location, a.shapeAt? location = b.shapeAt? location

theorem Alike.refl (a : FileTree) : Alike a a := fun _ => rfl

theorem alike_put (h : top.itemAt? location = some (.file content)) (new : Content) :
    Alike top (top.put location (.file new)) := by
  intro other
  unfold shapeAt?
  rw [itemAt?_put h]
  split
  case isTrue heq =>
    rw [heq, h]
    rfl
  case isFalse => rfl

theorem exists_file_of_shapeAt? (h : top.shapeAt? location = some (.file content)) :
    ∃ held, top.itemAt? location = some (.file held) := by
  obtain ⟨found, hfound, hempty⟩ := Option.map_eq_some_iff.mp h
  cases found with
  | file held => exact ⟨held, hfound⟩
  | dir => cases hempty
  | link target => cases hempty

theorem shapeAt?_of_file (h : top.itemAt? location = some (.file content)) :
    top.shapeAt? location = some (.file (.text [])) := by
  rw [shapeAt?, h]
  rfl

/-- How a name is followed depends on the shape of the tree. -/
theorem advance_name (top : FileTree) (here : List String) (name : String) (rest : List Component) :
    top.advance here (.name name :: rest) =
      if top.shapeAt? here = some .dir then
        match top.shapeAt? (here ++ [name]) with
        | some (.link target) => .ok (.atLink here target rest)
        | some _ => top.advance (here ++ [name]) rest
        | none => .error .notFound
      else .error .notDirectory := by
  rw [advance, shapeAt?, shapeAt?, itemAt?, itemAt?, at?_append]
  cases top.at? here with
  | none => simp
  | some tree =>
    cases tree with
    | file content => simp [item, Item.emptied]
    | link target => simp [item, Item.emptied]
    | dir entries =>
      rw [Option.bind_some, at?]
      dsimp only
      cases hchild : (FileTree.dir entries).child? name with
      | none => simp [item, Item.emptied]
      | some child => cases child <;> simp [item, Item.emptied, at?]

theorem advance_up (top : FileTree) (here : List String) (rest : List Component) :
    top.advance here (.up :: rest) =
      if top.shapeAt? here = some .dir then
        if here = [] then .error .notFound else top.advance here.dropLast rest
      else .error .notDirectory := by
  rw [advance, shapeAt?, itemAt?]
  cases top.at? here with
  | none => simp
  | some tree => cases tree <;> simp [item, Item.emptied]

section Alike

variable (h : Alike a b)

include h

theorem Alike.advance_eq (here : List String) (cs : List Component) :
    a.advance here cs = b.advance here cs := by
  induction cs generalizing here with
  | nil => rfl
  | cons c cs ih =>
    cases c with
    | root => rfl
    | here => exact ih here
    | up => rw [advance_up, advance_up, h here, ih]
    | name name => rw [advance_name, advance_name, h here, h (here ++ [name]), ih]

/-- In trees of one shape components are followed to the same location. -/
theorem Alike.resolve_eq (n : Nat) (here : List String) (cs : List Component) :
    a.resolve n here cs = b.resolve n here cs := by
  induction n generalizing here cs with
  | zero => rw [resolve, resolve, h.advance_eq]
  | succ n ih =>
    rw [resolve, resolve, h.advance_eq]
    simp only [ih]

end Alike

/-! ## Paths that lead to a file -/

/-- A path leads to a file, and its last component is the name of that file, not of a link. -/
structure EndsAtFile (top : FileTree) (path : Path) (location : List String) : Prop where
  place : ∃ front name place, path.components = front ++ [.name name] ∧
    top.resolve maxLinks [] front = .ok place ∧ location = place ++ [name]
  /-- The spelling does not ask for a directory. -/
  spelled : namesDirectory path = false
  file : ∃ content, top.itemAt? location = some (.file content)

theorem EndsAtFile.alike (h : EndsAtFile top path location) (halike : Alike top tree) :
    EndsAtFile tree path location where
  place := by
    obtain ⟨front, name, place, hcomponents, hfront, hlocation⟩ := h.place
    exact ⟨front, name, place, hcomponents, halike.resolve_eq .. ▸ hfront, hlocation⟩
  spelled := h.spelled
  file := by
    obtain ⟨content, hfile⟩ := h.file
    exact exists_file_of_shapeAt? (halike location ▸ shapeAt?_of_file hfile)

theorem EndsAtFile.locate_eq (h : EndsAtFile top path location)
    (hfile : top.itemAt? location = some (.file content)) :
    top.locate path = .ok (location, .file content) := by
  obtain ⟨front, name, place, hcomponents, hfront, rfl⟩ := h.place
  have hat := itemAt?_eq_file_iff.mp hfile
  obtain ⟨entries, hdir, hchild⟩ := exists_dir_of_at?_concat hat
  have hlast : top.advance place [.name name] = .ok (.arrived (place ++ [name])) := by
    rw [advance, hdir]
    dsimp only
    rw [hchild]
    rfl
  have hne : path ≠ "" := by
    rintro rfl
    exact List.cons_ne_nil _ _ (List.append_eq_nil_iff.mp hcomponents.symm).2
  refine locate_eq_ok_iff_resolve.mpr ⟨hne, ?_, hat, ?_⟩
  · rw [hcomponents]
    exact resolve_append hfront hlast
  · intro hdir
    rw [h.spelled] at hdir
    cases hdir

/-- A path leads to one location. -/
theorem EndsAtFile.location_eq (h : EndsAtFile top path location) (h' : EndsAtFile top path other) :
    location = other := by
  obtain ⟨content, hfile⟩ := h.file
  obtain ⟨content', hfile'⟩ := h'.file
  have heq := (h.locate_eq hfile).symm.trans (h'.locate_eq hfile')
  cases heq
  rfl

/-- What is written under a path is put in the place of the file there. -/
theorem EndsAtFile.writeText_eq (h : EndsAtFile top path location) (text : List Char) :
    top.writeText path text = top.put location (.file (.text text)) := by
  obtain ⟨front, name, place, hcomponents, hfront, rfl⟩ := h.place
  obtain ⟨content, hfile⟩ := h.file
  obtain ⟨entries, hdir, hchild⟩ := exists_dir_of_at?_concat (itemAt?_eq_file_iff.mp hfile)
  have hplace : top.writePlace? maxLinks [] path.components = some (place ++ [name]) := by
    rw [writePlace?, hcomponents, List.getLast?_concat, List.dropLast_concat, hfront]
    dsimp only
    rw [hdir]
    dsimp only
    rw [hchild]
  rw [writeText, hplace]

/-! ## Writing again and again -/

/-- After any number of writes paths lead where they led, and every location holds what one of the
writes left there or, if none was made there, what it held before. The induction adds a write at the
end: the last one counts. -/
theorem foldl_writeText {writes : List (Path × List Char)}
    (h : ∀ w ∈ writes, ∃ location, EndsAtFile top w.1 location) :
    let after := writes.foldl (fun top w => top.writeText w.1 w.2) top
    Alike top after ∧ ∀ location,
      (∃ w ∈ writes, EndsAtFile top w.1 location ∧
        after.itemAt? location = some (.file (.text w.2))) ∨
      ((∀ w ∈ writes, ¬ EndsAtFile top w.1 location) ∧
        after.itemAt? location = top.itemAt? location) := by
  induction writes using List.reverseRecOn with
  | nil =>
    exact ⟨.refl top, fun location =>
      .inr ⟨fun w hw => absurd hw List.not_mem_nil, rfl⟩⟩
  | append_singleton writes w ih =>
    obtain ⟨halike, hitems⟩ := ih fun w hw => h w (List.mem_append_left _ hw)
    obtain ⟨place, hplace⟩ := h w (by simp)
    intro after
    have hafter : after = (writes.foldl (fun top w => top.writeText w.1 w.2) top).put place
        (.file (.text w.2)) := by
      show (writes ++ [w]).foldl _ top = _
      rw [List.foldl_append]
      exact (hplace.alike halike).writeText_eq w.2
    obtain ⟨content, hfile⟩ := (hplace.alike halike).file
    refine ⟨fun location => ?_, fun location => ?_⟩
    · rw [halike location, hafter, ← alike_put hfile]
    · rw [hafter, itemAt?_put hfile]
      by_cases hlocation : location = place
      · rw [if_pos hlocation]
        exact .inl ⟨w, by simp, hlocation ▸ hplace, rfl⟩
      · rw [if_neg hlocation]
        rcases hitems location with ⟨w', hw', hends, hitem⟩ | ⟨hnone, hitem⟩
        · exact .inl ⟨w', List.mem_append_left _ hw', hends, hitem⟩
        · refine .inr ⟨fun w' hw' hends => ?_, hitem⟩
          rcases List.mem_append.mp hw' with hw' | hw'
          · exact hnone w' hw' hends
          · rw [List.mem_singleton.mp hw'] at hends
            exact hlocation (hends.location_eq hplace)

end MapLint.FileTree
