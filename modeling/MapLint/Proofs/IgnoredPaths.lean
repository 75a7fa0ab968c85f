import MapLint.Proofs.PatternPaths
import MapLint.Proofs.ScannedFiles

/-!
# Ignored paths

A plain path that is to be ignored is seen from the base directory, and a file is left out if that path
leads to or above it, component by component. A dot in front is a component. So the comparison tells
where the two lead only if both are spelled with such a dot or both without it. Files that are found
from the base directory or from a plain include begin as the base does; those that a pattern stands for
have lost the dot.

## Architecture

- `KeepsDot` says of a base and its includes that no dot is lost;
- `RootOf.dotted_iff` and `dotted_iff_of_mem_scan` say how roots and files begin then;
- `plain_ignores_honoured` is the result, by ways and, where there are no links, by locations;
- `ignored_directory_scanned` is a scan in which a pattern loses the dot and a directory is not ignored.
-/

namespace MapLint

/-- A path leads to the place of another path or to a place below it. -/
def FileTree.LeadsBelow (top : FileTree) (path file : Path) : Prop :=
  ∃ place location tree sub, top.locate path = .ok (place, tree) ∧
    top.locate file = .ok (location, sub) ∧ place <+: location

/-- No dot in front of the base directory is lost: either no include is a pattern, or there is none. -/
def KeepsDot (base : Path) (includes : List String) : Prop :=
  (∀ text ∈ includes, Glob.isPattern text = false) ∨
    ∀ part ∈ base.parts.head?, Glob.mayBeDots part = false

variable {top : FileTree} {base root file : Path} {includes ignores : List String}
  {ignoreTestFiles : Bool} {text : String}

/-! ## How files begin -/

theorem isAbsolute_of_join_not_rooted (h : ¬ (base.join text).Rooted) :
    Path.isAbsolute text = false := by
  by_contra habs
  rw [Bool.not_eq_false] at habs
  rw [Path.join_of_isAbsolute habs] at h
  exact h (Path.rooted_of_isAbsolute habs)

theorem dotted_join_iff (hbase : base ≠ "") (h : ¬ (base.join text).Rooted) :
    (base.join text).Dotted ↔ base.Dotted := by
  rw [Path.dotted_iff, Path.dotted_iff,
    Path.head?_parts_join hbase (isAbsolute_of_join_not_rooted h)]

/-- Where no dot is lost, a relative root begins with a dot if the base directory does. -/
theorem RootOf.dotted_iff (hnamed : top.wellNamed = true) (hbase : base ≠ "")
    (hkeeps : KeepsDot base includes) (h : RootOf top base includes root) (hroot : ¬ root.Rooted) :
    root.Dotted ↔ base.Dotted := by
  cases h with
  | base hnone heq => rw [heq]
  | plain text htext hplain heq =>
    rw [heq] at hroot ⊢
    exact dotted_join_iff hbase hroot
  | found text htext hpattern paths hpaths hmem =>
    have hdots : ∀ part ∈ base.parts.head?, Glob.mayBeDots part = false := by
      refine hkeeps.resolve_left fun hplain => ?_
      rw [hplain text htext] at hpattern
      cases hpattern
    have hfirst : ∀ part ∈ (base.join text).parts.head?, Glob.mayBeDots part = false := by
      cases habs : Path.isAbsolute text with
      | false =>
        rw [Path.head?_parts_join hbase habs]
        exact hdots
      | true =>
        rw [Path.join_of_isAbsolute habs, Path.head?_parts_of_isAbsolute habs]
        rintro part ⟨⟩
        rfl
    have hundotted := Glob.undotted_of_mem_expand hnamed hpaths hmem hfirst
    refine iff_of_false hundotted.2 fun hdot => ?_
    have hdot' := hdots _ (Path.dotted_iff.mp hdot)
    cases hdot'

theorem dotted_iff_of_mem_scan (hnamed : top.wellNamed = true) (hbase : base ≠ "")
    (hkeeps : KeepsDot base includes)
    (hfile : file ∈ (scan top base includes ignores ignoreTestFiles).files)
    (hrelative : ¬ file.Rooted) : file.Dotted ↔ base.Dotted := by
  obtain ⟨-, -, root, hroot, files, hfiles, hmem⟩ := mem_scan_iff.mp hfile
  obtain ⟨hne, names, hnames, rfl⟩ := exists_names_of_scanRoot hnamed hfiles hmem
  -- the names below a root are at the end of the spelling
  have hhead := Path.head?_parts_descend hnames hne
  rw [Path.Rooted, Path.head?_components, hhead, ← Path.head?_components] at hrelative
  rw [Path.dotted_iff, hhead, ← Path.dotted_iff]
  exact (rootOf_of_mem_roots hroot).dotted_iff hnamed hbase hkeeps hrelative

/-! ## The result -/

/-- Where no dot is lost, a scan finds no file that a plain ignored path leads to or above. This is so
for the ways that the two are spelled; where there are no links, and no way goes up, also for the
places they lead to. Paths are seen from the working directory, so an absolute base directory is not covered:
nothing is found below it. -/
theorem plain_ignores_honoured (hnamed : top.wellNamed = true) (hbase : base ≠ "")
    (hkeeps : KeepsDot base includes) (htext : text ∈ ignores)
    (hplain : Glob.isPattern text = false)
    (hfile : file ∈ (scan top base includes ignores ignoreTestFiles).files) :
    ¬ (base.join text).steps <+: file.steps ∧
      (top.linkless = true → Component.up ∉ (base.join text).components →
        Component.up ∉ file.components → ¬ top.LeadsBelow (base.join text) file) := by
  have hways : ¬ (base.join text).steps <+: file.steps := by
    intro hprefix
    have hignored := (mem_scan_iff.mp hfile).2.1
    have hroots := Path.rooted_iff_of_steps_prefix hprefix
    refine not_prefix_of_not_ignores htext hplain hignored
      (Path.components_prefix_of_steps_prefix ?_ hprefix)
    by_cases hroot : file.Rooted
    · exact iff_of_false (hroots.mpr hroot).not_dotted hroot.not_dotted
    · rw [dotted_join_iff hbase (mt hroots.mp hroot),
        dotted_iff_of_mem_scan hnamed hbase hkeeps hfile hroot]
  refine ⟨hways, ?_⟩
  rintro hlinks hup hupFile ⟨place, location, tree, sub, hplace, hlocation, hbelow⟩
  refine hways ?_
  rw [FileTree.steps_of_locate hlinks hup hplace,
    FileTree.steps_of_locate hlinks hupFile hlocation]
  exact List.cons_prefix_cons.mpr ⟨rfl, hbelow.map _⟩

/-- A project with a script, and one in a directory that is not its own. -/
def vendoredProject : FileTree :=
  .dir [.mk "src" (.dir [.mk "app.js" (.file (.text [])),
    .mk "vendor" (.dir [.mk "lib.js" (.file (.text []))])])]

theorem plain_ignores_honoured_vendored :
    (scan vendoredProject "src" ["*"] ["vendor"] false).files = ["src/app.js"] ∧
      ¬ vendoredProject.LeadsBelow "src/vendor" "src/app.js" := by
  have hfiles : (scan vendoredProject "src" ["*"] ["vendor"] false).files = ["src/app.js"] := by
    decide +kernel
  refine ⟨hfiles, ?_⟩
  have hkeeps : KeepsDot "src" ["*"] := .inr (by rintro part ⟨⟩; decide)
  have hfile : "src/app.js" ∈ (scan vendoredProject "src" ["*"] ["vendor"] false).files := by
    rw [hfiles]
    exact List.mem_singleton_self _
  exact (plain_ignores_honoured (by decide +kernel) (by decide) hkeeps
    (List.mem_singleton_self "vendor") (by decide) hfile).2 (by decide +kernel) (by decide)
    (by decide)

/-- From the directory `.` the same pattern loses the dot, and what is in the ignored directory is
found. -/
theorem ignored_directory_scanned :
    (scan vendoredProject "." ["*"] ["src/vendor"] false).files =
        ["src/app.js", "src/vendor/lib.js"] ∧
      (Path.join "." "src/vendor").steps <+: Path.steps "src/vendor/lib.js" ∧
      vendoredProject.LeadsBelow (Path.join "." "src/vendor") "src/vendor/lib.js" := by
  refine ⟨by decide +kernel, by decide, ?_⟩
  exact ⟨["src", "vendor"], ["src", "vendor", "lib.js"], _, _, rfl, rfl, by decide⟩

end MapLint
