import MapLint.Project.Config
import MapLint.Proofs.ParentPaths

/-!
# The nearest configuration

The search for a configuration goes from a directory to its parent until a file is found, the root of a
repository is met, or there is no parent. It goes by the spelling of the path alone and asks of each directory
whether two files are there, so it is looked at here for any answers to such questions.

## Architecture

- `Path.above` is a directory so many steps further up, without a bound, and `exists_height` says where these
  end;
- `SearchEnds` is the search round by round, as a relation that says nothing of an end, and `exists_searchEnds`
  gives it one;
- `NearestConfig` is the directory that the search is for, said without the search;
- `searchConfig_eq` is one round of the search and `nearestConfig_iff` one step towards that directory;
  `SearchEnds.eq_some_iff` goes along all rounds, and `nearest_config_found` puts these together.
-/

namespace MapLint

/-! ## The directories above -/

/-- The directory so many steps above another one. -/
def Path.above : Nat → Path → Option Path
  | 0, path => some path
  | k + 1, path => path.parent?.bind (above k)

namespace Path

variable {path parent dir : Path} {k : Nat}

theorem above_succ (h : path.parent? = some parent) (k : Nat) : path.above (k + 1) = parent.above k := by
  rw [above, h, Option.bind_some]

theorem above_succ_of_none (h : path.parent? = none) (k : Nat) : path.above (k + 1) = none := by
  rw [above, h, Option.bind_none]

/-- A directory further up is spelled as the beginning of the path, and has its first components. -/
theorem components_above (h : path.above k = some dir) : dir.toList <+: path.toList ∧
    dir.components = path.components.take (path.components.length - k) := by
  induction k generalizing path with
  | zero =>
    obtain rfl := Option.some.inj h
    exact ⟨List.prefix_refl _, List.take_length.symm⟩
  | succ k ih =>
    cases hparent : path.parent? with
    | none =>
      rw [above_succ_of_none hparent] at h
      cases h
    | some parent =>
      rw [above_succ hparent] at h
      obtain ⟨hbegins, htake⟩ := ih h
      refine ⟨hbegins.trans (components_eq_of_parent? hparent).2, ?_⟩
      have hparts := components_parent? hparent
      rw [List.dropLast_eq_take] at hparts
      rw [htake, hparts, List.take_take, List.length_take]
      congr 1
      omega

/-- There are no more directories above a path than it has components; the last of them is the root or the
empty path. -/
theorem exists_height (path : Path) : ∃ height ≤ path.components.length,
    (∀ k, (path.above k).isSome = true ↔ k ≤ height) ∧
      ∀ dir, path.above height = some dir → dir = "" ∨ dir.components = [.root] := by
  induction path using upwards with
  | last path hlast =>
    refine ⟨0, Nat.zero_le _, fun k => ?_, fun dir hdir => ?_⟩
    · cases k with
      | zero => exact iff_of_true rfl (Nat.le_refl 0)
      | succ k =>
        rw [above_succ_of_none hlast]
        simp
    · obtain rfl := Option.some.inj hdir
      exact parent?_eq_none_iff.mp hlast
  | up path parent hparent ih =>
    obtain ⟨height, hle, hchain, hend⟩ := ih
    have hlength := length_components_of_parent? hparent
    refine ⟨height + 1, by omega, fun k => ?_, fun dir hdir => ?_⟩
    · cases k with
      | zero => exact iff_of_true rfl (Nat.zero_le _)
      | succ k =>
        rw [above_succ hparent, hchain k]
        exact Nat.succ_le_succ_iff.symm
    · rw [above_succ hparent] at hdir
      exact hend dir hdir

end Path

/-! ## The list that is searched -/

section Ancestors

variable {path parent : Path} {m n : Nat}

theorem ancestors_of_none (h : path.parent? = none) (n : Nat) : ancestors n path = [path] := by
  cases n with
  | zero => rfl
  | succ n => rw [ancestors, h]

/-- The bound on the number of directories does not matter if it is as large as the spelling is long. -/
theorem ancestors_eq_of_length_le (hm : path.length ≤ m) (hn : path.length ≤ n) :
    ancestors m path = ancestors n path := by
  induction m generalizing path n with
  | zero =>
    have hempty : path = "" := String.length_eq_zero_iff.mp (Nat.le_zero.mp hm)
    have hnone := Path.parent?_eq_none_iff.mpr (.inl hempty)
    rw [ancestors_of_none hnone, ancestors_of_none hnone]
  | succ m ih =>
    cases hparent : path.parent? with
    | none => rw [ancestors_of_none hparent, ancestors_of_none hparent]
    | some parent =>
      have hshorter := Path.length_parent?_lt hparent
      cases n with
      | zero => omega
      | succ n =>
        rw [ancestors, ancestors, hparent]
        exact congrArg (path :: ·) (ih (by omega) (by omega))

theorem ancestors_of_parent? (h : path.parent? = some parent) :
    ancestors path.length path = path :: ancestors parent.length parent := by
  have hshorter := Path.length_parent?_lt h
  obtain ⟨n, hn⟩ : ∃ n, path.length = n + 1 := ⟨path.length - 1, by omega⟩
  rw [hn, ancestors, h]
  exact congrArg (path :: ·) (ancestors_eq_of_length_le (by omega) (Nat.le_refl _))

end Ancestors

/-! ## The search -/

section Search

variable {there : Path → Bool} {start dir parent file : Path} {answer : Option Path} {k rounds : Nat}

/-- One round of the search. -/
theorem searchConfig_eq (there : Path → Bool) (dir : Path) :
    searchConfig there dir =
      if there (dir.join configFileName) then some (dir.join configFileName)
      else if there (dir.join ".git") then none
      else dir.parent?.bind (searchConfig there) := by
  cases hparent : dir.parent? with
  | none => rw [searchConfig, ancestors_of_none hparent, firstConfig, firstConfig, Option.bind_none]
  | some parent =>
    rw [searchConfig, ancestors_of_parent? hparent, firstConfig, Option.bind_some, searchConfig]

/-- The search from a directory ends after so many rounds with an answer. -/
inductive SearchEnds (there : Path → Bool) : Path → Nat → Option Path → Prop
  | found {dir : Path} (config : there (dir.join configFileName) = true) :
    SearchEnds there dir 1 (some (dir.join configFileName))
  | repository {dir : Path} (config : there (dir.join configFileName) = false)
    (git : there (dir.join ".git") = true) : SearchEnds there dir 1 none
  | top {dir : Path} (config : there (dir.join configFileName) = false)
    (git : there (dir.join ".git") = false) (last : dir.parent? = none) : SearchEnds there dir 1 none
  | up {dir parent : Path} {rounds : Nat} {answer : Option Path}
    (config : there (dir.join configFileName) = false) (git : there (dir.join ".git") = false)
    (next : dir.parent? = some parent) (rest : SearchEnds there parent rounds answer) :
    SearchEnds there dir (rounds + 1) answer

/-- Only one answer can come of the rounds. -/
theorem SearchEnds.eq_searchConfig (h : SearchEnds there dir rounds answer) :
    answer = searchConfig there dir := by
  induction h with
  | found config => rw [searchConfig_eq, if_pos config]
  | repository config git => rw [searchConfig_eq, if_neg (by simp [config]), if_pos git]
  | top config git last =>
    rw [searchConfig_eq, if_neg (by simp [config]), if_neg (by simp [git]), last, Option.bind_none]
  | up config git next rest ih =>
    rw [searchConfig_eq, if_neg (by simp [config]), if_neg (by simp [git]), next, Option.bind_some, ih]

/-- A round ends the search unless neither file is there. -/
theorem searchEnds_or_open (there : Path → Bool) (dir : Path) :
    (∃ answer, SearchEnds there dir 1 answer) ∨
      there (dir.join configFileName) = false ∧ there (dir.join ".git") = false := by
  cases hconfig : there (dir.join configFileName) with
  | true => exact .inl ⟨_, .found hconfig⟩
  | false =>
    cases hgit : there (dir.join ".git") with
    | true => exact .inl ⟨_, .repository hconfig hgit⟩
    | false => exact .inr ⟨rfl, rfl⟩

/-- The rounds come to an end, one for each component at most and one more. -/
theorem exists_searchEnds (there : Path → Bool) (start : Path) :
    ∃ rounds ≤ start.components.length + 1, SearchEnds there start rounds (searchConfig there start) := by
  have hends : ∃ rounds ≤ start.components.length + 1, ∃ answer, SearchEnds there start rounds answer := by
    induction start using Path.upwards with
    | last start hlast =>
      rcases searchEnds_or_open there start with ⟨answer, hends⟩ | ⟨hconfig, hgit⟩
      · exact ⟨1, by omega, answer, hends⟩
      · exact ⟨1, by omega, none, .top hconfig hgit hlast⟩
    | up start parent hparent ih =>
      rcases searchEnds_or_open there start with ⟨answer, hends⟩ | ⟨hconfig, hgit⟩
      · exact ⟨1, by omega, answer, hends⟩
      · obtain ⟨rounds, hle, answer, hrest⟩ := ih
        have hlength := Path.length_components_of_parent? hparent
        exact ⟨rounds + 1, by omega, answer, .up hconfig hgit hparent hrest⟩
  obtain ⟨rounds, hle, answer, hends⟩ := hends
  exact ⟨rounds, hle, hends.eq_searchConfig ▸ hends⟩

/-! ## The nearest directory with a configuration -/

/-- The directory `k` steps above `start` holds a configuration, and below it there is none, nor the root of a
repository. -/
structure NearestConfig (there : Path → Bool) (start : Path) (k : Nat) (dir : Path) : Prop where
  above : start.above k = some dir
  holds : there (dir.join configFileName) = true
  below : ∀ j < k, ∀ lower, start.above j = some lower →
    there (lower.join configFileName) = false ∧ there (lower.join ".git") = false

/-- The nearest directory is the one at the beginning, or nothing is found there and it is that of the
parent. -/
theorem nearestConfig_iff : NearestConfig there start k dir ↔
    (k = 0 ∧ dir = start ∧ there (start.join configFileName) = true) ∨
      ∃ j parent, k = j + 1 ∧ start.parent? = some parent ∧ there (start.join configFileName) = false ∧
        there (start.join ".git") = false ∧ NearestConfig there parent j dir := by
  constructor
  · rintro ⟨habove, hholds, hbelow⟩
    cases k with
    | zero =>
      obtain rfl := Option.some.inj habove
      exact .inl ⟨rfl, rfl, hholds⟩
    | succ j =>
      obtain ⟨hconfig, hgit⟩ := hbelow 0 (Nat.succ_pos j) start rfl
      cases hparent : start.parent? with
      | none =>
        rw [Path.above_succ_of_none hparent] at habove
        cases habove
      | some parent =>
        rw [Path.above_succ hparent] at habove
        refine .inr ⟨j, parent, rfl, rfl, hconfig, hgit, habove, hholds, fun i hi lower hlower => ?_⟩
        rw [← Path.above_succ hparent] at hlower
        exact hbelow (i + 1) (Nat.succ_lt_succ hi) lower hlower
  · rintro (⟨rfl, rfl, hholds⟩ | ⟨j, parent, rfl, hparent, hconfig, hgit, habove, hholds, hbelow⟩)
    · exact ⟨rfl, hholds, fun i hi => absurd hi (Nat.not_lt_zero i)⟩
    · rw [← Path.above_succ hparent] at habove
      refine ⟨habove, hholds, fun i hi lower hlower => ?_⟩
      cases i with
      | zero =>
        obtain rfl := Option.some.inj hlower
        exact ⟨hconfig, hgit⟩
      | succ i =>
        rw [Path.above_succ hparent] at hlower
        exact hbelow i (Nat.lt_of_succ_lt_succ hi) lower hlower

/-- A search that ends has found the configuration of the nearest directory. Induction on its rounds. -/
theorem SearchEnds.eq_some_iff (h : SearchEnds there start rounds answer) : answer = some file ↔
    ∃ k dir, NearestConfig there start k dir ∧ file = dir.join configFileName := by
  induction h with
  | @found start config =>
    rw [Option.some.injEq]
    constructor
    · rintro rfl
      exact ⟨0, start, nearestConfig_iff.mpr (.inl ⟨rfl, rfl, config⟩), rfl⟩
    · rintro ⟨k, dir, hnearest, rfl⟩
      rcases nearestConfig_iff.mp hnearest with ⟨-, rfl, -⟩ | ⟨_, _, -, -, hconfig, -, -⟩
      · rfl
      · exact absurd (hconfig.symm.trans config) Bool.false_ne_true
  | repository config git =>
    refine iff_of_false (Option.some_ne_none file).symm ?_
    rintro ⟨k, dir, hnearest, -⟩
    rcases nearestConfig_iff.mp hnearest with ⟨-, -, hholds⟩ | ⟨_, _, -, -, -, hgit, -⟩
    · exact absurd (config.symm.trans hholds) Bool.false_ne_true
    · exact absurd (hgit.symm.trans git) Bool.false_ne_true
  | top config git last =>
    refine iff_of_false (Option.some_ne_none file).symm ?_
    rintro ⟨k, dir, hnearest, -⟩
    rcases nearestConfig_iff.mp hnearest with ⟨-, -, hholds⟩ | ⟨_, _, -, hparent, -, -, -⟩
    · exact absurd (config.symm.trans hholds) Bool.false_ne_true
    · exact absurd (last.symm.trans hparent) (Option.some_ne_none _).symm
  | @up start parent rounds answer config git next rest ih =>
    rw [ih]
    constructor
    · rintro ⟨k, dir, hnearest, hfile⟩
      exact ⟨k + 1, dir, nearestConfig_iff.mpr (.inr ⟨k, parent, rfl, next, config, git, hnearest⟩), hfile⟩
    · rintro ⟨k, dir, hnearest, hfile⟩
      rcases nearestConfig_iff.mp hnearest with ⟨-, -, hholds⟩ | ⟨j, _, -, hparent, -, -, hrest⟩
      · exact absurd (config.symm.trans hholds) Bool.false_ne_true
      · obtain rfl := Option.some.inj (next.symm.trans hparent)
        exact ⟨j, dir, hrest, hfile⟩

theorem searchConfig_eq_some_iff : searchConfig there start = some file ↔
    ∃ k dir, NearestConfig there start k dir ∧ file = dir.join configFileName := by
  obtain ⟨rounds, -, hends⟩ := exists_searchEnds there start
  exact hends.eq_some_iff

end Search

/-- The configuration that is found is the nearest one inside the repository. The directories above a path are
finitely many, each spelled as the beginning of the path with its first components, and the last one is the root
or the empty path. The search goes through them in at most so many rounds, and only one answer can come of it:
the file of the first directory that has one, if no directory before it is the root of a repository, and no file
if there is no such directory. A directory that is the root of a repository and has a file yields that. -/
theorem nearest_config_found (there : Path → Bool) (start : Path) :
    (∃ height ≤ start.components.length, (∀ k, (start.above k).isSome = true ↔ k ≤ height) ∧
      ∀ dir, start.above height = some dir → dir = "" ∨ dir.components = [.root]) ∧
    (∀ k dir, start.above k = some dir → dir.toList <+: start.toList ∧
      dir.components = start.components.take (start.components.length - k)) ∧
    (∃ rounds ≤ start.components.length + 1,
      SearchEnds there start rounds (searchConfig there start)) ∧
    (∀ rounds answer, SearchEnds there start rounds answer → answer = searchConfig there start) ∧
    (∀ file, searchConfig there start = some file ↔
      ∃ k dir, NearestConfig there start k dir ∧ file = dir.join configFileName) ∧
    (searchConfig there start = none ↔ ¬ ∃ k dir, NearestConfig there start k dir) ∧
    (∀ k dir, NearestConfig there start k dir → there (dir.join ".git") = true →
      searchConfig there start = some (dir.join configFileName)) ∧
    ∀ top : FileTree, top.leadsSomewhere = there → findConfig top start = searchConfig there start := by
  refine ⟨start.exists_height, fun k dir => Path.components_above, exists_searchEnds there start,
    fun rounds answer => SearchEnds.eq_searchConfig, fun file => searchConfig_eq_some_iff, ?_,
    fun k dir hnearest _ => searchConfig_eq_some_iff.mpr ⟨k, dir, hnearest, rfl⟩, ?_⟩
  · rw [Option.eq_none_iff_forall_ne_some]
    constructor
    · rintro hnone ⟨k, dir, hnearest⟩
      exact hnone _ (searchConfig_eq_some_iff.mpr ⟨k, dir, hnearest, rfl⟩)
    · rintro hnone file hfile
      obtain ⟨k, dir, hnearest, -⟩ := searchConfig_eq_some_iff.mp hfile
      exact hnone ⟨k, dir, hnearest⟩
  · rintro top rfl
    rfl

/-- A package with a configuration, which is the root of a repository, in a directory with another one. -/
def nestedPackage : FileTree :=
  .dir [.mk configFileName (.file (.text [])),
    .mk "pkg" (.dir [.mk ".git" (.dir []), .mk configFileName (.file (.text [])), .mk "src" (.dir [])])]

/-- The configuration of the package counts for its directories, and the one around it does not. -/
theorem nearest_config_found_package :
    NearestConfig nestedPackage.leadsSomewhere "pkg/./src//" 1 "pkg" ∧
      nestedPackage.leadsSomewhere (Path.join "pkg" ".git") = true ∧
      findConfig nestedPackage "pkg/./src//" = some "pkg/.nativemaprc.json" := by
  have hnearest : NearestConfig nestedPackage.leadsSomewhere "pkg/./src//" 1 "pkg" := by
    refine ⟨by decide +kernel, by decide +kernel, fun j hj lower hlower => ?_⟩
    obtain rfl : j = 0 := by omega
    obtain rfl := Option.some.inj hlower
    exact ⟨by decide +kernel, by decide +kernel⟩
  have hgit : nestedPackage.leadsSomewhere (Path.join "pkg" ".git") = true := by decide +kernel
  have hfile : Path.join "pkg" configFileName = "pkg/.nativemaprc.json" := by decide +kernel
  obtain ⟨-, -, -, -, -, -, hboth, htree⟩ :=
    nearest_config_found nestedPackage.leadsSomewhere "pkg/./src//"
  refine ⟨hnearest, hgit, ?_⟩
  rw [htree nestedPackage rfl, hboth 1 "pkg" hnearest hgit, hfile]

end MapLint
