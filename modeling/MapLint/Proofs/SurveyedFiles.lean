import MapLint.Command.Run
import MapLint.Proofs.ScannedFiles

/-!
# No file of a survey gets lost

A scan lists files, and what comes of them arrives in any order, is told apart and kept. Here it is
shown that every file is accounted for once, that the order does not matter, and that the status and
the count of a check are read off the same two lists.

## Architecture

- `sourceOf?` and `failureOf?` tell readings apart, and `gather_eq` says that gathering comes to that,
  in whatever order the readings of a sorted list of files arrive;
- `Ask` is a question that may be put at any time; `FileReadings.Holds` is what is known between two
  of them, `ask_holds` the step and `askAll_eq` the run;
- `SurveyOf` says where the parts of a survey come from;
- `checked_files_accounted_for` joins them with what a check says.
-/

namespace MapLint

open MapLint.Script

/-! ## Gathering readings -/

/-- The source of a reading, under its path. -/
def sourceOf? : Reading → Option (Path × Source)
  | (path, .ok source) => some (path, source)
  | (_, .error _) => none

/-- The failure of a reading. -/
def failureOf? : Reading → Option FileFailure
  | (_, .ok _) => none
  | (_, .error failure) => some failure

section Gathering

variable {top : FileTree} {path : Path} {source : Source} {failure : FileFailure} {files : List Path}
  {sources : List (Path × Source)} {arrived : List Reading} {read : ScriptReader}

theorem mem_putSource {entry : Path × Source} (h : entry ∈ putSource path source sources) :
    entry = (path, source) ∨ entry ∈ sources := by
  induction sources with
  | nil => exact .inl (List.mem_singleton.mp h)
  | cons first rest ih =>
    obtain ⟨p, s⟩ := first
    unfold putSource at h
    split at h
    · exact List.mem_cons.mp h
    · split at h
      · exact (List.mem_cons.mp h).imp_right (List.mem_cons_of_mem _)
      · rcases List.mem_cons.mp h with hfirst | hrest
        · exact .inr (hfirst ▸ List.mem_cons_self)
        · exact (ih hrest).imp_right (List.mem_cons_of_mem _)

/-- A source with a new path is added. -/
theorem putSource_perm (h : path ∉ sources.map Prod.fst) :
    (putSource path source sources).Perm ((path, source) :: sources) := by
  induction sources with
  | nil => exact .refl _
  | cons first rest ih =>
    obtain ⟨p, s⟩ := first
    rw [List.map_cons, List.mem_cons, not_or] at h
    unfold putSource
    split
    · exact .refl _
    · rw [if_neg h.1]
      exact ((ih h.2).cons (p, s)).trans (.swap (path, source) (p, s) rest)

theorem putSource_pairwise (h : sources.Pairwise fun a b => a.1 < b.1) :
    (putSource path source sources).Pairwise fun a b => a.1 < b.1 := by
  induction sources with
  | nil => exact List.pairwise_singleton _ _
  | cons first rest ih =>
    obtain ⟨p, s⟩ := first
    obtain ⟨hfirst, hrest⟩ := List.pairwise_cons.mp h
    unfold putSource
    split
    case isTrue hlt =>
      refine List.pairwise_cons.mpr ⟨fun entry hentry => ?_, h⟩
      rcases List.mem_cons.mp hentry with rfl | hentry
      · exact hlt
      · exact lt_trans hlt (hfirst entry hentry)
    case isFalse hnot =>
      split
      case isTrue heq =>
        rw [heq]
        exact List.pairwise_cons.mpr ⟨hfirst, hrest⟩
      case isFalse hne =>
        refine List.pairwise_cons.mpr ⟨fun entry hentry => ?_, ih hrest⟩
        rcases mem_putSource hentry with rfl | hentry
        · exact lt_of_le_of_ne (not_lt.mp hnot) (Ne.symm hne)
        · exact hfirst entry hentry

/-- What is gathered of readings whose paths are new: the sources are added in the order of paths, the
failures in the order in which they arrive. Induction on the readings. -/
theorem foldl_add (g : Gathered) (hnew : (arrived.map Prod.fst ++ g.sources.map Prod.fst).Nodup)
    (hsorted : g.sources.Pairwise fun a b => a.1 < b.1) :
    (arrived.foldl Gathered.add g).sources.Perm (arrived.filterMap sourceOf? ++ g.sources) ∧
    ((arrived.foldl Gathered.add g).sources.Pairwise fun a b => a.1 < b.1) ∧
    (arrived.foldl Gathered.add g).failures = g.failures ++ arrived.filterMap failureOf? := by
  induction arrived generalizing g with
  | nil => exact ⟨.refl _, hsorted, (List.append_nil _).symm⟩
  | cons reading arrived ih =>
    obtain ⟨path, outcome⟩ := reading
    rw [List.map_cons, List.cons_append, List.nodup_cons, List.mem_append, not_or] at hnew
    obtain ⟨⟨hpath, hother⟩, hnodup⟩ := hnew
    cases outcome with
    | error failure =>
      obtain ⟨hperm, hpairwise, hfailures⟩ := ih (g.add (path, .error failure)) hnodup hsorted
      refine ⟨hperm, hpairwise, ?_⟩
      rw [List.foldl_cons, hfailures]
      show g.failures ++ [failure] ++ _ = g.failures ++ (failure :: _)
      rw [List.append_assoc, List.singleton_append]
    | ok source =>
      have hput : (putSource path source g.sources).Perm ((path, source) :: g.sources) :=
        putSource_perm hother
      have hkeys : (arrived.map Prod.fst ++
          (g.add (path, .ok source)).sources.map Prod.fst).Nodup := by
        show (arrived.map Prod.fst ++ (putSource path source g.sources).map Prod.fst).Nodup
        have hmoved := ((hput.map Prod.fst).append_left (arrived.map Prod.fst)).trans
          (List.perm_middle (a := path))
        rw [hmoved.nodup_iff, List.nodup_cons, List.mem_append, not_or]
        exact ⟨⟨hpath, hother⟩, hnodup⟩
      obtain ⟨hperm, hpairwise, hfailures⟩ :=
        ih (g.add (path, .ok source)) hkeys (putSource_pairwise hsorted)
      refine ⟨?_, hpairwise, hfailures⟩
      rw [List.foldl_cons]
      exact hperm.trans ((hput.append_left _).trans List.perm_middle)

theorem path_of_loadSource_error (h : loadSource top path read = .error failure) :
    failure.path = path := by
  unfold loadSource at h
  split at h
  · cases h
    rfl
  · split at h
    · cases h
      rfl
    · cases h

theorem mem_filterMap_sourceOf?_iff {entry : Path × Source} :
    entry ∈ (readingsOf top files read).filterMap sourceOf? ↔
      entry.1 ∈ files ∧ loadSource top entry.1 read = .ok entry.2 := by
  obtain ⟨path, source⟩ := entry
  rw [List.mem_filterMap]
  constructor
  · rintro ⟨reading, hreading, hsome⟩
    obtain ⟨p, hp, rfl⟩ := List.mem_map.mp hreading
    cases hload : loadSource top p read with
    | error failure =>
      rw [hload] at hsome
      cases hsome
    | ok s =>
      rw [hload] at hsome
      cases hsome
      exact ⟨hp, hload⟩
  · rintro ⟨hpath, hload⟩
    refine ⟨(path, loadSource top path read), List.mem_map_of_mem hpath, ?_⟩
    dsimp only at hload
    rw [hload]
    rfl

theorem mem_filterMap_failureOf?_iff :
    failure ∈ (readingsOf top files read).filterMap failureOf? ↔
      failure.path ∈ files ∧ loadSource top failure.path read = .error failure := by
  rw [List.mem_filterMap]
  constructor
  · rintro ⟨reading, hreading, hsome⟩
    obtain ⟨p, hp, rfl⟩ := List.mem_map.mp hreading
    cases hload : loadSource top p read with
    | ok s =>
      rw [hload] at hsome
      cases hsome
    | error e =>
      rw [hload] at hsome
      cases hsome
      have hpath := path_of_loadSource_error hload
      rw [hpath]
      exact ⟨hp, hload⟩
  · rintro ⟨hpath, hload⟩
    refine ⟨(failure.path, loadSource top failure.path read), List.mem_map_of_mem hpath, ?_⟩
    rw [hload]
    rfl

/-- The sources of sorted files come in the order of their paths, and so do the failures. -/
theorem pairwise_filterMap_sourceOf? (h : files.Pairwise (· < ·)) :
    ((readingsOf top files read).filterMap sourceOf?).Pairwise fun a b => a.1 < b.1 := by
  have hreadings : (readingsOf top files read).Pairwise fun a b => a.1 < b.1 :=
    List.pairwise_map.mpr h
  refine hreadings.filterMap sourceOf? fun a b hab x hx y hy => ?_
  obtain ⟨p, _ | s⟩ := a <;> cases hx
  obtain ⟨q, _ | t⟩ := b <;> cases hy
  exact hab

theorem pairwise_filterMap_failureOf? (h : files.Pairwise (· < ·)) :
    ((readingsOf top files read).filterMap failureOf?).Pairwise fun a b => a.path < b.path := by
  rw [readingsOf, List.filterMap_map]
  refine h.filterMap _ fun p q hpq x hx y hy => ?_
  have hpath : ∀ {p : Path} {x : FileFailure}, failureOf? (p, loadSource top p read) = some x →
      x.path = p := by
    intro p x hx
    cases hload : loadSource top p read with
    | ok s =>
      rw [hload] at hx
      cases hx
    | error e =>
      rw [hload] at hx
      cases hx
      exact path_of_loadSource_error hload
  rw [hpath hx, hpath hy]
  exact hpq

/-- Every file is in one of the two lists, and in one only. -/
theorem readings_perm (top : FileTree) (files : List Path) (read : ScriptReader) :
    (((readingsOf top files read).filterMap sourceOf?).map Prod.fst ++
      ((readingsOf top files read).filterMap failureOf?).map FileFailure.path).Perm files := by
  induction files with
  | nil => exact .refl _
  | cons path files ih =>
    have hcons : readingsOf top (path :: files) read =
        (path, loadSource top path read) :: readingsOf top files read := rfl
    rw [hcons]
    cases hload : loadSource top path read with
    | ok source => exact ih.cons path
    | error failure =>
      have hpath := path_of_loadSource_error hload
      have hfailed : ((path, .error failure) :: readingsOf top files read).filterMap failureOf? =
          failure :: (readingsOf top files read).filterMap failureOf? := rfl
      rw [List.filterMap_cons_none rfl, hfailed, List.map_cons, hpath]
      exact List.perm_middle.trans (ih.cons path)

/-- Gathering tells the readings of sorted files apart and leaves both lists in the order of paths,
in whatever order the readings arrive. -/
theorem gather_eq (hfiles : files.Pairwise (· < ·))
    (harrived : arrived.Perm (readingsOf top files read)) :
    gather arrived = ⟨(readingsOf top files read).filterMap sourceOf?,
      (readingsOf top files read).filterMap failureOf?⟩ := by
  have hkeys : (arrived.map Prod.fst ++ ([] : List (Path × Source)).map Prod.fst).Nodup := by
    rw [List.map_nil, List.append_nil, (harrived.map Prod.fst).nodup_iff, readingsOf, List.map_map]
    have hself : Prod.fst ∘ (fun path => (path, loadSource top path read)) = id := rfl
    rw [hself, List.map_id]
    exact hfiles.imp fun h => ne_of_lt h
  obtain ⟨hsources, hpairwise, hfailures⟩ := foldl_add {} hkeys .nil
  rw [List.append_nil] at hsources
  -- two lists in a strict order that hold the same are equal
  have hleft : (arrived.foldl Gathered.add {}).sources =
      (readingsOf top files read).filterMap sourceOf? :=
    (hsources.trans (harrived.filterMap sourceOf?)).eq_of_pairwise
      (fun a b _ _ hab hba => absurd (lt_trans hab hba) (lt_irrefl _)) hpairwise
      (pairwise_filterMap_sourceOf? hfiles)
  have hright : sortedFailures (arrived.foldl Gathered.add {}).failures =
      (readingsOf top files read).filterMap failureOf? := by
    rw [hfailures]
    have hperm : (sortedFailures (arrived.filterMap failureOf?)).Perm
        ((readingsOf top files read).filterMap failureOf?) :=
      (sortBy_perm _ _).trans (harrived.filterMap failureOf?)
    refine hperm.eq_of_pairwise (fun a b ha hb hab hba => ?_)
      (sortBy_path_pairwise FileFailure.path _)
      ((pairwise_filterMap_failureOf? hfiles).imp fun h => le_of_lt h)
    -- there is one failure for each path
    have hloadA := (mem_filterMap_failureOf?_iff.mp (hperm.mem_iff.mp ha)).2
    have hloadB := (mem_filterMap_failureOf?_iff.mp hb).2
    rw [le_antisymm hab hba, hloadB] at hloadA
    cases hloadA
    rfl
  show Gathered.mk (arrived.foldl Gathered.add {}).sources
    (sortedFailures (arrived.foldl Gathered.add {}).failures) = _
  rw [hleft, hright]

end Gathering

/-! ## Questions in any order -/

/-- A question, and the order in which readings arrive should the files have to be read for it. -/
inductive Ask where
  | sources (arrived : List Reading)
  | failures (arrived : List Reading)

/-- What is answered. -/
inductive Answer where
  | sources (sources : List (Path × Source))
  | failures (failures : List FileFailure)

def Ask.arrived : Ask → List Reading
  | .sources arrived => arrived
  | .failures arrived => arrived

/-- The answer that goes with what was gathered. -/
def Ask.answer (g : Gathered) : Ask → Answer
  | .sources _ => .sources g.sources
  | .failures _ => .failures g.failures

namespace FileReadings

/-- One question. -/
def ask (r : FileReadings) : Ask → Answer × FileReadings
  | .sources arrived => (.sources (r.askSources arrived).1, (r.askSources arrived).2)
  | .failures arrived => (.failures (r.askFailures arrived).1, (r.askFailures arrived).2)

/-- Questions one after the other. -/
def askAll (r : FileReadings) : List Ask → List Answer
  | [] => []
  | a :: asks => (r.ask a).1 :: askAll (r.ask a).2 asks

/-- Nothing is known yet, or all of what was gathered is. -/
def Holds (r : FileReadings) (g : Gathered) : Prop :=
  r = {} ∨ r = { sources := some g.sources, failures := some g.failures }

theorem ask_holds {r : FileReadings} {g : Gathered} (h : r.Holds g) {a : Ask}
    (ha : gather a.arrived = g) : (r.ask a).1 = a.answer g ∧ (r.ask a).2.Holds g := by
  rcases h with rfl | rfl
  · cases a with
    | sources arrived =>
      obtain rfl : gather arrived = g := ha
      exact ⟨rfl, .inr rfl⟩
    | failures arrived =>
      obtain rfl : gather arrived = g := ha
      exact ⟨rfl, .inr rfl⟩
  · cases a with
    | sources arrived => exact ⟨rfl, .inr rfl⟩
    | failures arrived => exact ⟨rfl, .inr rfl⟩

/-- Every question gets the answer that goes with what was gathered, whichever comes first. -/
theorem askAll_eq {r : FileReadings} {g : Gathered} (h : r.Holds g) {asks : List Ask}
    (hasks : ∀ a ∈ asks, gather a.arrived = g) : r.askAll asks = asks.map (·.answer g) := by
  induction asks generalizing r with
  | nil => rfl
  | cons a asks ih =>
    obtain ⟨hanswer, hnext⟩ := ask_holds h (hasks a List.mem_cons_self)
    rw [askAll, hanswer, ih hnext fun b hb => hasks b (List.mem_cons_of_mem _ hb), List.map_cons]

end FileReadings

/-! ## Surveys -/

/-- Where the parts of a survey come from. -/
structure SurveyOf (top : FileTree) (target : Target) (read : ScriptReader) (s : Survey) : Prop where
  files : s.files =
    (scan top target.base s.config.includes s.config.ignores s.config.ignoreTestFiles).files
  sorted : s.files.Pairwise (· < ·)
  sources : s.sources = (readingsOf top s.files read).filterMap sourceOf?
  failures : s.failures = (readingsOf top s.files read).filterMap failureOf?

variable {top : FileTree} {target : Target} {read : ScriptReader} {s : Survey}

theorem surveyOf (h : survey top target read = .ok s) : SurveyOf top target read s := by
  unfold survey at h
  split at h
  case h_1 => cases h
  case h_2 loaded hloaded =>
    cases h
    have hsorted : (scan top target.base loaded.config.includes loaded.config.ignores
        loaded.config.ignoreTestFiles).files.Pairwise (· < ·) := pairwise_sortedPaths _
    have hgather := gather_eq hsorted (.refl (readingsOf top _ read))
    exact ⟨rfl, hsorted, congrArg Gathered.sources hgather, congrArg Gathered.failures hgather⟩

section Survey

variable (h : SurveyOf top target read s)

include h

theorem SurveyOf.mem_sources_iff {entry : Path × Source} :
    entry ∈ s.sources ↔ entry.1 ∈ s.files ∧ loadSource top entry.1 read = .ok entry.2 := by
  rw [h.sources, mem_filterMap_sourceOf?_iff]

theorem SurveyOf.mem_failures_iff {failure : FileFailure} :
    failure ∈ s.failures ↔
      failure.path ∈ s.files ∧ loadSource top failure.path read = .error failure := by
  rw [h.failures, mem_filterMap_failureOf?_iff]

theorem SurveyOf.failures_pos_iff :
    0 < s.failures.length ↔ ∃ path ∈ s.files, ∃ failure, loadSource top path read = .error failure := by
  rw [List.length_pos_iff_exists_mem]
  constructor
  · rintro ⟨failure, hfailure⟩
    exact ⟨failure.path, (h.mem_failures_iff.mp hfailure).1, failure,
      (h.mem_failures_iff.mp hfailure).2⟩
  · rintro ⟨path, hpath, failure, hload⟩
    have hsame := path_of_loadSource_error hload
    rw [← hsame] at hpath hload
    exact ⟨failure, h.mem_failures_iff.mpr ⟨hpath, hload⟩⟩

theorem SurveyOf.failures_eq_zero_iff :
    s.failures.length = 0 ↔ ∀ path ∈ s.files, ∃ source, loadSource top path read = .ok source := by
  rw [← Nat.le_zero, ← Nat.not_lt, h.failures_pos_iff, not_exists]
  refine forall_congr' fun path => ?_
  cases loadSource top path read <;> simp

end Survey

/-- The number of findings in all sources. -/
def Survey.findingCount (s : Survey) : Nat :=
  (s.sources.map fun entry => (entry.2.findings s.config.strictness).length).foldr (· + ·) 0

theorem Survey.length_issues (s : Survey) : s.issues.length = s.findingCount := by
  have hflat : ∀ entries : List (Path × Source),
      (entries.flatMap fun entry => entry.2.issues entry.1 s.config.strictness).length =
        (entries.map fun entry => (entry.2.findings s.config.strictness).length).foldr (· + ·) 0 := by
    intro entries
    induction entries with
    | nil => rfl
    | cons entry entries ih =>
      rw [List.flatMap_cons, List.length_append, ih, List.map_cons, List.foldr_cons, Source.issues,
        List.length_map]
  rw [Survey.issues, (sortBy_perm _ _).length_eq, hflat]
  rfl

theorem Survey.findingCount_pos_iff (s : Survey) :
    0 < s.findingCount ↔ ∃ entry ∈ s.sources, entry.2.findings s.config.strictness ≠ [] := by
  unfold Survey.findingCount
  induction s.sources with
  | nil => simp
  | cons entry entries ih =>
    rw [List.map_cons, List.foldr_cons, List.exists_mem_cons_iff, ← ih, ← List.length_pos_iff]
    omega

theorem Survey.findingCount_eq_zero_iff (s : Survey) :
    s.findingCount = 0 ↔ ∀ entry ∈ s.sources, entry.2.findings s.config.strictness = [] := by
  rw [← Nat.le_zero, ← Nat.not_lt, s.findingCount_pos_iff]
  simp

end MapLint

namespace MapLint.Command

open MapLint.Report MapLint.Script

/-! ## What a check says -/

theorem countP_surveyEntries (s : Survey) :
    (surveyEntries s).countP (·.severity = .error) = s.failures.length := by
  have hissues : s.issues.countP
      ((fun e : Report.Entry => decide (e.severity = .error)) ∘ .issue) = 0 :=
    List.countP_eq_zero.mpr fun issue _ => by simp [Report.Entry.severity]
  have hfailures : s.failures.countP
      ((fun e : Report.Entry => decide (e.severity = .error)) ∘ .failure) = s.failures.length :=
    List.countP_eq_length.mpr fun failure _ => by simp [Report.Entry.severity]
  rw [surveyEntries, List.countP_append, List.countP_map, List.countP_map, hissues, hfailures,
    Nat.zero_add]

theorem length_surveyEntries (s : Survey) :
    (surveyEntries s).length = s.findingCount + s.failures.length := by
  rw [surveyEntries, List.length_append, List.length_map, List.length_map, s.length_issues]

theorem isEmpty_surveyEntries_iff (s : Survey) :
    (surveyEntries s).isEmpty = true ↔ s.findingCount + s.failures.length = 0 := by
  rw [List.isEmpty_iff, ← List.length_eq_zero_iff, length_surveyEntries]

/-- What a check says of a surveyed project. -/
theorem checkOutcome_of_survey {top : FileTree} {options : Options} {read : ScriptReader}
    {s : Survey} (h : survey top options.target read = .ok s) (styled : Bool) :
    (checkOutcome top styled options read).status =
        .ofFindings s.failures.length (surveyEntries s).length ∧
      (checkOutcome top styled options read).output =
        if (surveyEntries s).isEmpty then renderSuccess styled s.files.length
        else render styled (surveyEntries s) := by
  rw [checkOutcome, h]
  exact ⟨rfl, rfl⟩

/-- The last line of a report on `warnings` findings and `errors` failures. -/
def summaryLine (styled : Bool) (errors warnings : Nat) : String :=
  line ((colour .red).paint styled failureMark ++ " " ++ toString (warnings + errors) ++ " " ++
    plural (warnings + errors) "problem" "problems" ++ " (" ++ toString errors ++ " " ++
    (colour .red).paint styled (plural errors "error" "errors") ++ ", " ++ toString warnings ++ " " ++
    (colour .yellow).paint styled (plural warnings "warning" "warnings") ++ ")")

/-- The last line of a report counts its entries, those that are no errors being warnings. -/
theorem renderSummary_eq (styled : Bool) (entries : List Report.Entry) :
    renderSummary styled entries = summaryLine styled (entries.countP (·.severity = .error))
      (entries.length - entries.countP (·.severity = .error)) := by
  have hle : entries.countP (·.severity = .error) ≤ entries.length := List.countP_le_length
  unfold renderSummary summaryLine
  rw [Nat.sub_add_cancel hle]

/-- A report ends with the number of findings and failures. -/
theorem exists_render_eq (styled : Bool) (s : Survey)
    (hsome : 0 < s.findingCount + s.failures.length) :
    ∃ body, render styled (surveyEntries s) =
      body ++ summaryLine styled s.failures.length s.findingCount := by
  have hperm : (Report.Entry.inOrder (surveyEntries s)).Perm (surveyEntries s) := sortBy_perm _ _
  have hnonempty : (surveyEntries s).isEmpty = false := by
    rw [List.isEmpty_eq_false_iff, ← List.length_pos_iff, length_surveyEntries]
    exact hsome
  rw [render, hnonempty, if_neg Bool.false_ne_true]
  refine ⟨_, congrArg (_ ++ ·) ?_⟩
  rw [renderSummary_eq, hperm.countP_eq, hperm.length_eq, length_surveyEntries, countP_surveyEntries,
    Nat.add_sub_cancel]

theorem code_ofFindings_eq_two_iff (failures pending : Nat) :
    (ExitStatus.ofFindings failures pending).code = 2 ↔ 0 < failures := by
  unfold ExitStatus.ofFindings
  split_ifs with h₁ h₂ <;> simp [ExitStatus.code, h₁]

theorem code_ofFindings_eq_one_iff (failures pending : Nat) :
    (ExitStatus.ofFindings failures pending).code = 1 ↔ failures = 0 ∧ 0 < pending := by
  unfold ExitStatus.ofFindings
  split_ifs with h₁ h₂ <;> simp [ExitStatus.code] <;> omega

theorem code_ofFindings_eq_zero_iff (failures pending : Nat) :
    (ExitStatus.ofFindings failures pending).code = 0 ↔ failures = 0 ∧ pending = 0 := by
  unfold ExitStatus.ofFindings
  split_ifs with h₁ h₂ <;> simp [ExitStatus.code] <;> omega

/-- A project with a finding, a file that does not parse, and a file without findings. -/
def threeFiles : FileTree :=
  .dir [.mk "a.js" (.file (.text "_.map([0], f);\n".toList)), .mk "b.js" (.file (.text "(".toList)),
    .mk "c.js" (.file (.text "x;\n".toList))]

end MapLint.Command
