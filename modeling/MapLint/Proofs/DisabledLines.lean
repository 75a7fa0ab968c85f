import MapLint.Lint.Directive
import MapLint.Text.Lines
import MapLint.Proofs.Sorting

/-!
# The lines that comments switch off

The comments of a file are read in the order of the text, and what is remembered between two of them is
one line: the first of the range that is open. That is enough to get the lines that the comments say. A
second comment that switches the lint off opens nothing, because the range that is open begins further
up already, and one that switches it on again ends all that was switched off before it.

## Architecture

- `SwitchedOff` says of a line that the comments switch it off, without an order among them;
- `offBy` says the same of notes in the order of the text, one after the other;
- `readNote_off` is one step of the reading and `foldl_readNote_off` a run of it: a line is off behind
  some notes if it was off before, if the open range gets that far, or if the notes say so;
- `switchedOff_iff_offBy` is the way from notes to comments, and `disabled_lines_exact` joins them.
-/

namespace MapLint.Lint

open MapLint.Script

/-- The comment is a directive. -/
def Asks (directive : Directive) (comment : Comment) : Prop :=
  Directive.ofText? comment.text.toList = some directive

instance (directive : Directive) (comment : Comment) : Decidable (Asks directive comment) :=
  inferInstanceAs (Decidable (Directive.ofText? comment.text.toList = some directive))

/-- Every comment behind this one that switches the lint on again starts below the line. -/
def StaysOff (lineOf : Nat → Nat) (comments : List Comment) (c : Comment) (line : Nat) : Prop :=
  ∀ e ∈ comments, Asks .enable e → c.span.start < e.span.start → line < lineOf e.span.start

/-- A line is switched off: a comment that is about the next line ends on the line before, or one that
switches the lint off starts on the line or above it, and the lint stays off as far as the line. -/
def SwitchedOff (lineOf : Nat → Nat) (comments : List Comment) (line : Nat) : Prop :=
  (∃ c ∈ comments, Asks .disableNextLine c ∧ lineOf c.span.stop + 1 = line) ∨
    ∃ c ∈ comments, Asks .disable c ∧ lineOf c.span.start ≤ line ∧ StaysOff lineOf comments c line

/-! ## Lines and ranges -/

namespace DisabledLines

variable {d : DisabledLines} {line : Nat}

theorem ignores_add_line (d : DisabledLines) (last line : Nat) :
    ({ d with lines := d.lines ++ [last] } : DisabledLines).ignores line = true ↔
      d.ignores line = true ∨ last = line := by
  simp only [ignores, Bool.or_eq_true, List.contains_iff_mem, List.mem_append, List.mem_singleton]
  rw [or_right_comm, eq_comm (a := line)]

theorem ignores_add_range (d : DisabledLines) (r : LineRange) (line : Nat) :
    ({ d with ranges := d.ranges ++ [r] } : DisabledLines).ignores line = true ↔
      d.ignores line = true ∨ r.contains line = true := by
  simp only [ignores, Bool.or_eq_true, List.any_append, List.any_cons, List.any_nil, Bool.or_false,
    or_assoc]

/-- Nothing is switched off where nothing is recorded. -/
theorem ignores_of_isEmpty (h : d.isEmpty = true) (line : Nat) : d.ignores line = false := by
  simp only [isEmpty, Bool.and_eq_true, List.isEmpty_iff] at h
  simp [ignores, h.1, h.2]

end DisabledLines

/-! ## Reading the notes -/

/-- The notes switch the line off, each with an eye on those behind it. -/
def offBy (line : Nat) : List Note → Prop
  | [] => False
  | n :: ns =>
    (n.directive = .disableNextLine ∧ n.last + 1 = line) ∨
      (n.directive = .disable ∧ n.first ≤ line ∧
        ∀ e ∈ ns, e.directive = .enable → line < e.first) ∨
      offBy line ns

/-- The range that is open holds the line, and none of the notes closes it above the line. -/
def NotesRead.Reaches (state : NotesRead) (line : Nat) (notes : List Note) : Prop :=
  ∃ first, state.opened = some first ∧ first ≤ line ∧
    ∀ e ∈ notes, e.directive = .enable → line < e.first

variable {state : NotesRead} {note : Note} {notes : List Note} {line : Nat}

theorem ignores_close :
    state.close.ignores line = true ↔ state.disabled.ignores line = true ∨ state.Reaches line [] := by
  unfold NotesRead.close NotesRead.Reaches
  cases hopened : state.opened with
  | none => simp
  | some first => simp [DisabledLines.ignores_add_range, LineRange.contains]

/-- One note. What it does to the lines that are off, and to how far the open range gets, comes to what
the note says of the lines by itself. The lines of the notes do not decrease; that is why an open range
begins no further down than a note that would open one, and why the first note that closes a range is
the one that counts. -/
theorem readNote_off (hpos : 1 ≤ note.first) (hbehind : ∀ n ∈ notes, note.first ≤ n.first)
    (hopened : ∀ first, state.opened = some first → first ≤ note.first) :
    (readNote state note).disabled.ignores line = true ∨ (readNote state note).Reaches line notes ∨
        offBy line notes ↔
      state.disabled.ignores line = true ∨ state.Reaches line (note :: notes) ∨
        offBy line (note :: notes) := by
  unfold NotesRead.Reaches
  simp only [offBy, List.forall_mem_cons]
  cases hdirective : note.directive with
  | disable =>
    cases hstate : state.opened with
    | none => simp [readNote, hdirective, hstate]
    | some first =>
      -- what the note would switch off lies in the range that is open already
      have hinside : note.first ≤ line → first ≤ line := Nat.le_trans (hopened first hstate)
      simp only [readNote, hdirective, hstate]
      grind
  | enable =>
    cases hstate : state.opened with
    | none => simp [readNote, hdirective, hstate]
    | some first =>
      -- the range ends above this note, and so above all that follow
      have hends : line ≤ note.first - 1 ↔ line < note.first := by omega
      have hrest : line < note.first → ∀ e ∈ notes, e.directive = .enable → line < e.first :=
        fun hline e he _ => Nat.lt_of_lt_of_le hline (hbehind e he)
      simp only [readNote, hdirective, hstate, DisabledLines.ignores_add_range, LineRange.contains]
      grind
  | disableNextLine =>
    simp only [readNote, hdirective, DisabledLines.ignores_add_line]
    grind

theorem opened_readNote (hopened : ∀ first, state.opened = some first → first ≤ note.first) :
    ∀ first, (readNote state note).opened = some first → first ≤ note.first := by
  intro first
  unfold readNote
  split
  · cases hstate : state.opened with
    | none =>
      intro h
      exact Nat.le_of_eq (Option.some.inj h).symm
    | some opened =>
      intro h
      exact hopened first (hstate.trans h)
  · split
    · intro h
      cases h
    · exact hopened first
  · exact hopened first

/-- A run of notes in the order of the text. Induction on the notes; the range that is open begins no
further down than all of them. -/
theorem foldl_readNote_off (hsorted : notes.Pairwise fun a b => a.first ≤ b.first)
    (hpos : ∀ n ∈ notes, 1 ≤ n.first)
    (hopened : ∀ first, state.opened = some first → ∀ n ∈ notes, first ≤ n.first) :
    (notes.foldl readNote state).close.ignores line = true ↔
      state.disabled.ignores line = true ∨ state.Reaches line notes ∨ offBy line notes := by
  induction notes generalizing state with
  | nil =>
    rw [List.foldl_nil, ignores_close]
    simp [offBy]
  | cons note notes ih =>
    obtain ⟨hbehind, hrest⟩ := List.pairwise_cons.mp hsorted
    have hhere : ∀ first, state.opened = some first → first ≤ note.first :=
      fun first h => hopened first h note List.mem_cons_self
    have hnext : ∀ first, (readNote state note).opened = some first →
        ∀ n ∈ notes, first ≤ n.first :=
      fun first h n hn => Nat.le_trans (opened_readNote hhere first h) (hbehind n hn)
    rw [List.foldl_cons, ih hrest (fun n hn => hpos n (List.mem_cons_of_mem _ hn)) hnext]
    exact readNote_off (hpos note List.mem_cons_self) hbehind hhere

/-- The lines that notes in the order of the text switch off. -/
theorem ignores_ofNotes_iff (hsorted : notes.Pairwise fun a b => a.first ≤ b.first)
    (hpos : ∀ n ∈ notes, 1 ≤ n.first) :
    (DisabledLines.ofNotes notes).ignores line = true ↔ offBy line notes := by
  rw [DisabledLines.ofNotes, foldl_readNote_off hsorted hpos (by simp)]
  simp [DisabledLines.ignores, NotesRead.Reaches]

/-! ## From notes to comments -/

variable {lineOf : Nat → Nat} {comment : Comment} {comments recorded : List Comment}

theorem noteOf?_eq_some_iff : noteOf? lineOf comment = some note ↔
    Asks note.directive comment ∧ note.first = lineOf comment.span.start ∧
      note.last = lineOf comment.span.stop := by
  obtain ⟨directive, first, last⟩ := note
  simp only [noteOf?, Option.map_eq_some_iff, Note.mk.injEq, Asks]
  constructor
  · rintro ⟨_, hasks, rfl, rfl, rfl⟩
    exact ⟨hasks, rfl, rfl⟩
  · rintro ⟨hasks, rfl, rfl⟩
    exact ⟨directive, hasks, rfl, rfl, rfl⟩

/-- A comment asks for the directive of its note and for no other. -/
theorem asks_iff_of_noteOf? (h : noteOf? lineOf comment = some note) (directive : Directive) :
    Asks directive comment ↔ note.directive = directive := by
  have hasks : Directive.ofText? comment.text.toList = some note.directive :=
    (noteOf?_eq_some_iff.mp h).1
  rw [Asks, hasks, Option.some.injEq]

/-- A comment without a note asks for nothing. -/
theorem not_asks_of_noteOf? (h : noteOf? lineOf comment = none) (directive : Directive) :
    ¬ Asks directive comment := by
  intro hasks
  rw [noteOf?, hasks] at h
  cases h

theorem forall_enabling_notes_iff :
    (∀ n ∈ comments.filterMap (noteOf? lineOf), n.directive = .enable → line < n.first) ↔
      ∀ e ∈ comments, Asks .enable e → line < lineOf e.span.start := by
  constructor
  · intro h e he hasks
    have hnote : noteOf? lineOf e = some ⟨.enable, lineOf e.span.start, lineOf e.span.stop⟩ :=
      noteOf?_eq_some_iff.mpr ⟨hasks, rfl, rfl⟩
    exact h _ (List.mem_filterMap.mpr ⟨e, he, hnote⟩) rfl
  · intro h n hn hdirective
    obtain ⟨e, he, hnote⟩ := List.mem_filterMap.mp hn
    obtain ⟨hasks, hfirst, -⟩ := noteOf?_eq_some_iff.mp hnote
    rw [hfirst]
    exact h e he (hdirective ▸ hasks)

/-- The first comment of the text puts an end to none of the others, and all the others that switch the
lint on stand behind it: one at the same place would be the same comment. -/
theorem switchedOff_cons
    (hplaces : ∀ a ∈ comment :: comments, ∀ b ∈ comment :: comments,
      a.span.start = b.span.start → a = b)
    (hbehind : ∀ b ∈ comments, comment.span.start ≤ b.span.start) :
    SwitchedOff lineOf (comment :: comments) line ↔
      (Asks .disableNextLine comment ∧ lineOf comment.span.stop + 1 = line) ∨
        (Asks .disable comment ∧ lineOf comment.span.start ≤ line ∧
          ∀ e ∈ comments, Asks .enable e → line < lineOf e.span.start) ∨
        SwitchedOff lineOf comments line := by
  have hfirst : Asks .disable comment →
      (StaysOff lineOf (comment :: comments) comment line ↔
        ∀ e ∈ comments, Asks .enable e → line < lineOf e.span.start) := by
    intro hdisable
    constructor
    · intro h e he henable
      have hne : comment.span.start ≠ e.span.start := by
        intro heq
        obtain rfl := hplaces comment List.mem_cons_self e (List.mem_cons_of_mem _ he) heq
        cases hdisable.symm.trans henable
      exact h e (List.mem_cons_of_mem _ he) henable (Nat.lt_of_le_of_ne (hbehind e he) hne)
    · intro h e he henable hlt
      rcases List.mem_cons.mp he with rfl | he
      · exact absurd hlt (Nat.lt_irrefl _)
      · exact h e he henable
  have hothers : ∀ c ∈ comments,
      (StaysOff lineOf (comment :: comments) c line ↔ StaysOff lineOf comments c line) := by
    intro c hc
    unfold StaysOff
    rw [List.forall_mem_cons]
    exact and_iff_right fun _ hlt => absurd (hbehind c hc) (Nat.not_le_of_lt hlt)
  have hhere : (Asks .disable comment ∧ lineOf comment.span.start ≤ line ∧
        StaysOff lineOf (comment :: comments) comment line) ↔
      Asks .disable comment ∧ lineOf comment.span.start ≤ line ∧
        ∀ e ∈ comments, Asks .enable e → line < lineOf e.span.start :=
    and_congr_right fun hdisable => and_congr_right fun _ => hfirst hdisable
  have hthere : (∃ c ∈ comments, Asks .disable c ∧ lineOf c.span.start ≤ line ∧
        StaysOff lineOf (comment :: comments) c line) ↔
      ∃ c ∈ comments, Asks .disable c ∧ lineOf c.span.start ≤ line ∧
        StaysOff lineOf comments c line :=
    exists_congr fun c => and_congr_right fun hc =>
      and_congr_right fun _ => and_congr_right fun _ => hothers c hc
  unfold SwitchedOff
  simp only [List.mem_cons, exists_eq_or_imp]
  rw [hhere, hthere, or_or_or_comm, or_assoc]

/-- The notes of comments in the order of the text say of a line what the comments say. -/
theorem switchedOff_iff_offBy
    (hplaces : ∀ a ∈ comments, ∀ b ∈ comments, a.span.start = b.span.start → a = b)
    (hsorted : comments.Pairwise fun a b => a.span.start ≤ b.span.start) :
    SwitchedOff lineOf comments line ↔ offBy line (comments.filterMap (noteOf? lineOf)) := by
  induction comments with
  | nil => simp [SwitchedOff, offBy]
  | cons comment comments ih =>
    obtain ⟨hbehind, hrest⟩ := List.pairwise_cons.mp hsorted
    have htail := ih (fun a ha b hb => hplaces a (List.mem_cons_of_mem _ ha) b
      (List.mem_cons_of_mem _ hb)) hrest
    rw [switchedOff_cons hplaces hbehind, htail]
    cases hnote : noteOf? lineOf comment with
    | none =>
      rw [List.filterMap_cons_none hnote]
      simp only [not_asks_of_noteOf? hnote, false_and, false_or]
    | some note =>
      obtain ⟨-, hfirst, hlast⟩ := noteOf?_eq_some_iff.mp hnote
      rw [List.filterMap_cons_some hnote]
      simp only [offBy, asks_iff_of_noteOf? hnote, forall_enabling_notes_iff, hfirst, hlast]

/-- The order of the comments, and how often each is there, makes no difference to what they say. -/
theorem switchedOff_congr (h : ∀ c, c ∈ recorded ↔ c ∈ comments) :
    SwitchedOff lineOf recorded line ↔ SwitchedOff lineOf comments line := by
  simp only [SwitchedOff, StaysOff, h]

/-- What is read off the comments is what they say, in whatever order they come. -/
theorem ignores_ofComments_iff
    (hplaces : ∀ a ∈ comments, ∀ b ∈ comments, a.span.start = b.span.start → a = b)
    (hlines : ∀ a ∈ comments, ∀ b ∈ comments, a.span.start ≤ b.span.start →
      lineOf a.span.start ≤ lineOf b.span.start)
    (hpos : ∀ c ∈ comments, 1 ≤ lineOf c.span.start) :
    (DisabledLines.ofComments lineOf comments).ignores line = true ↔
      SwitchedOff lineOf comments line := by
  let ordered :=
    sortBy (fun a b : Comment => Decidable.decide (a.span.start ≤ b.span.start)) comments
  have hmem : ∀ c, c ∈ ordered ↔ c ∈ comments := fun c => (sortBy_perm _ comments).mem_iff
  have hpairwise : ordered.Pairwise fun a b =>
      Decidable.decide (a.span.start ≤ b.span.start) = true := by
    refine sortBy_pairwise (fun a b => ?_) (fun a b c hab hbc => ?_) comments
    · simpa using Nat.le_total a.span.start b.span.start
    · exact decide_eq_true (Nat.le_trans (of_decide_eq_true hab) (of_decide_eq_true hbc))
  have hsorted : ordered.Pairwise fun a b => a.span.start ≤ b.span.start :=
    hpairwise.imp of_decide_eq_true
  have hnotes : (ordered.filterMap (noteOf? lineOf)).Pairwise fun a b => a.first ≤ b.first := by
    refine List.pairwise_filterMap.mpr (hsorted.imp_of_mem ?_)
    intro a b ha hb hle m hm n hn
    rw [(noteOf?_eq_some_iff.mp hm).2.1, (noteOf?_eq_some_iff.mp hn).2.1]
    exact hlines a ((hmem a).mp ha) b ((hmem b).mp hb) hle
  have hfirst : ∀ n ∈ ordered.filterMap (noteOf? lineOf), 1 ≤ n.first := by
    intro n hn
    obtain ⟨c, hc, hnote⟩ := List.mem_filterMap.mp hn
    rw [(noteOf?_eq_some_iff.mp hnote).2.1]
    exact hpos c ((hmem c).mp hc)
  have hordered : ∀ a ∈ ordered, ∀ b ∈ ordered, a.span.start = b.span.start → a = b :=
    fun a ha b hb => hplaces a ((hmem a).mp ha) b ((hmem b).mp hb)
  calc (DisabledLines.ofComments lineOf comments).ignores line = true
      ↔ offBy line (ordered.filterMap (noteOf? lineOf)) := ignores_ofNotes_iff hnotes hfirst
    _ ↔ SwitchedOff lineOf ordered line := (switchedOff_iff_offBy hordered hsorted).symm
    _ ↔ SwitchedOff lineOf comments line := switchedOff_congr hmem

/-- The lint is switched off on exactly the lines that the comments say, where no two comments start at
the same place and lines are counted from one and in the order of the text. The comments may be handed
over in any order, as they come when those in front of a token and those behind it are kept apart, and a
comment may be there more than once. Where nothing is recorded no line is switched off. -/
theorem disabled_lines_exact
    (hplaces : ∀ a ∈ comments, ∀ b ∈ comments, a.span.start = b.span.start → a = b)
    (hlines : ∀ a ∈ comments, ∀ b ∈ comments, a.span.start ≤ b.span.start →
      lineOf a.span.start ≤ lineOf b.span.start)
    (hpos : ∀ c ∈ comments, 1 ≤ lineOf c.span.start) :
    (∀ line, (DisabledLines.ofComments lineOf comments).ignores line = true ↔
      SwitchedOff lineOf comments line) ∧
    (∀ recorded, (∀ c, c ∈ recorded ↔ c ∈ comments) → ∀ line,
      (DisabledLines.ofComments lineOf recorded).ignores line =
        (DisabledLines.ofComments lineOf comments).ignores line) ∧
    ((DisabledLines.ofComments lineOf comments).isEmpty = true →
      ∀ line, (DisabledLines.ofComments lineOf comments).ignores line = false) := by
  refine ⟨fun line => ignores_ofComments_iff hplaces hlines hpos, fun recorded hsame line => ?_,
    fun hempty line => DisabledLines.ignores_of_isEmpty hempty line⟩
  -- what is asked of the comments is asked of each of them, so a list of the same ones has it too
  have hplaces' : ∀ a ∈ recorded, ∀ b ∈ recorded, a.span.start = b.span.start → a = b :=
    fun a ha b hb => hplaces a ((hsame a).mp ha) b ((hsame b).mp hb)
  have hlines' : ∀ a ∈ recorded, ∀ b ∈ recorded, a.span.start ≤ b.span.start →
      lineOf a.span.start ≤ lineOf b.span.start :=
    fun a ha b hb => hlines a ((hsame a).mp ha) b ((hsame b).mp hb)
  have hpos' : ∀ c ∈ recorded, 1 ≤ lineOf c.span.start := fun c hc => hpos c ((hsame c).mp hc)
  rw [Bool.eq_iff_iff, ignores_ofComments_iff hplaces' hlines' hpos',
    ignores_ofComments_iff hplaces hlines hpos]
  exact switchedOff_congr hsame

/-! ## Directives of all three kinds -/

/-- A comment of two lines about the next one, two that switch the lint off before one that switches it
on, one of each kind on one line, and one that is never answered. -/
def mixedScript : List Char :=
  ("/* native-map-disable-next-line\n */ f(); // native-map-disable\n" ++
    "_.map(a, f); // native-map-disable -- again\n// native-map-enable\n" ++
    "/* native-map-disable */ /* native-map-enable */\n// native-map-disable\n").toList

def mixedComments : List Comment :=
  [⟨true, " native-map-disable-next-line\n ", ⟨0, 35⟩⟩,
    ⟨false, " native-map-disable", ⟨41, 62⟩⟩,
    ⟨false, " native-map-disable -- again", ⟨76, 106⟩⟩,
    ⟨false, " native-map-enable", ⟨107, 127⟩⟩,
    ⟨true, " native-map-disable ", ⟨128, 152⟩⟩,
    ⟨true, " native-map-enable ", ⟨153, 176⟩⟩,
    ⟨false, " native-map-disable", ⟨177, 198⟩⟩]

set_option maxRecDepth 100000 in
/-- The lines 2, 3 and 6 of that text, and all that follow, are off; recorded twice and backwards the
comments come to the same. -/
theorem disabled_lines_exact_mixed :
    (∀ a ∈ mixedComments, ∀ b ∈ mixedComments, a.span.start = b.span.start → a = b) ∧
    (SwitchedOff (lineAt mixedScript) mixedComments 2 ∧
      SwitchedOff (lineAt mixedScript) mixedComments 3 ∧
      SwitchedOff (lineAt mixedScript) mixedComments 100) ∧
    (¬ SwitchedOff (lineAt mixedScript) mixedComments 1 ∧
      ¬ SwitchedOff (lineAt mixedScript) mixedComments 4 ∧
      ¬ SwitchedOff (lineAt mixedScript) mixedComments 5) ∧
    ∀ line, (DisabledLines.ofComments (lineAt mixedScript)
        (mixedComments.reverse ++ mixedComments)).ignores line =
      (DisabledLines.ofComments (lineAt mixedScript) mixedComments).ignores line := by
  have hplaces : ∀ a ∈ mixedComments, ∀ b ∈ mixedComments, a.span.start = b.span.start → a = b := by
    decide
  have hread : DisabledLines.ofComments (lineAt mixedScript) mixedComments =
      ⟨[3], [⟨2, some 3⟩, ⟨5, some 4⟩, ⟨6, none⟩]⟩ := by decide +kernel
  obtain ⟨hexact, hsame, -⟩ := disabled_lines_exact hplaces
    (fun a _ b _ h => lineAt_mono mixedScript h) (fun c _ => one_le_lineAt mixedScript _)
  refine ⟨hplaces, ⟨(hexact 2).mp ?_, (hexact 3).mp ?_, (hexact 100).mp ?_⟩,
    ⟨(not_congr (hexact 1)).mp ?_, (not_congr (hexact 4)).mp ?_, (not_congr (hexact 5)).mp ?_⟩,
    hsame _ fun c => by simp⟩
  all_goals
    rw [hread]
    decide

end MapLint.Lint
