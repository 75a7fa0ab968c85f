import MapLint.Lint.Analysis
import MapLint.Proofs.ExpressionSlots
import MapLint.Proofs.Replacement

/-!
# Where names stand

A text is cut at a byte by a scan that remembers the line so far. Here the outcome is said without the
scan: how many lines have ended before the cut, and what stands between the last of these ends and the
cut. Behind a character that takes room the place is a later one, whatever comes between.

## Architecture

- `LinePlace.Cuts` is what a place says of the two parts of a text, and `placeAt_cuts` that the scan
  finds it; `placeFrom_append` goes on from a place;
- `LinePlace.Before` is the order of places, `placeAt_before` the step from a character that takes room;
- `NamesWritten` is what is relied on in the reader of scripts: the method of a call is written where the
  call says. `NameAt` is a name at a byte, and `Source.exists_nameAt` finds the name of a finding.
-/

namespace MapLint

variable {line n : Nat} {before front rest text : List Char} {place : LinePlace}

/-! ## Cutting a text at a byte -/

/-- The number of lines that end in a text which goes on with `rest`. -/
def lineEnds : (text rest : List Char) → Nat
  | [], _ => 0
  | c :: cs, rest => (if endsLine c (cs ++ rest) then 1 else 0) + lineEnds cs rest

/-- A line begins behind a text which goes on with `rest`. -/
def BeginsLine (text rest : List Char) : Prop :=
  text = [] ∨ ∃ start c, text = start ++ [c] ∧ endsLine c rest = true

/-- The place between two parts of a text: the lines that ended before it are counted, and what stands
before it on its line goes back to where that line begins. -/
structure LinePlace.Cuts (place : LinePlace) (front rest : List Char) : Prop where
  line : place.line = 1 + lineEnds front rest
  after : place.after = rest
  before : ∃ earlier, front = earlier ++ place.before ∧ BeginsLine earlier (place.before ++ rest) ∧
    lineEnds place.before rest = 0

theorem placeFrom_zero (line : Nat) (before rest : List Char) :
    placeFrom line before rest 0 = ⟨line, before.reverse, rest⟩ := by
  cases rest with
  | nil => rfl
  | cons c cs =>
    have hpos := c.utf8Size_pos
    rw [placeFrom, if_neg (by omega)]

theorem placeFrom_cons (line : Nat) (before : List Char) (c : Char) (cs : List Char) (n : Nat) :
    placeFrom line before (c :: cs) (c.utf8Size + n) =
      if endsLine c cs then placeFrom (line + 1) [] cs n else placeFrom line (c :: before) cs n := by
  rw [placeFrom, if_pos (Nat.le_add_right _ _), Nat.add_sub_cancel_left]

/-- Where a scan comes to at the end of `front`. Either it is still on the line on which it began, or the
line begins within `front`. -/
theorem placeFrom_byteSize (line : Nat) (before front rest : List Char) :
    let place := placeFrom line before (front ++ rest) (byteSize front)
    place.line = line + lineEnds front rest ∧ place.after = rest ∧
      ((lineEnds front rest = 0 ∧ place.before = before.reverse ++ front) ∨
        ∃ start c, front = start ++ [c] ++ place.before ∧
          endsLine c (place.before ++ rest) = true ∧ lineEnds place.before rest = 0) := by
  induction front generalizing line before with
  | nil =>
    have hzero : placeFrom line before ([] ++ rest) (byteSize []) = ⟨line, before.reverse, rest⟩ :=
      placeFrom_zero line before rest
    rw [hzero]
    exact ⟨rfl, rfl, .inl ⟨rfl, (List.append_nil _).symm⟩⟩
  | cons c cs ih =>
    intro place
    have hplace : place = if endsLine c (cs ++ rest)
        then placeFrom (line + 1) [] (cs ++ rest) (byteSize cs)
        else placeFrom line (c :: before) (cs ++ rest) (byteSize cs) := placeFrom_cons ..
    have hends : lineEnds (c :: cs) rest =
        (if endsLine c (cs ++ rest) then 1 else 0) + lineEnds cs rest := rfl
    split at hplace
    case isTrue hc =>
      obtain ⟨hline, hafter, hbefore⟩ := ih (line + 1) []
      rw [← hplace] at hline hafter hbefore
      rw [if_pos hc] at hends
      refine ⟨by omega, hafter, .inr ?_⟩
      rcases hbefore with ⟨hnone, hsame⟩ | ⟨start, d, hcs, hd, hnone⟩
      · -- no further line ends, so the line begins behind `c`
        rw [List.reverse_nil, List.nil_append] at hsame
        rw [hsame]
        exact ⟨[], c, rfl, hc, hnone⟩
      · exact ⟨c :: start, d, by rw [hcs]; simp, hd, hnone⟩
    case isFalse hc =>
      obtain ⟨hline, hafter, hbefore⟩ := ih line (c :: before)
      rw [← hplace] at hline hafter hbefore
      rw [if_neg hc] at hends
      refine ⟨by omega, hafter, ?_⟩
      rcases hbefore with ⟨hnone, hsame⟩ | ⟨start, d, hcs, hd, hnone⟩
      · exact .inl ⟨by omega, by rw [hsame]; simp⟩
      · exact .inr ⟨c :: start, d, by rw [hcs]; simp, hd, hnone⟩

/-- The place at the end of `front` is the one between it and the rest. -/
theorem placeAt_cuts (front rest : List Char) :
    (placeAt (front ++ rest) (byteSize front)).Cuts front rest := by
  obtain ⟨hline, hafter, hbefore⟩ := placeFrom_byteSize 1 [] front rest
  refine ⟨hline, hafter, ?_⟩
  rcases hbefore with ⟨hnone, hsame⟩ | ⟨start, c, hfront, hc, hnone⟩
  · refine ⟨[], hsame.symm, .inl rfl, ?_⟩
    rw [placeAt, hsame]
    exact hnone
  · exact ⟨start ++ [c], hfront, .inr ⟨start, c, rfl, hc⟩, hnone⟩

/-- A scan goes on from the place at the end of `front`. -/
theorem placeFrom_append (line : Nat) (before front rest : List Char) (n : Nat) :
    placeFrom line before (front ++ rest) (byteSize front + n) =
      placeFrom (placeFrom line before (front ++ rest) (byteSize front)).line
        (placeFrom line before (front ++ rest) (byteSize front)).before.reverse rest n := by
  -- a line end starts the remembered line anew, so the state is not fixed in the induction
  induction front generalizing line before with
  | nil =>
    show placeFrom line before rest (0 + n) = placeFrom (placeFrom line before rest 0).line
      (placeFrom line before rest 0).before.reverse rest n
    rw [placeFrom_zero, List.reverse_reverse, Nat.zero_add]
  | cons c cs ih =>
    rw [byteSize, List.cons_append, Nat.add_assoc, placeFrom_cons, placeFrom_cons]
    split
    · exact ih (line + 1) []
    · exact ih line (c :: before)

/-- No line feed stands before a place on its line. -/
theorem not_mem_of_lineEnds_eq_zero (h : lineEnds front rest = 0) : '\n' ∉ front := by
  induction front with
  | nil => exact List.not_mem_nil
  | cons c cs ih =>
    rw [lineEnds] at h
    have hc : ¬ endsLine c (cs ++ rest) = true := by
      intro hc
      rw [if_pos hc] at h
      omega
    rw [List.mem_cons, not_or]
    refine ⟨?_, ih (by omega)⟩
    rintro rfl
    exact hc rfl

/-! ## The order of places -/

/-- The place comes before another one: on an earlier line, or on the same line in an earlier column. -/
def LinePlace.Before (p q : LinePlace) : Prop :=
  p.line < q.line ∨ p.line = q.line ∧ p.column < q.column

/-- A scan either leaves its line or adds to it. -/
theorem placeFrom_cases (line : Nat) (before text : List Char) (n : Nat) :
    line < (placeFrom line before text n).line ∨
      (placeFrom line before text n).line = line ∧
        before.reverse <+: (placeFrom line before text n).before := by
  fun_induction placeFrom line before text n with
  | case1 => exact .inr ⟨rfl, List.prefix_refl _⟩
  | case2 line before c cs n hsize hends ih =>
    left
    rcases ih with hline | ⟨hline, -⟩ <;> omega
  | case3 line before c cs n hsize hends ih =>
    refine ih.imp_right fun h => ⟨h.1, ?_⟩
    rw [List.reverse_cons] at h
    exact (List.prefix_append _ _).trans h.2
  | case4 => exact .inr ⟨rfl, List.prefix_refl _⟩

/-- Behind a character that takes room and ends no line the place is a later one. -/
theorem placeAt_before {c : Char} {cs : List Char} (hends : endsLine c cs = false)
    (hroom : 0 < locationColumns c) (hn : c.utf8Size ≤ n) :
    (placeAt (front ++ c :: cs) (byteSize front)).Before
      (placeAt (front ++ c :: cs) (byteSize front + n)) := by
  obtain ⟨m, rfl⟩ := Nat.exists_eq_add_of_le hn
  unfold placeAt
  rw [placeFrom_append]
  generalize placeFrom 1 [] (front ++ c :: cs) (byteSize front) = p
  rw [placeFrom_cons, hends, if_neg Bool.false_ne_true]
  rcases placeFrom_cases p.line (c :: p.before.reverse) cs m with hline | ⟨hline, more, hmore⟩
  · exact .inl hline
  · refine .inr ⟨hline.symm, ?_⟩
    unfold LinePlace.column
    rw [← hmore]
    simp only [List.reverse_cons, List.reverse_reverse, List.map_append, List.map_cons, List.map_nil,
      ← List.sum_eq_foldr, List.sum_append, List.sum_cons, List.sum_nil]
    omega

/-! ## Names -/

/-- The text writes a name: its first character stands for itself or is given by an escape. -/
def writesName (name : String) (text : List Char) : Bool :=
  text.head?.any fun c => c == '\\' || name.toList.head? == some c

/-- The method of each call is written in the text, where the span of the name says. -/
def Source.NamesWritten (source : Source) : Prop :=
  ∀ site ∈ Lint.callSites (Lint.programEvents source.program),
    (sliceChars? source.body site.methodSpan).any (writesName site.method) = true

instance (source : Source) : Decidable source.NamesWritten :=
  inferInstanceAs (Decidable (∀ site ∈ Lint.callSites (Lint.programEvents source.program),
    (sliceChars? source.body site.methodSpan).any (writesName site.method) = true))

theorem writesName_iff {name : String} {text : List Char} :
    writesName name text = true ↔
      ∃ c cs, text = c :: cs ∧ (c = '\\' ∨ name.toList.head? = some c) := by
  cases text with
  | nil => simp [writesName]
  | cons c cs => simp [writesName]

/-- The name of the method that the lint is about begins at a byte of a text. -/
structure NameAt (body : List Char) (start : Nat) (front : List Char) (c : Char)
    (rest : List Char) : Prop where
  body : body = front ++ c :: rest
  start : byteSize front = start
  first : c = 'm' ∨ c = '\\'

namespace NameAt

variable {body : List Char} {start stop : Nat} {c : Char} (h : NameAt body start front c rest)

include h

theorem endsLine : endsLine c rest = false := by
  rcases h.first with rfl | rfl <;> rfl

theorem locationColumns : locationColumns c = 1 := by
  rcases h.first with rfl | rfl <;> rfl

theorem utf8Size : c.utf8Size = 1 := by
  rcases h.first with rfl | rfl <;> rfl

theorem cuts : (placeAt body start).Cuts front (c :: rest) := by
  rw [h.body, ← h.start]
  exact placeAt_cuts front (c :: rest)

/-- From a name on, every later byte is at a later place. -/
theorem placeAt_before (hlt : start < stop) : (placeAt body start).Before (placeAt body stop) := by
  obtain ⟨n, rfl⟩ := Nat.exists_eq_add_of_lt hlt
  rw [h.body, ← h.start, Nat.add_assoc]
  refine MapLint.placeAt_before h.endsLine ?_ ?_
  · rw [h.locationColumns]
    exact Nat.one_pos
  · rw [h.utf8Size]
    omega

end NameAt

end MapLint

namespace MapLint.Lint

theorem mem_callSites_iff {site : CallSite} {events : List Event} :
    site ∈ callSites events ↔ Event.call site ∈ events := by
  unfold callSites
  rw [List.mem_filterMap]
  constructor
  · rintro ⟨event, hevent, hsome⟩
    cases event with
    | receiverAssigned span => cases hsome
    | call s =>
      cases hsome
      exact hevent
  · exact fun h => ⟨_, h, rfl⟩

end MapLint.Lint

namespace MapLint.Source

open MapLint.Lint

variable {source : Source} {strictness : Strictness} {finding : Finding}

theorem exists_site_of_mem_findings (h : finding ∈ source.findings strictness) :
    ∃ site ∈ callSites (programEvents source.program), site.method = targetMethod ∧
      finding.anchor = site.methodSpan := by
  obtain ⟨site, state, hsite, hjudge⟩ := exists_call_of_mem_findings h
  obtain ⟨⟨-, hmethod⟩, -, -, _, _, _, -, -, -, -, rfl⟩ := judge_eq_ok_iff.mp hjudge
  exact ⟨site, mem_callSites_iff.mpr hsite, hmethod, rfl⟩

/-- A finding is anchored at a name. -/
theorem exists_nameAt (hnames : source.NamesWritten) (h : finding ∈ source.findings strictness) :
    ∃ front c rest, NameAt source.body finding.anchor.start front c rest := by
  obtain ⟨site, hsite, hmethod, hanchor⟩ := exists_site_of_mem_findings h
  obtain ⟨text, hslice, hwrites⟩ := (Option.any_eq_true _ _).mp (hnames site hsite)
  obtain ⟨c, cs, rfl, hfirst⟩ := writesName_iff.mp hwrites
  obtain ⟨front, after, hbody, hstart, -⟩ := (sliceChars?_eq_some_iff ..).mp hslice
  refine ⟨front, c, cs ++ after, ?_, by rw [hanchor, hstart], ?_⟩
  · rw [hbody, List.append_assoc, List.cons_append]
  · rw [hmethod] at hfirst
    exact hfirst.symm.imp_left fun h => (Option.some.inj h).symm

end MapLint.Source
