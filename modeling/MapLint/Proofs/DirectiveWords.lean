import Mathlib.Data.List.TakeWhile
import MapLint.Lint.Directive

/-!
# The first word of a comment

A comment is a directive if its first word is one of three, and a remark may follow. One of the words begins
another one, so it looks as if the longer had to be tried first. It need not: a word ends at a blank character
or with the text, and by then the first word of the comment has been read as a whole. A text has one first
word, so at most one directive is found in it, in whatever order they are tried.

## Architecture

- `Trimmed` and `FirstWord` say what is cut off a comment and what is read of the rest, without a scan;
- `firstWord_iff` finds the first word, and `startsWithWord_iff` is the test for one word;
- `directive_is_first_word` joins them.
-/

namespace MapLint.Lint

/-! ## Trimming -/

/-- What is left of a text when the blank characters at both its ends are dropped. -/
structure Trimmed (text inner : List Char) : Prop where
  cut : ∃ before after, text = before ++ inner ++ after ∧
    (∀ c ∈ before, isBlank c = true) ∧ ∀ c ∈ after, isBlank c = true
  front : ∀ c, inner.head? = some c → isBlank c = false
  back : ∀ c, inner.getLast? = some c → isBlank c = false

theorem head?_dropWhile_isBlank {cs : List Char} {c : Char} (h : (cs.dropWhile isBlank).head? = some c) :
    isBlank c = false := by
  have hhead := List.head?_dropWhile_not isBlank cs
  rw [h] at hhead
  simpa using hhead

theorem trimmed_trim (text : List Char) : Trimmed text (trim text) := by
  -- the blanks at the end stand in front when the text is read backwards
  have hend : trimStart text = trim text ++ ((trimStart text).reverse.takeWhile isBlank).reverse := by
    have hback : (trimStart text).reverse.takeWhile isBlank ++ (trimStart text).reverse.dropWhile isBlank =
        (trimStart text).reverse := List.takeWhile_append_dropWhile
    rw [← List.reverse_inj, List.reverse_append, List.reverse_reverse]
    simp only [trim, trimEnd, List.reverse_reverse, hback]
  refine ⟨⟨text.takeWhile isBlank, ((trimStart text).reverse.takeWhile isBlank).reverse, ?_, ?_, ?_⟩, ?_, ?_⟩
  · rw [List.append_assoc, ← hend]
    exact List.takeWhile_append_dropWhile.symm
  · exact fun c hc => List.mem_takeWhile_imp hc
  · exact fun c hc => List.mem_takeWhile_imp (List.mem_reverse.mp hc)
  · intro c hc
    -- what is cut off at the end leaves the first character where it is
    have hfront : (trimStart text).head? = some c := by
      rw [hend, List.head?_append, hc]
      rfl
    exact head?_dropWhile_isBlank hfront
  · intro c hc
    rw [trim, trimEnd, List.getLast?_reverse] at hc
    exact head?_dropWhile_isBlank hc

/-! ## First words -/

/-- The longest beginning of a text that has no blank character in it. -/
structure FirstWord (text word : List Char) : Prop where
  begins : word <+: text
  unbroken : ∀ c ∈ word, isBlank c = false
  longest : ∀ other, other <+: text → (∀ c ∈ other, isBlank c = false) → other.length ≤ word.length

variable {text word : List Char}

theorem firstWord_iff : FirstWord text word ↔ text.takeWhile (fun c => !isBlank c) = word := by
  have hread : text.takeWhile (fun c => !isBlank c) <+: text := List.takeWhile_prefix _
  have hunbroken : ∀ c ∈ text.takeWhile (fun c => !isBlank c), isBlank c = false := fun c hc => by
    simpa using List.mem_takeWhile_imp hc
  -- a beginning without blanks is read to its end
  have hlongest : ∀ other, other <+: text → (∀ c ∈ other, isBlank c = false) →
      other <+: text.takeWhile (fun c => !isBlank c) := by
    intro other hother hblank
    obtain ⟨rest, rfl⟩ := hother
    have hread : (other ++ rest).takeWhile (fun c => !isBlank c) =
        other ++ rest.takeWhile (fun c => !isBlank c) :=
      List.takeWhile_append_of_pos fun c hc => by simp [hblank c hc]
    exact ⟨_, hread.symm⟩
  constructor
  · intro h
    have hle := h.longest _ hread hunbroken
    exact ((hlongest word h.begins h.unbroken).eq_of_length_le hle).symm
  · rintro rfl
    exact ⟨hread, hunbroken, fun other hother hblank => (hlongest other hother hblank).length_le⟩

theorem FirstWord.unique {word' : List Char} (h : FirstWord text word) (h' : FirstWord text word') :
    word = word' :=
  (firstWord_iff.mp h).symm.trans (firstWord_iff.mp h')

namespace Directive

/-- A text starts with a word, and the word ends there, exactly if this is its first word. -/
theorem startsWithWord_iff (hword : ∀ c ∈ word, isBlank c = false) :
    startsWithWord word text = true ↔ FirstWord text word := by
  rw [firstWord_iff]
  -- along the word, as the test goes; what follows it is looked at in the second case
  fun_induction startsWithWord word text with
  | case1 => simp
  | case2 c cs => simp [List.takeWhile_cons]
  | case3 w ws => simp
  | case4 w ws c cs ih =>
    obtain ⟨hw, hws⟩ := List.forall_mem_cons.mp hword
    rw [Bool.and_eq_true, beq_iff_eq, ih hws]
    by_cases hwc : w = c
    · subst hwc
      simp [hw]
    · have hne : ¬ c = w := fun heq => hwc heq.symm
      by_cases hc : isBlank c = true <;> simp [hc, hwc, hne]

theorem unbroken_word (d : Directive) : ∀ c ∈ d.word.toList, isBlank c = false := by
  have hall : d.word.toList.all (fun c => !isBlank c) = true := by cases d <;> decide
  intro c hc
  simpa using List.all_eq_true.mp hall c hc

theorem word_inj {d d' : Directive} (h : d.word.toList = d'.word.toList) : d = d' := by
  have hword : d.word = d'.word := String.toList_inj.mp h
  cases d <;> cases d' <;> first | rfl | exact absurd hword (by decide)

theorem startsWithWord_word_iff {d : Directive} :
    startsWithWord d.word.toList text = true ↔ FirstWord text d.word.toList :=
  startsWithWord_iff d.unbroken_word

theorem eq_of_firstWord {d d' : Directive} (h : FirstWord text d.word.toList)
    (h' : FirstWord text d'.word.toList) : d = d' :=
  word_inj (h.unique h')

/-- Whatever the order in which all directives are tried, the one that is found is the first word. -/
theorem find?_eq_some_iff {order : List Directive} (hall : ∀ d, d ∈ order) {d : Directive} :
    order.find? (fun d => startsWithWord d.word.toList text) = some d ↔ FirstWord text d.word.toList := by
  constructor
  · intro hfound
    have htest := List.find?_some hfound
    exact startsWithWord_word_iff.mp htest
  · intro hword
    have htest : startsWithWord d.word.toList text = true := startsWithWord_word_iff.mpr hword
    -- something is found, and there is nothing else to find
    cases hfound : order.find? (fun d => startsWithWord d.word.toList text) with
    | none => exact absurd htest (List.find?_eq_none.mp hfound d (hall d))
    | some d' =>
      have htest' := List.find?_some hfound
      rw [eq_of_firstWord hword (startsWithWord_word_iff.mp htest')]

theorem mem_tried (d : Directive) : d ∈ [disableNextLine, disable, enable] := by
  cases d <;> decide

theorem ofText?_eq_some_iff {d : Directive} :
    ofText? text = some d ↔ FirstWord (trim text) d.word.toList :=
  find?_eq_some_iff mem_tried

/-- A comment is a directive exactly if the first word of its text, without the blanks around that, is the
word of the directive. At most one of the words passes the test, and so all orders in which they can be tried
come to the same. -/
theorem directive_is_first_word (text : List Char) :
    Trimmed text (trim text) ∧
    (∀ d, ofText? text = some d ↔ FirstWord (trim text) d.word.toList) ∧
    (ofText? text = none ↔ ∀ d : Directive, ¬ FirstWord (trim text) d.word.toList) ∧
    (∀ d d' : Directive, startsWithWord d.word.toList (trim text) = true →
      startsWithWord d'.word.toList (trim text) = true → d = d') ∧
    ∀ order : List Directive, (∀ d, d ∈ order) →
      order.find? (fun d => startsWithWord d.word.toList (trim text)) = ofText? text := by
  refine ⟨trimmed_trim text, fun d => ofText?_eq_some_iff, ?_, fun d d' h h' => ?_, fun order hall => ?_⟩
  · rw [Option.eq_none_iff_forall_ne_some]
    exact forall_congr' fun d => not_congr ofText?_eq_some_iff
  · exact eq_of_firstWord (startsWithWord_word_iff.mp h) (startsWithWord_word_iff.mp h')
  · refine Option.ext fun d => ?_
    exact (find?_eq_some_iff hall).trans ofText?_eq_some_iff.symm

/-- The longer word is found although the shorter one, which it begins with, is tried before. -/
theorem directive_is_first_word_shorterFirst :
    (∀ d, d ∈ [enable, disable, disableNextLine]) ∧
    [enable, disable, disableNextLine].find? (fun d => startsWithWord d.word.toList
      (trim "\u00a0native-map-disable-next-line\u2003-- kept".toList)) = some disableNextLine := by
  have hall : ∀ d, d ∈ [enable, disable, disableNextLine] := fun d => by cases d <;> decide
  obtain ⟨-, -, -, -, hsame⟩ :=
    directive_is_first_word "\u00a0native-map-disable-next-line\u2003-- kept".toList
  exact ⟨hall, (hsame _ hall).trans (by decide +kernel)⟩

end Directive

end MapLint.Lint
