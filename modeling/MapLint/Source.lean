import MapLint.Script.Parse
import MapLint.Project.Path

/-!
# Source files

The text of a file may begin with a byte order mark, which is no part of the script and is kept
apart. The path of the file decides in which dialect it is read. The parser skips one more such mark
without counting it, so `body` and `code` differ where a file begins with two.

`parseSource` fails with a `ParseFailure`, which knows the file. It is `parseSourceWith` for the
parser of this library; what is done to the mark is the same for any reader. Where a text is
`Unmarked`, all three texts of its `Source` are the same.
-/

namespace MapLint

open MapLint.Script

/-- The mark that may stand at the start of a file. -/
def byteOrderMark : Char := '\uFEFF'

/-- Takes one mark off the start of a text. -/
def stripMark : List Char → List Char × Bool
  | c :: cs => if c == byteOrderMark then (cs, true) else (c :: cs, false)
  | [] => ([], false)

/-- Puts the mark back. -/
def restoreMark (marked : Bool) (text : List Char) : List Char :=
  if marked then byteOrderMark :: text else text

/-- The dialect of the file at a path. -/
def dialectOf (path : Path) : Dialect :=
  match path.extension? with
  | some "ts" => .typed false (path.endsIn ".d.ts")
  | some "mts" => .typed false (path.endsIn ".d.mts")
  | some "cts" => .typed false (path.endsIn ".d.cts")
  | some "tsx" => .typed true false
  | _ => .plain

/-- A file that was read as a script. -/
structure Source where
  /-- The text without the mark. -/
  code : List Char
  /-- The file began with a mark. -/
  marked : Bool
  /-- The text that the positions of the program count in. -/
  body : List Char
  program : Program
  comments : List Comment

/-- A file that cannot be read as a script. -/
structure ParseFailure where
  path : Path
  problem : Problem

/-- The wording of a failure. -/
def ParseFailure.message (failure : ParseFailure) : String :=
  "Failed to parse " ++ failure.path ++ ": " ++ failure.problem.text

/-- What reads a script in a dialect. -/
abbrev ScriptReader : Type := Dialect → List Char → Except Problem Parsed

/-- Reads the text of a file by means of a reader of scripts. -/
def parseSourceWith (read : ScriptReader) (path : Path) (text : List Char) :
    Except ParseFailure Source :=
  let (code, marked) := stripMark text
  let body := (stripMark code).1
  match read (dialectOf path) body with
  | .ok parsed => .ok ⟨code, marked, body, parsed.program, parsed.comments⟩
  | .error problem => .error ⟨path, problem⟩

/-- Reads the text of a file. -/
def parseSource (path : Path) (text : List Char) : Except ParseFailure Source :=
  parseSourceWith parseChars path text

/-! ## Texts without a mark -/

/-- The text does not begin with a mark. -/
def Unmarked (text : List Char) : Prop := text.head? ≠ some byteOrderMark

instance (text : List Char) : Decidable (Unmarked text) :=
  inferInstanceAs (Decidable (text.head? ≠ some byteOrderMark))

/-- An unmarked text has no mark to take off. -/
theorem Unmarked.stripMark_eq {text : List Char} (h : Unmarked text) :
    stripMark text = (text, false) := by
  cases text with
  | nil => rfl
  | cons c cs =>
    have hne : c ≠ byteOrderMark := by
      rintro rfl
      exact h rfl
    simp [stripMark, hne]

/-- The mark that was taken off can be put back, and where there was none the text is unmarked. -/
theorem stripMark_cases (text : List Char) :
    (Unmarked text ∧ stripMark text = (text, false)) ∨
      ∃ code, text = byteOrderMark :: code ∧ stripMark text = (code, true) := by
  by_cases h : Unmarked text
  · exact .inl ⟨h, h.stripMark_eq⟩
  · cases text with
    | nil => simp [Unmarked] at h
    | cons c cs =>
      have heq : c = byteOrderMark := by simpa [Unmarked] using h
      exact .inr ⟨cs, by rw [heq], by simp [stripMark, heq]⟩

/-- A text that begins with one mark at most is unmarked once that is taken off. -/
theorem unmarked_stripMark {text : List Char} (h : ¬ [byteOrderMark, byteOrderMark] <+: text) :
    Unmarked (stripMark text).1 := by
  rcases stripMark_cases text with ⟨hunmarked, hcode⟩ | ⟨code, rfl, hcode⟩
  · rw [hcode]
    exact hunmarked
  · rw [hcode]
    intro hhead
    obtain ⟨rest, rfl⟩ := List.head?_eq_some_iff.mp hhead
    exact h (by simp)

/-- Of an unmarked text all is read. -/
theorem Unmarked.parseSourceWith_eq {text : List Char} (h : Unmarked text) (read : ScriptReader)
    (path : Path) {source : Source} (hsource : parseSourceWith read path text = .ok source) :
    ∃ parsed, read (dialectOf path) text = .ok parsed ∧
      source = ⟨text, false, text, parsed.program, parsed.comments⟩ := by
  unfold parseSourceWith at hsource
  simp only [h.stripMark_eq] at hsource
  split at hsource
  case h_1 parsed hread =>
    cases hsource
    exact ⟨parsed, hread, rfl⟩
  case h_2 => cases hsource

theorem Unmarked.parseSourceWith_eq_ok {text : List Char} (h : Unmarked text) {read : ScriptReader}
    {path : Path} {parsed : Parsed} (hread : read (dialectOf path) text = .ok parsed) :
    parseSourceWith read path text =
      .ok ⟨text, false, text, parsed.program, parsed.comments⟩ := by
  simp only [parseSourceWith, h.stripMark_eq, hread]

/-- A text is read as what is left of it when its mark is taken off. -/
theorem parseSourceWith_of_stripMark {read : ScriptReader} {path : Path} {text code : List Char} {marked : Bool}
    {source : Source} (hstrip : stripMark text = (code, marked)) (hcode : Unmarked code)
    (h : parseSourceWith read path code = .ok source) :
    parseSourceWith read path text = .ok { source with marked } := by
  obtain ⟨parsed, hparsed, rfl⟩ := hcode.parseSourceWith_eq read path h
  simp only [parseSourceWith, hstrip, hcode.stripMark_eq, hparsed]

end MapLint
