import MapLint.Text.IdentifierChars
import MapLint.Script.Token

/-!
# Reading one token

`readToken` skips blanks and comments and reads the token behind them. What a slash, a brace or a
closing angle bracket begins depends on the grammar, so besides the plain reading there are
readings for a regular expression, for the rest of a template, and for the inside of an element.

## Architecture

- `Cursor` is the text that is left and the byte offset it starts at;
- every scanner is a structural recursion on the characters that are left;
- `Reading` collects what one step finds: the token, where it lies, the comments before it and the
  faults that do not stop the reading.

A number, string or name that is malformed beyond repair becomes a `Token.broken`; the grammar
decides what is reported.
-/

namespace MapLint.Script

/-- The text that is left and the byte offset at which it starts. -/
structure Cursor where
  rest : List Char
  pos : Nat
deriving Inhabited

namespace Cursor

/-- Moves past the first `n` characters. -/
def skip (c : Cursor) : Nat → Cursor
  | 0 => c
  | n + 1 =>
    match c.rest with
    | [] => c
    | x :: xs => skip ⟨xs, c.pos + x.utf8Size⟩ n

end Cursor

/-- A scanner's result: what it read and where it stopped. -/
structure Scanned (α : Type) where
  value : α
  cursor : Cursor

/-! ## Character classes -/

/-- Characters that end a line. -/
def isLineEnd (c : Char) : Bool :=
  c == '\n' || c == '\r' || c.toNat == 0x2028 || c.toNat == 0x2029

/-- Blanks between tokens, line ends apart. -/
def isSpace (c : Char) : Bool :=
  let n := c.toNat
  n == 0x20 || n == 0x09 || n == 0x0B || n == 0x0C || n == 0x85 || n == 0xA0 || n == 0xFEFF ||
    n == 0x1680 || (0x2000 ≤ n && n ≤ 0x200A) || n == 0x202F || n == 0x205F || n == 0x3000

/-- The value of a digit, letters counting from ten. -/
def digitValue? (c : Char) : Option Nat :=
  if c.isDigit then some (c.toNat - 48)
  else if 'a' ≤ c && c ≤ 'z' then some (c.toNat - 87)
  else if 'A' ≤ c && c ≤ 'Z' then some (c.toNat - 55)
  else none

/-- Digits of a radix. -/
def isDigitOf (radix : Nat) (c : Char) : Bool :=
  match digitValue? c with
  | some d => d < radix
  | none => false

/-! ## Blanks and comments -/

/-- Where the reading between two tokens stands. -/
inductive GapMode where
  | blank
  | line (start : Nat) (text : List Char)
  | block (start : Nat) (text : List Char)

/-- What lies between two tokens. -/
structure Gap where
  cursor : Cursor
  lineBreak : Bool
  comments : List Comment
  faults : List Fault

/-- Skips blanks and comments. `comments` grows at its front. A block comment that is not closed
runs to the end of the text and is a fault. -/
def skipGap : GapMode → List Char → Nat → Bool → List Comment → Gap
  | .blank, [], pos, nl, cmts => ⟨⟨[], pos⟩, nl, cmts, []⟩
  | .line start text, [], pos, nl, cmts =>
    ⟨⟨[], pos⟩, nl, ⟨false, String.ofList text.reverse, ⟨start, pos⟩⟩ :: cmts, []⟩
  | .block _ _, [], pos, nl, cmts => ⟨⟨[], pos⟩, nl, cmts, [⟨⟨pos, pos⟩, .unterminatedComment⟩]⟩
  | .blank, '/' :: '/' :: cs, pos, nl, cmts => skipGap (.line pos []) cs (pos + 2) nl cmts
  | .blank, '/' :: '*' :: cs, pos, nl, cmts => skipGap (.block pos []) cs (pos + 2) nl cmts
  | .block start text, '*' :: '/' :: cs, pos, nl, cmts =>
    skipGap .blank cs (pos + 2) nl
      (⟨true, String.ofList text.reverse, ⟨start, pos + 2⟩⟩ :: cmts)
  | .blank, c :: cs, pos, nl, cmts =>
    if isLineEnd c then skipGap .blank cs (pos + c.utf8Size) true cmts
    else if isSpace c then skipGap .blank cs (pos + c.utf8Size) nl cmts
    else ⟨⟨c :: cs, pos⟩, nl, cmts, []⟩
  | .line start text, c :: cs, pos, nl, cmts =>
    if isLineEnd c then
      skipGap .blank cs (pos + c.utf8Size) true
        (⟨false, String.ofList text.reverse, ⟨start, pos⟩⟩ :: cmts)
    else skipGap (.line start (c :: text)) cs (pos + c.utf8Size) nl cmts
  | .block start text, c :: cs, pos, nl, cmts =>
    skipGap (.block start (c :: text)) cs (pos + c.utf8Size) (nl || isLineEnd c) cmts

/-! ## Escapes -/

/-- Reads exactly `n` hexadecimal digits. -/
def scanHex : Nat → List Char → Nat → Option (Nat × List Char)
  | 0, cs, acc => some (acc, cs)
  | n + 1, c :: cs, acc =>
    if isDigitOf 16 c then scanHex n cs (acc * 16 + (digitValue? c).getD 0) else none
  | _ + 1, [], _ => none

/-- Reads hexadecimal digits up to a closing brace; `none` unless there are one to six. -/
def scanBracedHex : Nat → List Char → Nat → Bool → Option (Nat × List Char)
  | 0, _, _, _ => none
  | n + 1, c :: cs, acc, any =>
    if c == '\x7d' then if any then some (acc, cs) else none
    else if isDigitOf 16 c then scanBracedHex n cs (acc * 16 + (digitValue? c).getD 0) true
    else none
  | _ + 1, [], _, _ => none

/-- The character of a code, a replacement mark for codes that are no character. -/
def charOfCode (n : Nat) : Char := if n.isValidChar then Char.ofNat n else Char.ofNat 0xFFFD

/-- Reads what follows a backslash and the letter `u`. The number of bytes taken is its ASCII
length, since only digits and braces are taken. -/
def scanUnicodeEscape (cs : List Char) : Except String (Char × List Char) :=
  match cs with
  | '\x7b' :: more =>
    match scanBracedHex 7 more 0 false with
    | some (n, rest) =>
      if n ≤ 0x10FFFF then .ok (charOfCode n, rest) else .error "1-6 hex characters"
    | none => .error "1-6 hex characters"
  | _ =>
    match scanHex 4 cs 0 with
    | some (n, rest) => .ok (charOfCode n, rest)
    | none => .error "4 hex characters"

/-! ## Words -/

/-- Reads the rest of a name made of plain characters only. -/
def scanPlainName : List Char → Nat → List Char → Scanned (List Char)
  | [], pos, acc => ⟨acc.reverse, ⟨[], pos⟩⟩
  | c :: cs, pos, acc =>
    if isIdentPart c then scanPlainName cs (pos + c.utf8Size) (c :: acc)
    else ⟨acc.reverse, ⟨c :: cs, pos⟩⟩

/-- Reads a name in which characters may be written as escapes; `fuel` bounds their number. -/
def scanName : Nat → Cursor → List Char → Bool → Except Fault (Scanned (List Char × Bool))
  | 0, cur, acc, escaped => .ok ⟨(acc.reverse, escaped), cur⟩
  | fuel + 1, cur, acc, escaped =>
    match cur.rest with
    | '\\' :: 'u' :: more =>
      match scanUnicodeEscape more with
      | .ok (c, rest) =>
        scanName fuel ⟨rest, cur.pos + 2 + (more.length - rest.length)⟩ (c :: acc) true
      | .error wanted => .error ⟨⟨cur.pos, cur.pos⟩, .badEscape wanted⟩
    | '\\' :: _ => .error ⟨⟨cur.pos, cur.pos⟩, .badEscape "unicode escape"⟩
    | _ =>
      let plain := scanPlainName cur.rest cur.pos []
      match plain.value with
      | [] => .ok ⟨(acc.reverse, escaped), cur⟩
      | name => scanName fuel plain.cursor (name.reverse ++ acc) escaped

/-! ## Numbers -/

/-- Digits with separators. -/
structure Digits where
  digits : List Char
  misplaced : Bool

/-- Reads digits of a radix. A separator has to stand between two digits. -/
def scanDigits (radix : Nat) : List Char → Nat → Bool → Digits → Scanned Digits
  | '_' :: cs, pos, afterDigit, d =>
    let beforeDigit := match cs with
      | c :: _ => isDigitOf radix c
      | [] => false
    scanDigits radix cs (pos + 1) false
      ⟨d.digits, d.misplaced || !afterDigit || !beforeDigit⟩
  | c :: cs, pos, _, d =>
    if isDigitOf radix c then scanDigits radix cs (pos + 1) true ⟨c :: d.digits, d.misplaced⟩
    else ⟨⟨d.digits.reverse, d.misplaced⟩, ⟨c :: cs, pos⟩⟩
  | [], pos, _, d => ⟨⟨d.digits.reverse, d.misplaced⟩, ⟨[], pos⟩⟩

/-- A token with the faults that do not stop the reading; those of strict code only are apart. -/
structure Spelled where
  token : Token
  faults : List Fault
  strictFaults : List Fault
  cursor : Cursor

/-- A number must not run into a name. -/
def endNumber (start : Nat) (token : Token) (misplaced : Bool) (strictFaults : List Fault)
    (cur : Cursor) : Spelled :=
  let faults := if misplaced then [⟨⟨start, start⟩, .misplacedSeparator⟩] else []
  let broken : Spelled :=
    ⟨.broken ⟨⟨cur.pos, cur.pos⟩, .identifierAfterNumber⟩, faults, strictFaults, cur⟩
  match cur.rest with
  | c :: _ => if isIdentStart c then broken else ⟨token, faults, strictFaults, cur⟩
  | [] => ⟨token, faults, strictFaults, cur⟩

/-- Reads the exponent of a number, if there is one. -/
def scanExponent (start : Nat) (misplaced : Bool) (strictFaults : List Fault) (cur : Cursor) :
    Spelled :=
  let read (signed : Cursor) : Spelled :=
    let ds := scanDigits 10 signed.rest signed.pos false ⟨[], false⟩
    if ds.value.digits.isEmpty then
      ⟨.broken ⟨⟨signed.pos, signed.pos⟩, .digitExpected 10⟩, [], strictFaults, ds.cursor⟩
    else endNumber start .number (misplaced || ds.value.misplaced) strictFaults ds.cursor
  match cur.rest with
  | c :: cs =>
    if c == 'e' || c == 'E' then
      match cs with
      | [] => ⟨.broken ⟨⟨cur.pos + 1, cur.pos + 1⟩, .exponentExpected⟩, [], strictFaults, ⟨[], cur.pos + 1⟩⟩
      | d :: ds =>
        if d == '+' || d == '-' then read ⟨ds, cur.pos + 2⟩ else read ⟨d :: ds, cur.pos + 1⟩
    else endNumber start .number misplaced strictFaults cur
  | [] => endNumber start .number misplaced strictFaults cur

/-- Reads the fraction of a number, if there is one, and then its exponent. -/
def scanFraction (start : Nat) (misplaced : Bool) (strictFaults : List Fault) (cur : Cursor) :
    Spelled :=
  match cur.rest with
  | '.' :: cs =>
    let ds := scanDigits 10 cs (cur.pos + 1) false ⟨[], false⟩
    scanExponent start (misplaced || ds.value.misplaced) strictFaults ds.cursor
  | _ => scanExponent start misplaced strictFaults cur

/-- Reads a number with a radix mark, from behind the mark. -/
def scanRadix (start radix : Nat) (cur : Cursor) : Spelled :=
  let ds := scanDigits radix cur.rest cur.pos false ⟨[], false⟩
  if ds.value.digits.isEmpty then
    ⟨.broken ⟨⟨cur.pos, cur.pos⟩, .digitExpected radix⟩, [], [], ds.cursor⟩
  else
    match ds.cursor.rest with
    | 'n' :: cs => endNumber start .bigint ds.value.misplaced [] ⟨cs, ds.cursor.pos + 1⟩
    | _ => endNumber start .number ds.value.misplaced [] ds.cursor

/-- Reads a number that starts with a digit. A leading zero before other digits is the old way to
write octal numbers, which strict code does not allow. -/
def scanNumber (cur : Cursor) : Spelled :=
  match cur.rest with
  | '0' :: 'x' :: cs => scanRadix cur.pos 16 ⟨cs, cur.pos + 2⟩
  | '0' :: 'X' :: cs => scanRadix cur.pos 16 ⟨cs, cur.pos + 2⟩
  | '0' :: 'o' :: cs => scanRadix cur.pos 8 ⟨cs, cur.pos + 2⟩
  | '0' :: 'O' :: cs => scanRadix cur.pos 8 ⟨cs, cur.pos + 2⟩
  | '0' :: 'b' :: cs => scanRadix cur.pos 2 ⟨cs, cur.pos + 2⟩
  | '0' :: 'B' :: cs => scanRadix cur.pos 2 ⟨cs, cur.pos + 2⟩
  | _ =>
    let ds := scanDigits 10 cur.rest cur.pos false ⟨[], false⟩
    match ds.value.digits with
    | '0' :: d :: more =>
      if (d :: more).all (isDigitOf 8) then
        endNumber cur.pos .number ds.value.misplaced [⟨⟨cur.pos, cur.pos⟩, .legacyOctal⟩] ds.cursor
      else scanFraction cur.pos ds.value.misplaced [⟨⟨cur.pos, cur.pos⟩, .legacyDecimal⟩] ds.cursor
    | _ =>
      match ds.cursor.rest with
      | 'n' :: cs => endNumber cur.pos .bigint ds.value.misplaced [] ⟨cs, ds.cursor.pos + 1⟩
      | _ => scanFraction cur.pos ds.value.misplaced [] ds.cursor

/-! ## Strings and templates -/

/-- Reads the characters after a backslash. The result is the character that is meant, if any,
whether it was an old octal escape, and the rest; or what was missing. -/
def scanEscape (cs : List Char) : Except String (Option Char × Bool × List Char) :=
  match cs with
  | '\r' :: '\n' :: rest => .ok (none, false, rest)
  | 'n' :: rest => .ok (some '\n', false, rest)
  | 'r' :: rest => .ok (some '\r', false, rest)
  | 't' :: rest => .ok (some '\t', false, rest)
  | 'b' :: rest => .ok (some (Char.ofNat 8), false, rest)
  | 'v' :: rest => .ok (some (Char.ofNat 11), false, rest)
  | 'f' :: rest => .ok (some (Char.ofNat 12), false, rest)
  | 'x' :: rest =>
    match scanHex 2 rest 0 with
    | some (n, rest) => .ok (some (charOfCode n), false, rest)
    | none => .error "2 hex characters"
  | 'u' :: rest =>
    match scanUnicodeEscape rest with
    | .ok (c, rest) => .ok (some c, false, rest)
    | .error wanted => .error wanted
  | c :: rest =>
    if isLineEnd c then .ok (none, false, rest)
    else if isDigitOf 8 c then
      match rest with
      | d :: more =>
        if isDigitOf 8 d then
          match more with
          | e :: most =>
            if isDigitOf 8 e && c ≤ '3' then .ok (some c, true, most) else .ok (some c, true, more)
          | [] => .ok (some c, true, more)
        else .ok (some (if c == '0' then Char.ofNat 0 else c), c != '0' || d.isDigit, rest)
      | [] => .ok (some (Char.ofNat 0), c != '0', rest)
    else .ok (some c, false, rest)
  | [] => .ok (none, false, [])

/-- Reads a string literal from behind its opening quote. A line end or the end of the text before
the closing quote is a fault that does not stop the reading. `fuel` bounds the characters read. -/
def scanString (start : Nat) (quote : Char) :
    Nat → Cursor → List Char → Bool → List Fault → Spelled
  | 0, cur, _, _, _ => ⟨.broken ⟨⟨cur.pos, cur.pos⟩, .outOfSteps⟩, [], [], cur⟩
  | fuel + 1, cur, acc, plain, strictFaults =>
    let unterminated : Spelled :=
      ⟨.string (String.ofList acc.reverse) plain, [⟨⟨start, start⟩, .unterminatedString⟩],
        strictFaults, cur⟩
    match cur.rest with
    | [] => unterminated
    | c :: cs =>
      if c == quote then
        ⟨.string (String.ofList acc.reverse) plain, [], strictFaults, ⟨cs, cur.pos + 1⟩⟩
      else if c == '\\' then
        match scanEscape cs with
        | .ok (meant, octal, rest) =>
          let next : Cursor := ⟨rest, cur.pos + 1 + (byteSize cs - byteSize rest)⟩
          scanString start quote fuel next (meant.toList ++ acc) false
            (if octal then ⟨⟨cur.pos, cur.pos⟩, .legacyOctal⟩ :: strictFaults else strictFaults)
        | .error wanted =>
          ⟨.broken ⟨⟨cur.pos, cur.pos⟩, .badEscape wanted⟩, [], strictFaults, ⟨cs, cur.pos + 1⟩⟩
      else if c == '\n' || c == '\r' then unterminated
      else scanString start quote fuel ⟨cs, cur.pos + c.utf8Size⟩ (c :: acc) plain strictFaults

/-- Reads a stretch of a template: up to the closing backquote, or up to and including the mark
that opens a substitution. -/
def scanTemplate (start : Nat) (first : Bool) : Nat → Cursor → Option Fault → Spelled
  | 0, cur, _ => ⟨.broken ⟨⟨cur.pos, cur.pos⟩, .outOfSteps⟩, [], [], cur⟩
  | fuel + 1, cur, wrong =>
    match cur.rest with
    | [] => ⟨.broken ⟨⟨start, start⟩, .unterminatedTemplate⟩, [], [], cur⟩
    | '$' :: '\x7b' :: cs => ⟨.template first false wrong, [], [], ⟨cs, cur.pos + 2⟩⟩
    | '\x60' :: cs => ⟨.template first true wrong, [], [], ⟨cs, cur.pos + 1⟩⟩
    | '\\' :: cs =>
      match scanEscape cs with
      | .ok (_, octal, rest) =>
        let fault := if octal then some ⟨⟨cur.pos, cur.pos⟩, .legacyOctal⟩ else none
        scanTemplate start first fuel ⟨rest, cur.pos + 1 + (byteSize cs - byteSize rest)⟩
          (wrong <|> fault)
      | .error wanted =>
        match cs with
        | [] => scanTemplate start first fuel ⟨[], cur.pos + 1⟩ wrong
        | c :: more =>
          scanTemplate start first fuel ⟨more, cur.pos + 1 + c.utf8Size⟩
            (wrong <|> some ⟨⟨cur.pos, cur.pos⟩, .badEscape wanted⟩)
    | c :: cs => scanTemplate start first fuel ⟨cs, cur.pos + c.utf8Size⟩ wrong

/-! ## Regular expressions -/

/-- Reads the body of a regular expression from behind its opening slash; a slash inside a
character class does not end it. -/
def scanRegex (start : Nat) : Bool → Nat → Cursor → Spelled
  | _, 0, cur => ⟨.broken ⟨⟨cur.pos, cur.pos⟩, .outOfSteps⟩, [], [], cur⟩
  | inClass, fuel + 1, cur =>
    let unterminated : Spelled := ⟨.broken ⟨⟨start, start⟩, .unterminatedRegex⟩, [], [], cur⟩
    match cur.rest with
    | [] => unterminated
    | c :: cs =>
      if isLineEnd c then unterminated
      else if c == '\\' then
        match cs with
        | [] => unterminated
        | d :: ds =>
          if isLineEnd d then unterminated
          else scanRegex start inClass fuel ⟨ds, cur.pos + 1 + d.utf8Size⟩
      else if c == '/' && !inClass then
        let flags := scanPlainName cs (cur.pos + 1) []
        ⟨.regex flags.value, [], [], flags.cursor⟩
      else
        let inClass := if c == '[' then true else if c == ']' then false else inClass
        scanRegex start inClass fuel ⟨cs, cur.pos + c.utf8Size⟩

/-! ## Punctuators -/

/-- All punctuators, longer ones before their beginnings. -/
def punctuators : List (List Char × String) :=
  [">>>=", "...", "===", "!==", "**=", "<<=", ">>=", ">>>", "&&=", "||=", "??=", "=>", "==", "!=",
    "<=", ">=", "&&", "||", "??", "?.", "++", "--", "+=", "-=", "*=", "/=", "%=", "&=", "|=", "^=",
    "<<", ">>", "**", "\x7b", "\x7d", "(", ")", "[", "]", ";", ",", "<", ">", "+", "-", "*", "/",
    "%", "&", "|", "^", "!", "~", "?", ":", "=", ".", "#", "@"].map fun p => (p.toList, p)

/-- The punctuator that the text starts with. A question mark and a dot before a digit are the
start of a conditional whose first branch is a number. -/
def punctuatorOf (cs : List Char) : Option String :=
  match cs with
  | '?' :: '.' :: c :: _ => if c.isDigit then some "?" else find cs
  | _ => find cs
where
  find (cs : List Char) : Option String :=
    (punctuators.find? fun p => p.1.isPrefixOf cs).map (·.2)

/-! ## One token -/

/-- What one step of reading finds. `start` may lie before the token's own characters: a comment
in the style of markup counts as its beginning. -/
structure Reading where
  token : Token
  start : Nat
  /-- Where the token's own characters begin. -/
  here : Cursor
  /-- What follows the token. -/
  after : Cursor
  lineBreak : Bool
  comments : List Comment
  faults : List Fault
  strictFaults : List Fault
deriving Inhabited

/-- The token that the characters spell, blanks and comments already skipped. -/
def spellToken (cur : Cursor) : Spelled :=
  match cur.rest with
  | [] => ⟨.eof, [], [], cur⟩
  | c :: cs =>
    if c == '"' || c == '\'' then
      scanString cur.pos c (cs.length + 2) ⟨cs, cur.pos + 1⟩ [] true []
    else if c == '\x60' then
      scanTemplate cur.pos true (cs.length + 2) ⟨cs, cur.pos + 1⟩ none
    else if c.isDigit then scanNumber cur
    else if isIdentStart c then
      let plain := scanPlainName cs (cur.pos + c.utf8Size) [c]
      match plain.cursor.rest with
      | '\\' :: _ =>
        match scanName (cs.length + 2) plain.cursor plain.value.reverse false with
        | .ok ⟨(name, escaped), after⟩ => ⟨.word (String.ofList name) escaped, [], [], after⟩
        | .error fault => ⟨.broken fault, [], [], plain.cursor⟩
      | _ => ⟨.word (String.ofList plain.value) false, [], [], plain.cursor⟩
    else if c == '\\' then
      match scanName (cs.length + 2) cur [] false with
      | .ok ⟨(name, escaped), after⟩ => ⟨.word (String.ofList name) escaped, [], [], after⟩
      | .error fault => ⟨.broken fault, [], [], ⟨cs, cur.pos + 1⟩⟩
    else
      let fraction := match c, cs with
        | '.', d :: _ => d.isDigit
        | _, _ => false
      if fraction then scanFraction cur.pos false [] cur
      else
        match punctuatorOf cur.rest with
        | some p => ⟨.punct p, [], [], cur.skip p.length⟩
        | none =>
          ⟨.broken ⟨⟨cur.pos, cur.pos⟩, .unexpectedChar c⟩, [], [],
            ⟨cs, cur.pos + c.utf8Size⟩⟩

/-- Whether the text starts with the opening mark of a comment in the style of markup. -/
def opensMarkupComment (cs : List Char) : Bool := ['<', '!', '-', '-'].isPrefixOf cs

/-- Whether the text starts with the closing mark of such a comment, which begins a comment where it
is the first thing on its line. -/
def closesMarkupComment (cs : List Char) : Bool := ['-', '-', '>'].isPrefixOf cs

/-- Whether a gap ends at a comment in the style of markup. -/
def Gap.endsAtMarkupComment (gap : Gap) : Bool :=
  opensMarkupComment gap.cursor.rest || (gap.lineBreak && closesMarkupComment gap.cursor.rest)

/-- The token at the end of a gap, taken to start at `start`. -/
def readAt (start : Nat) (gap : Gap) (strictFaults : List Fault) : Reading :=
  let s := spellToken gap.cursor
  ⟨s.token, start, gap.cursor, s.cursor, gap.lineBreak, gap.comments, s.faults ++ gap.faults,
    s.strictFaults ++ strictFaults⟩

/-- Reads the token behind at most `n` comments in the style of markup. It is taken to start at the
first of them. -/
def readPastComments (start : Nat) : (n : Nat) → Gap → List Fault → Reading
  | 0, gap, strictFaults => readAt start gap strictFaults
  | n + 1, gap, strictFaults =>
    if gap.endsAtMarkupComment then
      let cur := gap.cursor
      let opens := opensMarkupComment cur.rest
      let body := cur.skip (if opens then 4 else 3)
      let next := skipGap (.line (cur.skip (if opens then 1 else 3)).pos []) body.rest body.pos
        gap.lineBreak gap.comments
      readPastComments start n
        ⟨next.cursor, next.lineBreak, next.comments, gap.faults ++ next.faults⟩
        (⟨⟨start, start⟩, .htmlCommentInModule⟩ :: strictFaults)
    else readAt start gap strictFaults

/-- Reads the next token. `atStart` says that no token came before, which counts as a line break. -/
def readToken (atStart : Bool) (cur : Cursor) : Reading :=
  let gap := skipGap .blank cur.rest cur.pos atStart []
  let most := if gap.endsAtMarkupComment then gap.cursor.rest.length else 0
  readPastComments gap.cursor.pos most gap []

/-- A first line that starts with a number sign and an exclamation mark names an interpreter and
is no part of the script. -/
def skipInterpreterLine (cur : Cursor) : Cursor :=
  match cur.rest with
  | '#' :: '!' :: _ => go cur.rest cur.pos
  | _ => cur
where
  go : List Char → Nat → Cursor
    | [], pos => ⟨[], pos⟩
    | c :: cs, pos => if isLineEnd c then ⟨c :: cs, pos⟩ else go cs (pos + c.utf8Size)

/-! ## Readings that the grammar asks for -/

/-- The regular expression that starts at the slash under the cursor. -/
def readRegex (cur : Cursor) : Spelled :=
  let body := cur.skip 1
  scanRegex cur.pos false (body.rest.length + 1) body

/-- The rest of a template, from behind the brace that closes a substitution. -/
def readTemplateRest (cur : Cursor) : Spelled := scanTemplate cur.pos false (cur.rest.length + 1) cur none

/-- The running text of an element. -/
def scanMarkupText : List Char → Nat → List Fault → Scanned (List Fault)
  | [], pos, faults => ⟨faults, ⟨[], pos⟩⟩
  | c :: cs, pos, faults =>
    if c == '<' || c == '\x7b' then ⟨faults, ⟨c :: cs, pos⟩⟩
    else if c == '>' then
      scanMarkupText cs (pos + 1)
        (⟨⟨pos, pos⟩, .markupTextChar ["\x60\x7b'>'\x7d\x60", "\x60&gt;\x60"]⟩ :: faults)
    else if c == '\x7d' then
      scanMarkupText cs (pos + 1)
        (⟨⟨pos, pos⟩, .markupTextChar ["\x60\x7b'\x7d'\x7d\x60", "\x60&rbrace;\x60"]⟩ :: faults)
    else scanMarkupText cs (pos + c.utf8Size) faults

/-- The token between the tags of an element: text, the start of a tag, or a brace. -/
def readMarkupChild (cur : Cursor) : Spelled :=
  match cur.rest with
  | [] => ⟨.eof, [], [], cur⟩
  | '<' :: '/' :: cs => ⟨.punct "</", [], [], ⟨cs, cur.pos + 2⟩⟩
  | '<' :: cs => ⟨.punct "<", [], [], ⟨cs, cur.pos + 1⟩⟩
  | '\x7b' :: cs => ⟨.punct "\x7b", [], [], ⟨cs, cur.pos + 1⟩⟩
  | _ =>
    let text := scanMarkupText cur.rest cur.pos []
    ⟨.markupText, text.value, [], text.cursor⟩

/-- The rest of a name in a tag, which may contain hyphens; `fuel` bounds their number. -/
def scanMarkupName : Nat → Cursor → List Char → Except Fault (Scanned (List Char))
  | 0, cur, acc => .ok ⟨acc, cur⟩
  | fuel + 1, cur, acc =>
    match scanName (cur.rest.length + 1) cur [] false with
    | .error fault => .error fault
    | .ok ⟨(part, _), after⟩ =>
      match after.rest with
      | '-' :: rest => scanMarkupName fuel ⟨rest, after.pos + 1⟩ (acc ++ part ++ ['-'])
      | _ => .ok ⟨acc ++ part, after⟩

/-- Reads the value of an attribute up to the closing quote. It has no escapes and may span
lines. -/
def scanMarkupString (quote : Char) : List Char → Nat → Option Cursor
  | [], _ => none
  | c :: cs, pos =>
    if c == quote then some ⟨cs, pos + 1⟩ else scanMarkupString quote cs (pos + c.utf8Size)

end MapLint.Script
