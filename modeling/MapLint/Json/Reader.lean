import MapLint.Json.Fault
import MapLint.Text.Shortest
import MapLint.Text.Span

/-!
# Reading a JSON text

A text is read from left to right without building a tree: the caller knows which value it wants
next and asks for it, and `skipValue` passes over a value that nobody wants. A fault is reported
where the reading stands, or one byte further where it was noticed by looking at the next one.

## Architecture

- `Cursor` is what is left of the text and where that is;
- `Reader` reads from a cursor and may fail;
- `readString` and `readNumber` read scalars, `skipValue` skips any value;
- `wrongKind` describes the value that stands in the place of another;
- `hasElement`, `hasField` and `colon` go through lists and objects.
-/

namespace MapLint.Json

/-- What is left of a text and the place where it begins. -/
structure Cursor where
  rest : List Char
  line : Nat := 1
  column : Nat := 0

/-- The place so many bytes further on. -/
def placeAfter (line column : Nat) : Nat → List Char → Nat × Nat
  | 0, _ => (line, column)
  | _, [] => (line, column)
  | n + 1, c :: cs =>
    if c == '\n' then placeAfter (line + 1) 0 n cs
    else if c.utf8Size ≤ n + 1 then placeAfter line (column + c.utf8Size) (n + 1 - c.utf8Size) cs
    else (line, column + (n + 1))

namespace Cursor

/-- An error at the place so many bytes further on. -/
def error (c : Cursor) (bytes : Nat) (fault : Fault) : Error :=
  let (line, column) := placeAfter c.line c.column bytes c.rest
  ⟨fault, line, column⟩

/-- Behind the next character. -/
def next (c : Cursor) : Cursor :=
  match c.rest with
  | [] => c
  | ch :: rest =>
    if ch == '\n' then ⟨rest, c.line + 1, 0⟩ else ⟨rest, c.line, c.column + ch.utf8Size⟩

/-- Behind so many characters. -/
def skip (c : Cursor) : Nat → Cursor
  | 0 => c
  | n + 1 => c.next.skip n

/-- The characters that may stand between values. -/
def isGap (c : Char) : Bool := c == ' ' || c == '\n' || c == '\t' || c == '\r'

/-- Behind the gap. -/
def skipGap (c : Cursor) : Cursor := c.skip (c.rest.takeWhile isGap).length

end Cursor

/-- Reads from a cursor and may fail. -/
abbrev Reader := StateT Cursor (Except Error)

namespace Reader

/-- Fails where the reading stands. -/
def failHere {α : Type} (fault : Fault) : Reader α := fun c => .error (c.error 0 fault)

/-- Fails behind the next byte. -/
def failNext {α : Type} (fault : Fault) : Reader α := fun c => .error (c.error 1 fault)

/-- The next character. -/
def peek : Reader (Option Char) := fun c => .ok (c.rest.head?, c)

/-- Takes the next character. -/
def eat : Reader Unit := fun c => .ok ((), c.next)

/-- The next character behind a gap. -/
def peekPastGap : Reader (Option Char) := fun c => .ok (c.skipGap.rest.head?, c.skipGap)

/-- The next characters that have a property; they are taken. -/
def takeWhile (p : Char → Bool) : Reader (List Char) := fun c =>
  let taken := c.rest.takeWhile p
  .ok (taken, c.skip taken.length)

/-- The number of characters left, a bound for every loop over the text. -/
def remaining : Reader Nat := fun c => .ok (c.rest.length, c)

end Reader

open Reader

/-! ## Words and strings -/

/-- Takes the rest of a word. -/
def word : List Char → Reader Unit
  | [] => pure ()
  | w :: ws => do
    match ← peek with
    | none => failHere .valueMissing
    | some c => if c == w then do eat; word ws else failNext .wordExpected

/-- The value of a hexadecimal digit. -/
def hexValue? (c : Char) : Option Nat :=
  let n := c.toNat
  if 48 ≤ n && n ≤ 57 then some (n - 48)
  else if 65 ≤ n && n ≤ 70 then some (n - 55)
  else if 97 ≤ n && n ≤ 102 then some (n - 87)
  else none

/-- Four hexadecimal digits. -/
def hexEscape : Reader Nat := fun c =>
  if byteSize c.rest < 4 then .error (c.error (byteSize c.rest) .stringNotClosed)
  else
    match (c.rest.take 4).mapM hexValue? with
    | some digits => .ok (digits.foldl (16 * · + ·) 0, c.skip 4)
    | none => .error (c.error 4 .badEscape)

/-- Takes a character that has to follow the first half of a pair. -/
def pairMark (mark : Char) : Reader Unit := do
  match ← peek with
  | none => failHere .stringNotClosed
  | some c => if c == mark then eat else failNext .surrogateNotPaired

/-- The character of an escape with hexadecimal digits; two halves of a pair make one. -/
def unicodeEscape : Reader Char := do
  let first ← hexEscape
  if 0xDC00 ≤ first && first ≤ 0xDFFF then failHere .loneSurrogate
  else if first < 0xD800 || 0xDBFF < first then return Char.ofNat first
  else
    pairMark '\\'
    pairMark 'u'
    let second ← hexEscape
    if second < 0xDC00 || 0xDFFF < second then failHere .loneSurrogate
    else return Char.ofNat ((first - 0xD800) * 0x400 + (second - 0xDC00) + 0x10000)

/-- The characters with an escape of one letter. -/
def letterEscape? (c : Char) : Option Char :=
  [('"', '"'), ('\\', '\\'), ('/', '/'), ('b', '\x08'), ('f', '\x0c'), ('n', '\n'), ('r', '\r'),
    ('t', '\t')].lookup c

/-- Characters that may not stand in a string as they are. -/
def isControlChar (c : Char) : Bool := c.toNat < 0x20

/-- The rest of a string behind its opening quote. The first argument bounds its length. -/
def stringBody : Nat → Reader (List Char)
  | 0 => failHere .stringNotClosed
  | n + 1 => do
    let plain ← takeWhile fun c => c != '"' && c != '\\' && !isControlChar c
    match ← peek with
    | none => failHere .stringNotClosed
    | some '"' => do eat; return plain
    | some '\\' => do
      eat
      match ← peek with
      | none => failHere .stringNotClosed
      | some 'u' => do
        eat
        let c ← unicodeEscape
        return plain ++ c :: (← stringBody n)
      | some e =>
        match letterEscape? e with
        | some c => do eat; return plain ++ c :: (← stringBody n)
        | none => failNext .badEscape
    | some _ => failNext .controlCharacter

/-- A string behind its opening quote. -/
def readString : Reader String := do
  return String.ofList (← stringBody ((← remaining) + 1))

/-- Passes over the rest of a string; escapes need not stand for characters. -/
def skipStringBody : Nat → Reader Unit
  | 0 => failHere .stringNotClosed
  | n + 1 => do
    let _ ← takeWhile fun c => c != '"' && c != '\\' && !isControlChar c
    match ← peek with
    | none => failHere .stringNotClosed
    | some '"' => eat
    | some '\\' => do
      eat
      match ← peek with
      | none => failHere .stringNotClosed
      | some 'u' => do
        eat
        let _ ← hexEscape
        skipStringBody n
      | some e =>
        match letterEscape? e with
        | some _ => do eat; skipStringBody n
        | none => failNext .badEscape
    | some _ => failHere .controlCharacter

/-- Passes over a string behind its opening quote. -/
def skipString : Reader Unit := do skipStringBody ((← remaining) + 1)

/-! ## Numbers -/

/-- A number as it is described. -/
inductive Number where
  | natural (n : Nat)
  | negative (n : Nat)
  | real (f : Float)

/-- The description of a number. -/
def Number.text : Number → String
  | .natural n => "integer " ++ backticked (toString n)
  | .negative n => "integer " ++ backticked ("-" ++ toString n)
  | .real f => "floating point " ++ backticked (doubleText f)

/-- Reads further decimal digits into a number of 64 bits. The digits that are taken in come with
the new number, those behind the first one that does not fit are left out. -/
def takeDigits (significand : Nat) : List Char → Nat × Nat
  | [] => (significand, 0)
  | d :: ds =>
    let longer := significand * 10 + (d.toNat - 48)
    if longer < Nat.pow 2 64 then
      let (result, taken) := takeDigits longer ds
      (result, taken + 1)
    else (significand, 0)

/-- Divides or multiplies by a power of ten, in steps where the power has no double of its own.
There is no result when it is too large. -/
def scaled (f : Float) (power : Int) : (steps : Nat) → Option Float
  | 0 => some f
  | steps + 1 =>
    if power.natAbs ≤ 308 then
      let factor := Float.ofScientific 1 false power.natAbs
      if 0 ≤ power then (if (f * factor).isInf then none else some (f * factor))
      else some (f / factor)
    else if f == 0 then some f
    else if 0 ≤ power then none
    else scaled (f / Float.ofScientific 1 false 308) (power + 308) steps

/-- The number with the given significand and power of ten. -/
def realOf (positive : Bool) (significand : Nat) (power : Int) : Reader Number := do
  match scaled (Float.ofNat significand) power 4 with
  | some f => return .real (if positive then f else -f)
  | none => failHere .numberTooLarge

/-- Reads the digits of an exponent. There is no result when it is too large for 32 bits. -/
def exponentDigits (exponent : Nat) : Nat → Reader (Option Nat)
  | 0 => return some exponent
  | n + 1 => do
    match ← peek with
    | some c =>
      if c.isDigit then do
        eat
        let longer := exponent * 10 + (c.toNat - 48)
        if longer < Nat.pow 2 31 then exponentDigits longer n else return none
      else return some exponent
    | none => return some exponent

/-- The rest of a number from its exponent mark on. -/
def numberExponent (positive : Bool) (significand : Nat) (power : Int) : Reader Number := do
  eat
  let sign ← peek
  if sign == some '+' || sign == some '-' then eat
  match ← peek with
  | none => failHere .valueMissing
  | some c =>
    if c.isDigit then
      match ← exponentDigits 0 ((← remaining) + 1) with
      | some exponent =>
        realOf positive significand
          (if sign == some '-' then power - (exponent : Int) else power + (exponent : Int))
      | none =>
        if significand != 0 && sign != some '-' then failHere .numberTooLarge
        else do
          let _ ← takeWhile Char.isDigit
          realOf positive 0 0
    else failNext .badNumber

/-- The rest of a number from its decimal point on. -/
def numberFraction (positive : Bool) (significand : Nat) (power : Int) : Reader Number := do
  eat
  let digits ← takeWhile Char.isDigit
  if digits.isEmpty then
    match ← peek with
    | some _ => failNext .badNumber
    | none => failHere .valueMissing
  else
    let (significand, taken) := takeDigits significand digits
    match ← peek with
    | some 'e' => numberExponent positive significand (power - (taken : Int))
    | some 'E' => numberExponent positive significand (power - (taken : Int))
    | _ => realOf positive significand (power - (taken : Int))

/-- A number behind its sign. -/
def readNumber (positive : Bool) : Reader Number := do
  match ← peek with
  | none => failHere .valueMissing
  | some c =>
    if !c.isDigit then failNext .badNumber
    else
      let digits ← if c == '0' then (do eat; return ['0']) else takeWhile Char.isDigit
      let following ← peek
      if c == '0' && following.any Char.isDigit then failNext .badNumber
      else
        let (significand, taken) := takeDigits 0 digits
        let power : Int := ((digits.length - taken : Nat) : Int)
        match following with
        | some '.' => numberFraction positive significand power
        | some 'e' => numberExponent positive significand power
        | some 'E' => numberExponent positive significand power
        | _ =>
          if 0 < power then realOf positive significand power
          else if positive then return .natural significand
          else if significand = 0 || Nat.pow 2 63 < significand then realOf false significand 0
          else return .negative significand

/-- Passes over a number behind its sign. -/
def skipNumber : Reader Unit := do
  let exponent : Reader Unit := do
    eat
    let sign ← peek
    if sign == some '+' || sign == some '-' then eat
    let digits ← takeWhile Char.isDigit
    if digits.isEmpty then failNext .badNumber else pure ()
  match ← peek with
  | none => failHere .badNumber
  | some c =>
    if !c.isDigit then failNext .badNumber
    else
      if c == '0' then eat
      else do
        let _ ← takeWhile Char.isDigit
      let following ← peek
      if c == '0' && following.any Char.isDigit then failNext .badNumber
      else if following == some '.' then do
        eat
        let digits ← takeWhile Char.isDigit
        if digits.isEmpty then failNext .badNumber
        else
          let mark ← peek
          if mark == some 'e' || mark == some 'E' then exponent else pure ()
      else if following == some 'e' || following == some 'E' then exponent
      else pure ()

/-! ## Lists and objects -/

/-- The colon behind a key. -/
def colon : Reader Unit := do
  match ← peekPastGap with
  | some ':' => eat
  | some _ => failNext .colonExpected
  | none => failHere .objectNotClosed

/-- Another element follows in a list. -/
def hasElement (first : Bool) : Reader Bool := do
  match ← peekPastGap with
  | some ']' => return false
  | some c =>
    if first then return true
    else if c == ',' then do
      eat
      match ← peekPastGap with
      | some ']' => failNext .trailingComma
      | some _ => return true
      | none => failHere .valueMissing
    else failNext .listGoesOn
  | none => failHere .listNotClosed

/-- The end of a list whose elements were all asked for. -/
def listEnd : Reader Unit := do
  match ← peekPastGap with
  | some ']' => eat
  | some ',' => do
    eat
    match ← peekPastGap with
    | some ']' => failNext .trailingComma
    | _ => failNext .trailingCharacters
  | some _ => failNext .trailingCharacters
  | none => failHere .listNotClosed

/-- Another field follows in an object. -/
def hasField (first : Bool) : Reader Bool := do
  match ← peekPastGap with
  | some '\x7d' => return false
  | some c =>
    if first then (if c == '"' then return true else failNext .keyNotString)
    else if c == ',' then do
      eat
      match ← peekPastGap with
      | some '"' => return true
      | some '\x7d' => failNext .trailingComma
      | some _ => failNext .keyNotString
      | none => failHere .valueMissing
    else failNext .objectGoesOn
  | none => failHere .objectNotClosed

mutual

/-- Passes over a value. The first argument bounds the nesting and the number of elements. -/
def skipValueIn : Nat → Reader Unit
  | 0 => failHere .valueMissing
  | n + 1 => do
    match ← peekPastGap with
    | none => failHere .valueMissing
    | some 'n' => do eat; word ['u', 'l', 'l']
    | some 't' => do eat; word ['r', 'u', 'e']
    | some 'f' => do eat; word ['a', 'l', 's', 'e']
    | some '-' => do eat; skipNumber
    | some '"' => do eat; skipString
    | some '[' => do
      eat
      match ← peekPastGap with
      | some ']' => eat
      | some _ => skipElements n
      | none => failHere .listNotClosed
    | some '\x7b' => do
      eat
      match ← peekPastGap with
      | some '\x7d' => eat
      | some _ => skipFields n
      | none => failHere .objectNotClosed
    | some c => if c.isDigit then skipNumber else failNext .valueExpected

/-- Passes over the elements of a list and its end. -/
def skipElements : Nat → Reader Unit
  | 0 => failHere .listNotClosed
  | n + 1 => do
    skipValueIn n
    match ← peekPastGap with
    | some ',' => do eat; skipElements n
    | some ']' => eat
    | some _ => failNext .listGoesOn
    | none => failHere .listNotClosed

/-- Passes over the fields of an object and its end. -/
def skipFields : Nat → Reader Unit
  | 0 => failHere .objectNotClosed
  | n + 1 => do
    match ← peekPastGap with
    | some '"' => do
      eat
      skipString
      colon
      skipValueIn n
      match ← peekPastGap with
      | some ',' => do eat; skipFields n
      | some '\x7d' => eat
      | some _ => failNext .objectGoesOn
      | none => failHere .objectNotClosed
    | some _ => failNext .keyNotString
    | none => failHere .objectNotClosed

end

/-- Passes over a value of any kind. -/
def skipValue : Reader Unit := do skipValueIn ((← remaining) + 1)

/-! ## Values of the wrong kind -/

/-- Fails at a value that stands in the place of another. Scalars are read first, so a fault inside
them is reported instead. -/
def wrongKind {α : Type} (expected : String) : Reader α := do
  match ← peek with
  | some 'n' => do eat; word ['u', 'l', 'l']; failHere (.wrongKind "null" expected)
  | some 't' => do
    eat; word ['r', 'u', 'e']; failHere (.wrongKind ("boolean " ++ backticked "true") expected)
  | some 'f' => do
    eat
    word ['a', 'l', 's', 'e']
    failHere (.wrongKind ("boolean " ++ backticked "false") expected)
  | some '-' => do
    eat
    let number ← readNumber false
    failHere (.wrongKind number.text expected)
  | some '"' => do
    eat
    let text ← readString
    failHere (.wrongKind ("string " ++ quoteString text) expected)
  | some '[' => failHere (.wrongKind "sequence" expected)
  | some '\x7b' => failHere (.wrongKind "map" expected)
  | some c =>
    if c.isDigit then do
      let number ← readNumber true
      failHere (.wrongKind number.text expected)
    else failNext .valueExpected
  | none => failNext .valueExpected

/-- The first character of a value. -/
def valueStart : Reader Char := do
  match ← peekPastGap with
  | some c => return c
  | none => failHere .valueMissing

/-- A string. -/
def string (expected : String) : Reader String := do
  if (← valueStart) == '"' then do eat; readString else wrongKind expected

/-- A boolean. -/
def boolean : Reader Bool := do
  match ← valueStart with
  | 't' => do eat; word ['r', 'u', 'e']; return true
  | 'f' => do eat; word ['a', 'l', 's', 'e']; return false
  | _ => wrongKind "a boolean"

/-- The value `null`. -/
def null : Reader Unit := do
  match ← valueStart with
  | 'n' => do eat; word ['u', 'l', 'l']
  | _ => wrongKind "unit"

/-- The strings of a list, from an element on. -/
def stringsFrom (first : Bool) : Nat → Reader (List String)
  | 0 => return []
  | n + 1 => do
    if ← hasElement first then
      let s ← string "a string"
      return s :: (← stringsFrom false n)
    else return []

/-- A list of strings. -/
def strings : Reader (List String) := do
  if (← valueStart) == '[' then
    eat
    let result ← stringsFrom true ((← remaining) + 1)
    listEnd
    return result
  else wrongKind "a sequence"

/-- One of several words: as a string, or as the only key of an object whose value is `null`. -/
def oneOf (allowed : List String) : Reader String := do
  let check (word : String) : Reader String :=
    if allowed.contains word then pure word else failHere (.unknownWord word allowed)
  match ← valueStart with
  | '"' => do check (← string "variant identifier")
  | '\x7b' => do
    eat
    let word ← check (← string "variant identifier")
    colon
    null
    match ← peekPastGap with
    | some '\x7d' => do eat; return word
    | some _ => failHere .valueExpected
    | none => failHere .objectNotClosed
  | _ => failNext .valueExpected

/-- Nothing but a gap is left. -/
def endOfText : Reader Unit := do
  match ← peekPastGap with
  | some _ => failNext .trailingCharacters
  | none => pure ()

/-! ## Writing strings -/

/-- A character as it stands in a string. -/
def escapeChar (c : Char) : List Char :=
  if c == '"' then ['\\', '"']
  else if c == '\\' then ['\\', '\\']
  else if c == '\x08' then ['\\', 'b']
  else if c == '\x0c' then ['\\', 'f']
  else if c == '\n' then ['\\', 'n']
  else if c == '\r' then ['\\', 'r']
  else if c == '\t' then ['\\', 't']
  else if isControlChar c then
    ['\\', 'u', '0', '0', if c.toNat < 16 then '0' else '1', Nat.digitChar (c.toNat % 16)]
  else [c]

/-- A string between quotes. -/
def quote (text : String) : String := String.ofList ('"' :: text.toList.flatMap escapeChar ++ ['"'])

end MapLint.Json
