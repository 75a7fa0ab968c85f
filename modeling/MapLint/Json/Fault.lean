import MapLint.Text.Quoted

/-!
# Faults of a JSON text

What can be wrong with a JSON text, or with a value in it that should be of another kind, and the
place at which it was noticed. A column counts the bytes before the place on its line.
-/

namespace MapLint.Json

/-- What is wrong. -/
inductive Fault where
  | listNotClosed
  | objectNotClosed
  | stringNotClosed
  /-- The text ends where a value should stand. -/
  | valueMissing
  | colonExpected
  | listGoesOn
  | objectGoesOn
  | wordExpected
  | valueExpected
  | badEscape
  | badNumber
  | numberTooLarge
  | controlCharacter
  | keyNotString
  | loneSurrogate
  | surrogateNotPaired
  | trailingComma
  | trailingCharacters
  /-- A value of one kind stands where another is expected. -/
  | wrongKind (found expected : String)
  /-- A word that is none of those allowed. -/
  | unknownWord (word : String) (allowed : List String)
  | repeatedField (name : String)
deriving DecidableEq, Inhabited

/-- A text between backticks. -/
def backticked (text : String) : String := "\x60" ++ text ++ "\x60"

/-- The wording of a fault. -/
def Fault.text : Fault → String
  | .listNotClosed => "EOF while parsing a list"
  | .objectNotClosed => "EOF while parsing an object"
  | .stringNotClosed => "EOF while parsing a string"
  | .valueMissing => "EOF while parsing a value"
  | .colonExpected => "expected \x60:\x60"
  | .listGoesOn => "expected \x60,\x60 or \x60]\x60"
  | .objectGoesOn => "expected \x60,\x60 or \x60\x7d\x60"
  | .wordExpected => "expected ident"
  | .valueExpected => "expected value"
  | .badEscape => "invalid escape"
  | .badNumber => "invalid number"
  | .numberTooLarge => "number out of range"
  | .controlCharacter => "control character (\\u0000-\\u001F) found while parsing a string"
  | .keyNotString => "key must be a string"
  | .loneSurrogate => "lone leading surrogate in hex escape"
  | .surrogateNotPaired => "unexpected end of hex escape"
  | .trailingComma => "trailing comma"
  | .trailingCharacters => "trailing characters"
  | .wrongKind found expected => "invalid type: " ++ found ++ ", expected " ++ expected
  | .unknownWord word allowed =>
    "unknown variant " ++ backticked word ++ ", expected " ++
      " or ".intercalate (allowed.map backticked)
  | .repeatedField name => "duplicate field " ++ backticked name

/-- A fault at a place. -/
structure Error where
  fault : Fault
  line : Nat
  column : Nat
deriving DecidableEq, Inhabited

/-- The wording of an error. -/
def Error.message (e : Error) : String :=
  e.fault.text ++ " at line " ++ toString e.line ++ " column " ++ toString e.column

end MapLint.Json
