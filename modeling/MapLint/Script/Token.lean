import MapLint.Script.Problem

/-!
# Tokens and comments of a script

A script is read as a sequence of tokens with comments between them. A punctuator is known by its
spelling and a word by its letters; whether a word is a keyword depends on where it stands, so that
is decided by the grammar and not here.
-/

namespace MapLint.Script

/-- A comment: the text between its marks and the span that includes them. -/
structure Comment where
  isBlock : Bool
  text : String
  span : Span
deriving DecidableEq, Inhabited

/-- A token. -/
inductive Token where
  /-- The end of the text. -/
  | eof
  /-- Brackets, operators and separators. -/
  | punct (text : String)
  /-- An identifier or keyword; `escaped` when it was spelled with escapes, which no keyword may be. -/
  | word (text : String) (escaped : Bool)
  /-- A string literal; `plain` when it was spelled without escapes. -/
  | string (value : String) (plain : Bool)
  | number
  | bigint
  | regex (flags : List Char)
  /-- A stretch of a template between two of its marks: `first` when it opens the template, `last`
  when it closes it. An escape that is wrong is only held against it where it is not tagged. -/
  | template (first last : Bool) (wrong : Option Fault)
  /-- Running text between the tags of an element. -/
  | markupText
  /-- No token starts here. -/
  | broken (fault : Fault)
deriving Inhabited

/-- The words that the grammar gives a meaning somewhere; any other word is a plain identifier. -/
def knownWords : List String :=
  ["await", "break", "case", "catch", "class", "const", "continue", "debugger", "default", "delete",
    "do", "else", "export", "extends", "false", "finally", "for", "function", "if", "import", "in",
    "instanceof", "let", "new", "null", "return", "super", "switch", "this", "throw", "true", "try",
    "typeof", "var", "void", "while", "with", "yield", "module", "abstract", "any", "as", "asserts",
    "assert", "async", "bigint", "boolean", "constructor", "declare", "enum", "from", "get",
    "global", "implements", "interface", "intrinsic", "is", "keyof", "namespace", "never", "number",
    "object", "of", "out", "package", "private", "protected", "public", "readonly", "require",
    "set", "static", "string", "symbol", "type", "undefined", "unique", "unknown", "using",
    "accessor", "infer", "satisfies", "override", "target"]

/-- How a token is called in a message. -/
def Token.shown : Token → String
  | .eof => "<eof>"
  | .punct text => text
  | .word text escaped => if !escaped && knownWords.contains text then text else "ident"
  | .string _ _ => "string literal"
  | .number => "numeric literal"
  | .bigint => "bigint literal"
  | .regex _ => "regexp literal"
  | .template true true _ => "no substitution template literal"
  | .template true false _ => "template head"
  | .template false false _ => "template middle"
  | .template false true _ => "template tail"
  | .markupText => "jsx text"
  | .broken _ => "<lexing error>"

end MapLint.Script
