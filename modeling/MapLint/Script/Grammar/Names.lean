import MapLint.Script.Grammar.Goal

/-!
# Names and keys

Which words may name a variable depends on the place: some never do, some not in strict code, and
`yield` and `await` not where they are operators. Any word may be the name of a property.
-/

namespace MapLint.Script

/-- Words that never name a variable. -/
def reservedWords : List String :=
  ["break", "case", "catch", "class", "const", "continue", "debugger", "default", "delete", "do",
    "else", "enum", "export", "extends", "false", "finally", "for", "function", "if", "import", "in",
    "instanceof", "new", "null", "return", "super", "switch", "this", "throw", "true", "try",
    "typeof", "var", "void", "while", "with"]

/-- Words that do not name a variable in strict code. -/
def strictWords : List String :=
  ["implements", "interface", "package", "private", "protected", "public"]

/-- Whether a word is reserved at a place. -/
def Context.reserves (ctx : Context) (word : String) : Bool :=
  if word == "let" then ctx.strict
  else if word == "await" then ctx.inAsync || ctx.inStaticBlock
  else if word == "yield" then ctx.inGenerator || ctx.strict
  else reservedWords.contains word || (ctx.strict && strictWords.contains word)

/-- Whether a token can be a variable at a place. -/
def Context.isVariable (ctx : Context) : Token → Bool
  | .word text _ => !ctx.reserves text
  | _ => false

/-- Whether the current token can be a variable. -/
def atVariable : Parse Bool := do return (← read).isVariable (← current)

/-- A name with the span it covers. -/
structure Name where
  text : String
  span : Span
deriving Inhabited

/-- Any word, as the name of a property. -/
def propertyName : Parse Name := do
  match ← current with
  | .word text _ =>
    let span := (← get).span
    bump
    return ⟨text, span⟩
  | _ => failHere .identifierExpected

/-- A word as the name of a variable. -/
def identifier (yieldAllowed awaitAllowed : Bool) : Parse Name := do
  let ctx ← read
  match ← current with
  | .word text escaped =>
    let span := (← get).span
    bump
    if text == "enum" then report span (.reservedInStrict text)
    else if text == "yield" || text == "static" || text == "let" || strictWords.contains text then
      reportStrict span (.reservedInStrict text)
    if text == "await" && !escaped then
      if ctx.ambient then return ⟨text, span⟩
      if ctx.inStaticBlock then failAt span .identifierExpected
      if ctx.inAsync then failAt span .awaitAsName
      if awaitAllowed then return ⟨text, span⟩
      failAt span .identifierExpected
    if text == "yield" && !escaped then
      if yieldAllowed then return ⟨text, span⟩
      failAt span .identifierExpected
    if text == "this" && ctx.typed then return ⟨text, span⟩
    if text == "arguments" && ctx.inField then report span .argumentsInField
    if reservedWords.contains text && text != "enum" then failAt span .identifierExpected
    return ⟨text, span⟩
  | _ => failHere .identifierExpected

/-- Names that strict code must not bind. -/
def bindsBadlyInStrict (name : String) : Bool := name == "eval" || name == "arguments"

/-- The name of a variable that is being declared. -/
def bindingName (letRefused : Bool) : Parse Name := do
  if letRefused && (← atWord "let") then
    failUnexpected "let is reserved in const, let, class declaration"
  let name ← identifier true true
  if bindsBadlyInStrict name.text then reportStrict name.span .evalOrArgumentsInStrict
  let ctx ← read
  if ctx.inGenerator && name.text == "yield" then report name.span .identifierExpected
  return name

/-- The name of a variable that is being declared, if there is one. -/
def bindingName? (letRefused : Bool) : Parse (Option Name) := do
  let ctx ← read
  let ok := match ← current with
    | .word text _ => !ctx.reserves text || text == "await" || text == "yield" || text == "let"
    | _ => false
  if ok then return some (← bindingName letRefused)
  return none

/-! ## Keys of objects and classes -/

/-- The key of a property or member. -/
inductive Key where
  | word (name : Name)
  | text (value : String) (span : Span)
  | number (span : Span)
  | computed (value : Expr) (span : Span)
  | hidden (name : Name)

/-- The span of a key. -/
def Key.span : Key → Span
  | word name | hidden name => name.span
  | text _ s | number s | computed _ s => s

/-- The expression in a computed key. -/
def Key.computed? : Key → Option Expr
  | computed value _ => some value
  | _ => none

/-- Whether a key is that of the constructor. -/
def Key.isConstructor : Key → Bool
  | word name => name.text == "constructor"
  | text value _ => value == "constructor"
  | _ => false

/-- Whether a key is a certain word. -/
def Key.isWord (key : Key) (text : String) : Bool :=
  match key with
  | word name => name.text == text
  | _ => false

variable [Grammar]

/-- The key of a property. -/
def propertyKey : Parse Key := do
  let s ← get
  match s.token with
  | .string value _ =>
    bump
    return .text value s.span
  | .number =>
    bump
    return .number s.span
  | .bigint =>
    bump
    return .number s.span
  | .word text _ =>
    bump
    return .word ⟨text, s.span⟩
  | .punct "[" =>
    bump
    let inner ← position
    let first ← allowIn (parse .assign)
    let mut value := first
    if (← read).typed && (← at? ",") then
      let rest ← repeatUntil [] fun (acc : List Expr) => do
        if ← eat "," then return .error ((← allowIn (parse .assign)) :: acc)
        return .ok acc.reverse
      let span ← spanFrom inner
      report span (.numbered 1171)
      value := .operation span .sequence (first :: rest)
    expect "]"
    return .computed value (← spanFrom s.span.start)
  | _ => failUnexpected "identifier, string literal, numeric literal or [ for the computed key"

/-- The key of a member of a class, which may be hidden. -/
def memberKey : Parse Key := do
  let start ← position
  if ← eat "#" then
    let name ← propertyName
    let span ← spanFrom start
    if name.text == "constructor" then report span .privateConstructor
    return .hidden ⟨name.text, span⟩
  propertyKey

end MapLint.Script
