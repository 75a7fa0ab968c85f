import MapLint.Script.Grammar.Signature

/-!
# Types

Types do not matter to the lint, but they have to be read to be skipped. Every production here
yields the expressions found inside the type.
-/

namespace MapLint.Script

variable [Grammar]

/-- The wording for a token that starts no type. -/
def typeStarts : String :=
  "an identifier, void, yield, null, await, break, a string literal, a numeric literal, true, " ++
    "false, \x60, -, import, this, typeof, \x7b, [, ("

/-- Names with dots between them. -/
def entityName : Parse Unit := do
  let _ ← propertyName
  repeatUntil () fun _ => do
    if ← eat "." then
      let _ ← memberKey
      return .error ()
    return .ok ()

/-- Type arguments on the same line, if there are any. -/
def typeArgsHere? : Parse (List Expr) := do
  if !(← afterLineBreak) && (← atOpenAngle) then typeArgs else return []

/-- A reference to a named type. -/
def typeReference : Parse (List Expr) := do
  entityName
  typeArgsHere?

/-! ## Function types -/

/-- Whether the parenthesis under the cursor opens the parameters of a function type. -/
def opensFunctionType : Parse Bool := lookAhead do
  expect "("
  if ← atOneOf [")", "..."] then return true
  let _ ← paramModifier?
  let skipped ←
    if (← atVariable) || (← atWord "this") then
      bump
      pure true
    else if ← atOneOf ["\x7b", "["] then
      let _ ← parse (.pattern false)
      pure true
    else pure false
  unless skipped do return false
  if ← atOneOf [":", ",", "?", "="] then return true
  if ← eat ")" then at? "=>" else return false

/-- A function type behind its modifiers. -/
def functionType : Parse (List Expr) := do
  let types ← typeParams?
  let ps ← params
  expect "=>"
  let result ← typeOrPredicate
  return Pattern.typeParts ps ++ types ++ result

/-! ## Object types -/

/-- The end of a member of an object type. -/
def typeMemberEnd : Parse Unit := do
  unless ← eat "," do expectStatementEnd

/-- Whether the bracket under the cursor opens an index signature. -/
def opensIndexSignature : Parse Bool := lookAhead do
  expect "["
  unless (← current).isAnyWord do return false
  bump
  at? ":"

/-- An index signature. -/
def indexSignature : Parse (List Expr) := do
  expect "["
  let _ ← propertyName
  let key ← annotation
  expect "]"
  let value ← annotation?
  typeMemberEnd
  return key ++ value

/-- The parameters and the return type of a method or a call signature. -/
def signature : Parse (List Expr) := do
  let types ← typeParams?
  let ps ← params
  let result ← returnType?
  typeMemberEnd
  return Pattern.typeParts ps ++ result ++ types

/-- A member of an object type. -/
def typeMember : Parse (List Expr) := do
  let next ← peek
  if (← at? "(") || (← at? "<") then signature
  else if (← atWord "new") && next.token.isOneOf ["(", "<"] then
    bump
    signature
  else
    let _ ← modifier? ["readonly"]
    if (← at? "[") && (← opensIndexSignature) then indexSignature
    else
      if (← atWord "get") || (← atWord "set") then
        let _ ← modifier? ["get", "set"]
      let key ← propertyKey
      let _ ← eat "?"
      let keyPart := key.computed?.toList
      if (← at? "(") || (← at? "<") then return keyPart ++ (← signature)
      let types ← annotation?
      typeMemberEnd
      return keyPart ++ types

/-- The members of an object type with their braces. -/
def typeMembers : Parse (List Expr) := do
  expect "\x7b"
  let parts ← listUntil (at? "\x7d") typeMember
  expect "\x7d"
  return parts.flatten

/-- Whether the brace under the cursor opens a mapped type. -/
def opensMappedType : Parse Bool := lookAhead do
  expect "\x7b"
  if ← eatOneOf ["+", "-"] then return (← atWord "readonly")
  let _ ← eatWord "readonly"
  unless ← eat "[" do return false
  unless (← current).isAnyWord do return false
  bump
  atWord "in"

/-- A mapped type. -/
def mappedType : Parse (List Expr) := do
  let mark : Parse Bool := eatOneOf ["+", "-"]
  expect "\x7b"
  if ← mark then expectWord "readonly" else let _ ← eatWord "readonly"
  expect "["
  let _ ← propertyName
  expectWord "in"
  let source ← parse .type
  let renamed ← if ← eatWord "as" then parse .type else pure []
  expect "]"
  if ← mark then expect "?" else let _ ← eat "?"
  let value ← annotation?
  let _ ← eat ","
  let _ ← eatStatementEnd
  expect "\x7d"
  return source ++ renamed ++ value

/-! ## The remaining types -/

/-- An element of a tuple type. -/
def tupleElement : Parse (List Expr) := do
  let _ ← eat "..."
  let labelled ← lookAhead do
    unless (← current).isAnyWord do return false
    bump
    let _ ← eat "?"
    at? ":"
  if labelled then
    bump
    let _ ← eat "?"
    expect ":"
  let parts ← parse .type
  let _ ← eat "?"
  return parts

/-- The types in a template type, from its first stretch on. -/
def templateType : Parse (List Expr) := do
  let first ← current
  match first with
  | .template _ true _ =>
    bump
    return []
  | _ =>
    bump
    repeatUntil [] fun (acc : List Expr) => do
      let parts ← parse .type
      unless ← at? "\x7d" do failHere (.expected "\x7d" (← current).shown)
      bumpTo (readTemplateRest (← get).after)
      match ← current with
      | .template _ last _ =>
        bump
        if last then return .ok (acc ++ parts)
        return .error (acc ++ parts)
      | .broken fault => throw fault
      | _ => failHere .unterminatedTemplate

/-- A type named by a module. -/
def importType : Parse (List Expr) := do
  bump
  expect "("
  unless (← current).isString do failHere (.numbered 1141)
  bump
  let options ← if ← eat "," then do pure [← parse .assign] else pure []
  expect ")"
  if ← eat "." then entityName
  let args ← typeArgsHere?
  return options ++ args

/-- A type that is not built from others by an operator. -/
def plainType : Parse (List Expr) := do
  let s ← get
  match s.token with
  | .eof => failHere .endOfText
  | .word text escaped =>
    let keyword := !escaped
    if keyword && text == "typeof" then
      bump
      if ← atWord "import" then importType
      else
        entityName
        typeArgsHere?
    else if keyword && text == "import" then importType
    else if keyword && text == "this" then
      bump
      if !(← afterLineBreak) && (← atWord "is") then
        bump
        parse .type
      else return []
    else if keyword && (text == "void" || text == "null" || text == "true" || text == "false") then
      bump
      return []
    else if reservedWords.contains text && text != "break" then failUnexpected typeStarts
    else typeReference
  | .string _ _ | .number | .bigint =>
    bump
    return []
  | .template true _ _ => templateType
  | .punct "-" =>
    bump
    match ← current with
    | .number | .bigint =>
      bump
      return []
    | _ => failUnexpected "numeric literal or bigint literal"
  | .punct "\x7b" => if ← opensMappedType then mappedType else typeMembers
  | .punct "[" =>
    bump
    let parts ← delimited (at? "]") tupleElement
    expect "]"
    return parts.flatten
  | .punct "(" =>
    bump
    let parts ← within (fun c => { c with noConditionalType := false }) (parse .type)
    expect ")"
    return parts
  | .broken fault => throw fault
  | _ => failUnexpected typeStarts

/-- A type with brackets behind it. -/
def arrayType : Parse (List Expr) := do
  let first ← plainType
  repeatUntil first fun parts => do
    if ← eatWhen (!(← afterLineBreak)) "[" then
      if ← eat "]" then return .error parts
      let index ← parse .type
      expect "]"
      return .error (parts ++ index)
    return .ok parts

/-- A type with operators in front of it. -/
def typeOperand : Parse (List Expr) := do
  let next ← peek
  let word := next.token.isAnyWord || next.token.isOneOf ["\x7b", "[", "("] ||
    next.token.isString || next.token.opensTemplate
  if (← atWord "keyof") && (word || next.token.isPunct "-") then
    bump
    parse .typeOperand
  else if ((← atWord "unique") || (← atWord "readonly")) && word then
    bump
    parse .typeOperand
  else if (← atWord "infer") && next.token.isAnyWord then
    bump
    bump
    let constraint ← attempt do
      unless ← eatWord "extends" do return none
      let parts ← within (fun c => { c with noConditionalType := true }) (parse .type)
      if !(← read).noConditionalType && (← at? "?") then return none
      return some parts
    return constraint.getD []
  else arrayType

/-- Types with an operator between them and perhaps before the first. -/
def typesBetween (operator : String) (item : Parse (List Expr)) : Parse (List Expr) := do
  let _ ← eat operator
  let first ← item
  repeatUntil first fun parts => do
    if ← eat operator then return .error (parts ++ (← item))
    return .ok parts

/-- A type without a condition at its top. -/
def unconditionalType : Parse (List Expr) := do
  let next ← peek
  if ← at? "<" then functionType
  else if (← at? "(") && (← opensFunctionType) then functionType
  else if ← atWord "new" then
    bump
    functionType
  else if (← atWord "abstract") && next.token.isWord "new" then
    bump
    bump
    functionType
  else typesBetween "|" (typesBetween "&" (parse .typeOperand))

/-- A type. -/
def typeProduction : Parse (List Expr) := do
  let subject ← unconditionalType
  unless ← eatWordWhen (!(← read).noConditionalType && !(← afterLineBreak)) "extends" do
    return subject
  let bound ← within (fun c => { c with noConditionalType := true }) unconditionalType
  expect "?"
  let yes ← parse .type
  expect ":"
  let no ← parse .type
  return subject ++ bound ++ yes ++ no

end MapLint.Script
