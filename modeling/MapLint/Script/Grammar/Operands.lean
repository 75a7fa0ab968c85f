import MapLint.Script.Grammar.Arrows
import MapLint.Script.Grammar.Classes
import MapLint.Script.Grammar.Markup

/-!
# Operands

The smallest expressions and what is written right behind them: members, arguments, templates and,
in the typed dialect, type arguments and `!`.

## Architecture

- `primary`: names, literals, functions, classes, parentheses;
- `subscript`: one step behind an operand, and `subscripts`, as many as there are;
- `memberOrNewProduction` and `operandProduction`: where a call may and may not follow.
-/

namespace MapLint.Script

variable [Grammar]

/-! ## Templates and regular expressions -/

/-- The substitutions of a template, from its first stretch on. In a template with a tag, wrong
escapes are allowed. -/
def templateParts (tagged : Bool) : Parse (List Expr) := do
  let stretch : Parse Bool := do
    match ← current with
    | .template _ last wrong =>
      if let some fault := wrong then
        unless tagged do report fault.place fault.problem
      return last
    | .broken fault => throw fault
    | _ => failHere .unterminatedTemplate
  let last ← stretch
  if last then
    bump
    return []
  within (fun c => { c with colonReserved := false }) <|
    repeatUntil [] fun (acc : List Expr) => do
      bump
      let e ← allowIn (parse .expr)
      unless ← at? "\x7d" do failHere (.expected "\x7d" (← current).shown)
      bumpTo (readTemplateRest (← get).after)
      if ← stretch then
        bump
        return .ok (e :: acc).reverse
      return .error (e :: acc)

/-- The flags that a regular expression may have. -/
def regexFlags : List Char := ['d', 'g', 'i', 'm', 's', 'u', 'v', 'y']

/-- A regular expression, if one can be read at the slash. -/
def regexLiteral : Parse Expr := do
  respell (readRegex (← get).here)
  match ← current with
  | .regex flags =>
    let span := (← get).span
    bump
    unless flags.all regexFlags.contains do report span .unknownRegexFlags
    if let some c := regexFlags.find? fun c => flags.count c > 1 then
      report span (.duplicateRegexFlag c)
    return .literal span false
  | _ => failHere (.numbered 1109)

/-! ## Names and arrows -/

/-- An arrow with one parameter that has no parentheses, behind that parameter. -/
def bareArrow (start : Nat) (isAsync : Bool) (name : Name) : Parse Expr := do
  expect "=>"
  let body ← arrowBody isAsync
  return .arrow (← spanFrom start) [.ident name.span name.text []] body

/-- A name, or an arrow that begins with one. -/
def nameOrArrow (canBeArrow : Bool) : Parse Expr := do
  let ctx ← read
  let start ← position
  let wasAsync ← atWord "async"
  let name ← identifier (!ctx.inGenerator) (!ctx.inAsync)
  if canBeArrow && !(← afterLineBreak) then
    if wasAsync && (← atVariable) then
      let param ← bindingName false
      return ← bareArrow start true param
    if ← at? "=>" then
      if ctx.strict && bindsBadlyInStrict name.text then
        reportStrict name.span .evalOrArgumentsInStrict
      return ← bareArrow start false name
  return .ident name.span name.text

/-- An arrow with type parameters behind the word `async`. -/
def genericAsyncArrow? (start : Nat) : Parse (Option Expr) := do
  let header ← attempt do
    let _ ← typeParams
    let ps ← within (fun c => { c with inAsync := true, inGenerator := false }) params
    let _ ← returnType?
    unless ← at? "=>" do return none
    bump
    return some ps
  match header with
  | none => return none
  | some ps =>
    let body ← arrowBody true
    return some (.arrow (← spanFrom start) ps body)

/-- What the word `async` begins, if it does not stand for itself. -/
def asyncStart? (canBeArrow : Bool) : Parse (Option Expr) := do
  let start ← position
  let next ← peek
  if next.token.isWord "function" && !next.lineBreak then
    bump
    return some (← functionValue start true true)
  if canBeArrow && (← read).typed && next.token.isOneOf ["<"] then
    let arrow ← attempt do
      bump
      genericAsyncArrow? start
    if arrow.isSome then return arrow
  if canBeArrow && next.token.isPunct "(" && !next.lineBreak then
    let span := (← get).span
    bump
    return some (← parenthesized canBeArrow (some span))
  return none

/-! ## The smallest expressions -/

/-- An expression without operators, members or calls. -/
def primary : Parse Expr := do
  let s ← get
  let canBeArrow := s.arrowStart == some s.span.start
  let literal (isText : Bool) : Parse Expr := do
    bump
    return .literal s.span isText
  match s.token with
  | .string _ _ => literal true
  | .number | .bigint => literal false
  | .template true _ _ =>
    let parts ← templateParts false
    return .operation (← spanFrom s.span.start) .template parts
  | .punct "[" => arrayLiteral
  | .punct "\x7b" => objectLiteral
  | .punct "(" => parenthesized canBeArrow none
  | .punct "/" | .punct "/=" => regexLiteral
  | .punct "#" =>
    bump
    let _ ← propertyName
    return .operation (← spanFrom s.span.start) .privateName []
  | .word text escaped =>
    if !escaped && text == "this" then
      bump
      return .this s.span
    if !escaped && text == "function" then return ← functionValue s.span.start false true
    if !escaped && text == "class" then return ← classValue s.span.start
    if !escaped && (text == "null" || text == "true" || text == "false") then return ← literal false
    if !escaped && text == "async" then
      if let some e ← asyncStart? canBeArrow then return e
    if (← read).isVariable s.token || (text == "let" && !escaped) then nameOrArrow canBeArrow
    else failHere (.numbered 1109)
  | _ => failHere (.numbered 1109)

/-! ## Behind an operand -/

/-- The arguments of a call. -/
def arguments : Parse (List Item) := do
  expect "("
  let args ← within (fun c => { c with colonReserved := false }) <|
    repeatUntil [] fun (acc : List Item) => do
      if ← at? ")" then return .ok acc.reverse
      unless acc.isEmpty do
        expect ","
        if ← at? ")" then return .ok acc.reverse
      return .error ((← item) :: acc)
  expect ")"
  return args

/-- Whether an expression is an optional chain. -/
def Expr.isChain : Expr → Bool
  | .compound _ .optionalChain _ _ _ => true
  | _ => false

/-- A call of an expression. A call behind an optional chain is part of the chain. -/
def makeCall (span : Span) (callee : Expr) (args : List Item) (types : List Expr) : Expr :=
  if callee.isChain then .compound span .optionalChain [callee] args types
  else .call span callee args types

/-- A member with a fixed or a private name, behind the dot. -/
def dotMember (start : Nat) (object : Expr) (optional : Bool) : Parse Expr := do
  let chained := optional || object.isChain
  let nameStart ← position
  if ← eat "#" then
    let _ ← propertyName
    let span ← spanFrom start
    return .operation span (if chained then .optionalChain else .computedMember) [object]
  let name ← propertyName
  let span : Span := ⟨start, name.span.stop⟩
  if chained then return .operation span .optionalChain [object]
  return .member span object name.text ⟨nameStart, name.span.stop⟩

/-- A member with a computed name, behind the bracket. -/
def bracketMember (start : Nat) (object : Expr) (optional : Bool) : Parse Expr := do
  let key ← allowIn (parse .expr)
  expect "]"
  let span ← spanFrom start
  let form := if optional || object.isChain then .optionalChain else .computedMember
  return .operation span form [object, key]

/-- A template behind a tag. -/
def taggedTemplate (start : Nat) (tag : Expr) (types : List Expr) : Parse Expr := do
  let parts ← templateParts true
  return .operation (← spanFrom start) .taggedTemplate (tag :: types ++ parts)

/-- What follows `?.`. -/
def optionalMember (start : Nat) (object : Expr) : Parse Expr := do
  if ← eat "[" then bracketMember start object true
  else if ← at? "(" then
    let args ← arguments
    return .compound (← spanFrom start) .optionalChain [object] args []
  else if (← read).typed && (← atOpenAngle) then
    let types ← typeArgs
    let args ← arguments
    return .compound (← spanFrom start) .optionalChain [object] args types
  else if (← current).opensTemplate then failHere (.numbered 1109)
  else dotMember start object true

/-- Type arguments behind an operand, if a call or a template follows them. -/
def genericCall? (start : Nat) (object : Expr) (noCall : Bool) : Parse (Option Expr) := do
  unless (← read).typed && (← atOpenAngle) do return none
  attempt do
    if let .ident s "async" := object then
      if !noCall && s.start == start then
        if let some arrow ← genericAsyncArrow? start then return some arrow
    let types ← typeArgs
    if !noCall && (← at? "(") then
      let args ← arguments
      return some (makeCall (← spanFrom start) object args types)
    if (← current).opensTemplate then return some (← taggedTemplate start object types)
    if (← at? "=") || (← atWord "as") || (← atWord "satisfies") then
      return some (.compound (← spanFrom start) .instantiation [object] [] types)
    return none

/-- One step behind an operand; `none` when there is nothing more. -/
def subscript? (start : Nat) (object : Expr) (noCall : Bool) : Parse (Option Expr) := do
  if ← eatWhen ((← read).typed && !(← afterLineBreak)) "!" then
    return some (.typed (← spanFrom start) object [])
  if let some e ← genericCall? start object noCall then return some e
  if ← at? "?." then
    if noCall && (← peek).token.isOneOf ["(", "<"] then return none
    bump
    return some (← optionalMember start object)
  if ← eat "[" then return some (← bracketMember start object false)
  if !noCall && (← at? "(") then
    let args ← arguments
    return some (makeCall (← spanFrom start) object args [])
  if ← eat "." then return some (← dotMember start object false)
  if (← current).opensTemplate then return some (← taggedTemplate start object [])
  return none

/-- All that stands behind an operand. -/
def subscripts (start : Nat) (object : Expr) (noCall : Bool) : Parse Expr :=
  repeatUntil object fun (object : Expr) => do
    match ← subscript? start object noCall with
    | some e => return .error e
    | none => return .ok object

/-! ## `super` and `import` -/

/-- What follows `super`: a member, or a call in a constructor. -/
def superRest (start : Nat) (superSpan : Span) (noCall : Bool) : Parse Expr := do
  let check : Parse Unit := do
    unless (← read).superAllowed do report superSpan .superOutsideMethod
  let optional ← eat "?."
  if optional then report superSpan .superCallOptional
  if ← eat "[" then
    check
    let key ← allowIn (parse .expr)
    expect "]"
    subscripts start (.operation (← spanFrom start) .superMember [key]) noCall
  else if !noCall && (← at? "(") then
    let args ← arguments
    subscripts start (.compound (← spanFrom start) .specialCall [] args []) noCall
  else if optional || (← at? ".") then
    unless optional do bump
    check
    let _ ← if ← eat "#" then propertyName else propertyName
    subscripts start (.operation (← spanFrom start) .superMember []) noCall
  else if noCall then failHere .superCallMisplaced
  else failHere .superOutsideMethod

/-- What follows `import` in an expression: a call, or the meta property. -/
def importRest (start : Nat) (importSpan : Span) (noCall : Bool) : Parse Expr := do
  if ← eat "." then
    let name ← identifier false false
    if name.text == "meta" then
      modify fun s => { s with moduleSeen := true }
      subscripts start (.operation (← spanFrom start) .metaProperty []) noCall
    else if name.text == "defer" || name.text == "source" then
      let args ← arguments
      subscripts start (.compound (← spanFrom start) .specialCall [] args []) noCall
    else failUnexpected "meta"
  else if !noCall && (← at? "(") then
    let args ← arguments
    subscripts start (.compound (← spanFrom start) .specialCall [] args []) noCall
  else failAt importSpan .importMisplaced

/-! ## Constructions, members and calls -/

/-- Whether a token can begin an expression. -/
def Token.startsExpr : Token → Bool
  | .word text escaped =>
    escaped || !reservedWords.contains text ||
      ["class", "delete", "false", "function", "import", "new", "null", "super", "this", "true",
        "typeof", "void"].contains text
  | .string _ _ | .number | .bigint | .regex _ | .template true _ _ => true
  | .punct p =>
    ["!", "(", "[", "\x7b", "+", "-", "~", "++", "--", "/", "/=", "<", "#", "@"].contains p
  | _ => false

/-- Type arguments that make an operand a more special one of its kind. -/
def instantiation? (start : Nat) (object : Expr) : Parse (Option Expr) := do
  unless (← read).typed && (← atOpenAngle) do return none
  attempt do
    let types ← typeArgs
    let t ← current
    if t.isOneOf ["<", ">", "+", "-", "("] || t.opensTemplate then return none
    if (← afterLineBreak) || t.isBinaryOperator || !t.startsExpr then
      return some (.compound (← spanFrom start) .instantiation [object] [] types)
    return none

/-- Type arguments that belong to a construction. -/
def constructionTypes : Parse (List Expr) := do
  unless (← read).typed && (← atOpenAngle) do return []
  let types ← attempt do
    let types ← typeArgs
    unless ← at? "(" do return none
    return some types
  return types.getD []

/-- A construction, from behind the word `new`. -/
def construction (start : Nat) : Parse Expr := do
  let ctx ← read
  if ← eat "." then
    unless ← eatWord "target" do failUnexpected "target"
    let span ← spanFrom start
    unless ctx.hasNewTarget || ctx.inParams || ctx.inClass do
      report span .newTargetOutsideFunction
    return ← subscripts start (.operation span .metaProperty []) true
  let callee ← parse .memberOrNew
  if callee.isArrow then return callee
  if callee.isChain then failAt callee.span .optionalInConstructorCall
  let types ← constructionTypes
  if ← at? "(" then
    let args ← arguments
    return ← subscripts start (.compound (← spanFrom start) .construction [callee] args types) true
  return .compound (← spanFrom start) .construction [callee] [] types

/-- A member or a construction, without calls. -/
def memberOrNewProduction : Parse Expr := do
  let s ← get
  let start := s.span.start
  if ← eatWord "new" then construction start
  else if ← eatWord "super" then superRest start s.span true
  else if ← eatWord "import" then importRest start s.span true
  else
    let e ← primary
    if e.isArrow then return e
    let e := (← instantiation? start e).getD e
    subscripts start e true

/-- An element as an expression. -/
def markupExpr : Parse Expr := do
  let element ← parse .markup
  bump
  element.check
  return .markup element.span element.parts

/-- Whether an expression is a construction without arguments, which nothing may call. -/
def Expr.isBareConstruction : Expr → Bool
  | .compound span .construction [callee] [] [] => span.stop == callee.span.stop
  | _ => false

/-- An operand with members, calls and templates behind it. -/
def operandProduction : Parse Expr := do
  let ctx ← read
  let s ← get
  let start := s.span.start
  if ctx.markup && (← at? "<") then return ← markupExpr
  if ← eatWord "super" then return ← superRest start s.span false
  if ← eatWord "import" then return ← importRest start s.span false
  let e ← parse .memberOrNew
  if e.isArrow then return e
  if e.isBareConstruction then return e
  subscripts start e false

end MapLint.Script
