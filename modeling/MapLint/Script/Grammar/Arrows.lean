import MapLint.Script.Grammar.Functions

/-!
# Parentheses and arrows

What stands between parentheses may be an expression, the arguments of a call of `async`, or the
parameters of an arrow. It is read as a list of `ParenItem`s, and what follows decides. In the typed
dialect an item with an annotation can only be a parameter and is read as a pattern at once.
-/

namespace MapLint.Script

variable [Grammar]

/-- Something between parentheses. -/
inductive ParenItem where
  | plain (value : Expr)
  | spread (start : Nat) (value : Expr)
  /-- Only a parameter has this form. -/
  | param (pattern : Pattern)

namespace ParenItem

/-- The part of the text that an item covers. -/
def span : ParenItem → Span
  | plain e => e.span
  | spread start e => ⟨start, e.span.stop⟩
  | param p => p.span

/-- Whether an item can only be a parameter. -/
def isParam : ParenItem → Bool
  | param _ => true
  | _ => false

/-- Whether an item is a rest parameter. -/
def isRest : ParenItem → Bool
  | plain _ => false
  | spread _ _ => true
  | param p => p.isRest

end ParenItem

/-! ## The conditional operator -/

/-- A conditional behind its test and the question mark. -/
def conditionalRest (test : Expr) : Parse Expr := do
  let yes ← within
    (fun c => { c with inConditional := true, colonReserved := true, inOperator := true })
    (parse .assign)
  expect ":"
  let no ← within (fun c => { c with inConditional := true, colonReserved := false })
    (parse .assign)
  return .conditional ⟨test.span.start, no.span.stop⟩ test yes no

/-! ## Assignments -/

/-- The operators that assign. -/
def assignOperators : List String :=
  ["=", "+=", "-=", "*=", "/=", "%=", "<<=", ">>=", ">>>=", "&=", "|=", "^=", "**=", "&&=", "||=",
    "??="]

/-- An assignment behind its left side, if there is one. -/
def assignmentRest (start : Nat) (left : Expr) : Parse Expr := do
  let ctx ← read
  match ← current with
  | .punct operator =>
    unless assignOperators.contains operator do return left
    let target ←
      if operator == "=" then asPattern .target left
      else
        unless isSimpleTarget ctx.strict left do
          report left.span (if ctx.typed then .numbered 2406 else .notSimpleTarget)
        pure left.asPlace
    unless target.isTarget do failAt target.span .invalidAssignTarget
    bump
    let value ← parse .assign
    return .assign (← spanFrom start) (operator == "=") target value
  | _ => return left

/-! ## Items between parentheses -/

/-- Whether an expression is a plain name. -/
def Expr.isIdent : Expr → Bool
  | .ident _ _ => true
  | _ => false

/-- Whether an expression is an arrow. -/
def Expr.isArrow : Expr → Bool
  | .arrow _ _ _ => true
  | _ => false

/-- An item of the typed dialect that starts with a name, up to a question mark or a colon. -/
def namedParenItem (start : Nat) : Parse ParenItem := do
  if ← eat "..." then return .spread start (← allowIn (parse .binary))
  let e ← parse .binary
  return .plain (← if e.isArrow then pure e else assignmentRest start e)

/-- The question mark behind an item of the typed dialect: an optional parameter, or a conditional.
The second result says that it is optional. -/
def parenItemOptional (item : ParenItem) : Parse (ParenItem × Bool) := do
  unless ← at? "?" do return (item, false)
  if (← peek).token.isOneOf [",", ")", ":", "="] then
    bump
    match item with
    | .spread start e =>
      report ⟨start, e.span.stop⟩ (.numbered 1047)
      return (item, true)
    | .plain (.ident _ _) => return (item, true)
    | _ => failAt item.span .optionalPattern
  else
    match item with
    | .plain test =>
      bump
      return (.plain (← conditionalRest test), false)
    | _ => return (item, false)

/-- The pattern of an item that has turned out to be a parameter. -/
def ParenItem.asParam : ParenItem → Parse Pattern
  | .plain e => asPattern .param e
  | .spread start e => do
    let p ← asPattern .param e
    return .rest ⟨start, p.span.stop⟩ p []
  | .param p => pure p

/-- One item between parentheses. -/
def parenItem : Parse ParenItem := do
  let ctx ← read
  let start ← position
  modify fun s => { s with arrowStart := some start }
  let modified ← paramModifier?
  let itemStart ← position
  let next ← peek
  let named := ctx.typed &&
    ((← atVariable) || ((← at? "...") && ctx.isVariable next.token))
  let item ←
    if named then namedParenItem itemStart
    else if ← eat "..." then do pure (.spread itemStart (← allowIn (parse .assign)))
    else do pure (.plain (← allowIn (parse .assign)))
  let (item, optional) ← if ctx.typed then parenItemOptional item else pure (item, false)
  let result ←
    if optional || (ctx.typed && (← at? ":")) then
      let p ← annotated (← item.asParam)
      if ← eat "=" then
        let value ← parse .assign
        pure (ParenItem.param (.withDefault (← spanFrom itemStart) p value))
      else pure (.param p)
    else pure item
  if modified then report (← spanFrom start) (.numbered 2369)
  return result

/-- The items between parentheses, and the comma that ends them. -/
def parenItems : Parse (List ParenItem × Option Span) := do
  expect "("
  let result ← within (fun c => { c with inOperator := true, colonReserved := false }) <|
    repeatUntil ([], none) fun (acc : List ParenItem × Option Span) => do
      if ← at? ")" then return .ok (acc.1.reverse, acc.2)
      let item ← parenItem
      if ← at? ")" then return .error (item :: acc.1, none)
      expect ","
      let comma ← spanFrom ((← get).previousStop - 1)
      return .error (item :: acc.1, some comma)
  expect ")"
  return result

/-! ## Arrows -/

/-- The items between parentheses as the parameters of an arrow. -/
def arrowParams (items : List ParenItem) (comma : Option Span) : Parse (List Pattern) := do
  let mut done : List Pattern := []
  for item in items.dropLast do
    if item.isRest then report item.span (.numbered 1014)
    else done := (← item.asParam) :: done
  if let some item := items.getLast? then
    if item.isRest then
      if let some comma := comma then report comma .commaAfterRest
    if let .spread _ (.assign _ _ _ _) := item then report item.span (.numbered 1048)
    done := (← item.asParam) :: done
  let ps := done.reverse
  if (← read).strict then
    for p in ps do checkStrictParam p
  return ps

/-- Whether a token is an operator with two operands. -/
def Token.isBinaryOperator : Token → Bool
  | .punct p =>
    ["+", "-", "*", "/", "%", "**", "==", "!=", "===", "!==", "<", ">", "<=", ">=", "<<", ">>", ">>>",
      "&", "|", "^", "&&", "||", "??"].contains p
  | _ => false

/-- An arrow behind its parameters. -/
def arrowRest (start : Nat) (isAsync : Bool) (items : List ParenItem) (comma : Option Span) :
    Parse Expr := do
  let ps ← arrowParams items comma
  let body ← arrowBody isAsync
  let arrow := Expr.arrow (← spanFrom start) ps body
  match body with
  | .block _ =>
    if (← current).isBinaryOperator then
      reportHere (.numbered 1005)
      let e ← parse (.binaryRest arrow 0)
      unless ← at? ";" do reportHere (.numbered 1005)
      return e
    return arrow
  | .value _ => return arrow

/-- In a conditional of the typed dialect, a colon behind parentheses may begin the return type of
an arrow; that is tried first. -/
def conditionalArrow? (start : Nat) (isAsync : Bool) (items : List ParenItem)
    (comma : Option Span) : Parse (Option Expr) := do
  let ctx ← read
  unless ctx.typed && ctx.inConditional && (← at? ":") do return none
  attempt do
    let _ ← returnType
    expect "=>"
    let ps ← arrowParams items comma
    let body ← arrowBody isAsync
    let span ← spanFrom start
    if ctx.colonReserved && !(← at? ":") then return none
    return some (.arrow span ps body)

/-- A return type between parentheses and an arrow. -/
def arrowReturnType? : Parse (Option (List Expr)) := do
  let ctx ← read
  unless ctx.typed && !ctx.colonReserved && (← at? ":") do return none
  attempt do
    let types ← returnType
    unless ← at? "=>" do return none
    return some types

/-- Entries of an object that make sense only in a pattern. -/
def reportShorthandValues (items : List ParenItem) : Parse Unit := do
  for item in items do
    match item with
    | .plain (.object _ properties) | .spread _ (.object _ properties) =>
      for p in properties do
        if let .shorthand span _ (some _) := p then report span .shorthandWithValue
    | _ => pure ()

/-- The items as arguments of a call. -/
def parenArguments (items : List ParenItem) : Parse (List Item) :=
  items.mapM fun
    | .plain e => return .plain e
    | .spread start e => return .spread start e
    | .param p => failAt p.span .invalidExpression

/-- The expressions between parentheses, none of which may be spread. -/
def parenExprs (items : List ParenItem) : Parse (List Expr) :=
  items.mapM fun
    | .plain e => return e
    | .spread _ e => failAt e.span .spreadInParentheses
    | .param p => failAt p.span .invalidExpression

/-- Parentheses: an arrow, an expression, or, behind the word `async`, a call of that name. -/
def parenthesized (canBeArrow : Bool) (asyncSpan : Option Span) : Parse Expr := do
  let start ← match asyncSpan with
    | some span => pure span.start
    | none => position
  let (items, comma) ← parenItems
  let isAsync := asyncSpan.isSome
  if let some e ← conditionalArrow? start isAsync items comma then return e
  let result ← arrowReturnType?
  if items.any (·.isParam) || result.isSome || (← at? "=>") then
    if ← afterLineBreak then failAt (← spanFrom start) .lineBreakBeforeArrow
    unless canBeArrow do failAt (← spanFrom start) .arrowMisplaced
    expect "=>"
    return ← arrowRest start isAsync items comma
  reportShorthandValues items
  let span ← spanFrom start
  match asyncSpan with
  | some asyncSpan =>
    return .call span (.ident asyncSpan "async") (← parenArguments items) []
  | none =>
    match ← parenExprs items with
    | [] => failAt span .emptyParentheses
    | [e] => return .paren span e
    | first :: rest =>
      let stop := ((first :: rest).getLast?.getD first).span.stop
      return .paren span (.operation ⟨first.span.start, stop⟩ .sequence (first :: rest))

end MapLint.Script
