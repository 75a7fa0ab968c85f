import MapLint.Script.Grammar.Names

/-!
# Parameters and annotations

What functions, methods and function types share: type annotations, type parameters and lists of
parameters. Outside the typed dialect there are no annotations, and the optional ones read
nothing there.
-/

namespace MapLint.Script

variable [Grammar]

/-! ## Angle brackets

A type may end where the lexer sees a longer operator such as `>>`, so the angle brackets of types are
cut off from it. -/

/-- Cuts the current token down to one angle bracket if it starts with one. -/
def splitAngle (c : Char) : Parse Unit := do
  let s ← get
  match s.token with
  | .punct text =>
    if text.length > 1 && text.toList.head? == some c then
      respell ⟨.punct (String.singleton c), [], [], s.here.skip 1⟩
  | _ => pure ()

/-- Whether the current token starts with an opening angle bracket. -/
def atOpenAngle : Parse Bool := do atOneOf ["<", "<<"]

/-- Whether the current token is or starts with a closing angle bracket, which is then cut off. -/
def atCloseAngle : Parse Bool := do
  splitAngle '>'
  at? ">"

/-- Reads items up to a closing bracket, with commas between them. -/
def delimited {α : Type} (done : Parse Bool) (item : Parse α) : Parse (List α) :=
  repeatUntil [] fun (acc : List α) => do
    if ← done then return .ok acc.reverse
    let x ← item
    if ← eat "," then return .error (x :: acc)
    if ← done then return .ok (x :: acc).reverse
    failHere (.expected "," (← current).shown)

/-! ## Types in their places -/

/-- Types between angle brackets. -/
def typeArgs : Parse (List Expr) := do
  splitAngle '<'
  expect "<"
  let parts ← within (fun c => { c with noConditionalType := false })
    (delimited atCloseAngle (parse .type))
  expect ">"
  return parts.flatten

/-- A type parameter with its constraint and its default. -/
def typeParam : Parse (List Expr) := do
  let modifier : Parse Bool := do
    if (← atWord "const") || (← atWord "in") then
      bump
      return true
    if (← atWord "out") && (← peek).token.isAnyWord then
      bump
      return true
    return false
  let _ ← repeatUntil () fun _ => do
    if ← modifier then return .error ()
    return .ok ()
  let _ ← propertyName
  let constraint ← if ← eatWord "extends" then parse .type else pure []
  let default ← if ← eat "=" then parse .type else pure []
  return constraint ++ default

/-- Type parameters between angle brackets. -/
def typeParams : Parse (List Expr) := do
  expect "<"
  let parts ← delimited atCloseAngle typeParam
  expect ">"
  return parts.flatten

/-- Type parameters, if there are any. -/
def typeParams? : Parse (List Expr) := do
  if (← read).typed && (← at? "<") then typeParams else return []

/-- A colon and a type. -/
def annotation : Parse (List Expr) := do
  expect ":"
  within (fun c => { c with noConditionalType := false }) (parse .type)

/-- A type annotation, if there is one. -/
def annotation? : Parse (List Expr) := do
  if (← read).typed && (← at? ":") then annotation else return []

/-- A type, or the statement that a parameter is of a type. -/
def typeOrPredicate : Parse (List Expr) := do
  let ctx ← read
  let next ← peek
  let asserts := (← atWord "asserts") && (ctx.isVariable next.token || next.token.isWord "this") &&
    !next.lineBreak && !next.token.isWord "is"
  if asserts then
    bump
    let _ ← propertyName
    if ← eatWord "is" then parse .type else return []
  else if (← atVariable) && next.token.isWord "is" && !next.lineBreak then
    bump
    bump
    parse .type
  else parse .type

/-- A colon and a return type. -/
def returnType : Parse (List Expr) := do
  expect ":"
  typeOrPredicate

/-- A return type, if there is one. -/
def returnType? : Parse (List Expr) := do
  if (← read).typed && (← at? ":") then returnType else return []

/-! ## Modifiers -/

/-- Whether the token behind a modifier can be what it modifies. -/
def modifierApplies : Parse Bool := do
  let next ← peek
  return !next.lineBreak &&
    (next.token.isOneOf ["[", "\x7b", "*", "...", "#"] || next.token.isAnyWord ||
      next.token.isString ||
      match next.token with
      | .number | .bigint => true
      | _ => false)

/-- Skips one of the given modifiers if it is one here. -/
def modifier? (words : List String) : Parse (Option Name) := do
  match ← current with
  | .word text false =>
    if words.contains text && (← modifierApplies) then
      let span := (← get).span
      bump
      return some ⟨text, span⟩
    return none
  | _ => return none

/-- Skips a modifier of a parameter. -/
def paramModifier? : Parse Bool := do
  unless (← read).typed do return false
  let next ← peek
  unless next.token.isAnyWord || next.token.isOneOf ["\x7b", "["] do return false
  return (← modifier? ["public", "protected", "private", "readonly"]).isSome

/-! ## Parameters -/

/-- Gives a pattern the expressions in its annotation and lets its span reach to the end of it. -/
def Pattern.annotate (stop : Nat) (types : List Expr) : Pattern → Pattern
  | .ident s name _ => .ident ⟨s.start, stop⟩ name types
  | .array s elements _ => .array ⟨s.start, stop⟩ elements types
  | .object s fields _ => .object ⟨s.start, stop⟩ fields types
  | .rest s inner _ => .rest ⟨s.start, stop⟩ inner types
  | p => p

/-- Reads the annotation of a pattern. -/
def annotated (p : Pattern) : Parse Pattern := do
  if (← read).typed && (← at? ":") then
    let types ← annotation
    return p.annotate (← get).previousStop types
  return p

/-- Whether a pattern has a default. -/
def Pattern.hasDefault : Pattern → Bool
  | .withDefault _ _ _ => true
  | _ => false

/-- Whether a pattern is a rest element. -/
def Pattern.isRest : Pattern → Bool
  | .rest _ _ _ => true
  | _ => false

/-- A parameter that is not a rest parameter. -/
def plainParam : Parse Pattern := do
  let ctx ← read
  let start ← position
  let modified ← paramModifier?
  let patternStart ← position
  let p ← parse (.pattern false)
  let optional ← if ctx.typed then eat "?" else pure false
  let p ← annotated p
  let p ←
    if ← eat "=" then
      if optional then report p.span (.numbered 1015)
      let value ← parse .assign
      let span ← spanFrom patternStart
      if ctx.ambient then report (← spanFrom start) (.numbered 2371)
      pure (Pattern.withDefault span p value)
    else pure p
  if modified then report (← spanFrom start) (.numbered 2369)
  return p

/-- A rest parameter, from its dots on. -/
def restParam : Parse Pattern := do
  let start ← position
  expect "..."
  let inner ← parse (.pattern false)
  let inner ←
    if ← eat "=" then
      let value ← parse .assign
      report inner.span (.numbered 1048)
      pure (Pattern.withDefault (← spanFrom inner.span.start) inner value)
    else pure inner
  let types ← annotation?
  let rest := Pattern.rest (← spanFrom start) inner types
  if ← eatWhen (← read).typed "?" then report (← spanFrom start) (.numbered 1047)
  return rest

/-- Parameters up to the closing parenthesis. -/
def paramsOf (param : Parse Pattern) : Parse (List Pattern) :=
  repeatUntil ([], none) fun (acc : List Pattern × Option Span) => do
    if ← at? ")" then return .ok acc.1.reverse
    if let some span := acc.2 then report span (.numbered 1014)
    let p ← if ← at? "..." then restParam else param
    unless ← at? ")" do
      expect ","
      if p.isRest && (← at? ")") then report (← spanFrom ((← get).previousStop - 1)) .commaAfterRest
    return .error (p :: acc.1, if p.isRest then some p.span else acc.2)

/-- The parameters of a function, with their parentheses. -/
def params : Parse (List Pattern) := do
  expect "("
  let ps ← paramsOf plainParam
  expect ")"
  return ps

/-- The expressions in the parameters of a function type. A parameter that is not a plain name is
kept whole, as the left side of an assignment without a value. -/
def Pattern.typeParts : List Pattern → List Expr
  | [] => []
  | .ident _ _ types :: ps => types ++ Pattern.typeParts ps
  | p :: ps =>
    .assign p.span true p (.invalid ⟨p.span.stop, p.span.stop⟩) :: Pattern.typeParts ps

end MapLint.Script
