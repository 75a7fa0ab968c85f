import MapLint.Script.Grammar.Patterns

/-!
# Functions

Bodies and the functions around them. Inside a body the operators `await` and `yield` mean what the
kind of function says, jumps out of it are not allowed, and a first statement `'use strict'` makes
it strict.
-/

namespace MapLint.Script

variable [Grammar]

/-! ## Bodies -/

/-- Whether the current token is the directive for strict code. -/
def atStrictDirective : Parse Bool := do
  match ← current with
  | .string value plain => return plain && value == "use strict"
  | _ => return false

/-- Statements up to the closing brace. The end of the text is a fault, but ends them too. -/
def statementsToBrace (directives : Bool) : Parse (List Stmt) := do
  let strict := directives && (← atStrictDirective)
  within (fun c => { c with strict := c.strict || strict }) <|
    repeatUntil [] fun (acc : List Stmt) => do
      if ← atEnd then
        reportHere (.expected "\x7d" (← current).shown)
        return .ok acc.reverse
      if ← eat "\x7d" then return .ok acc.reverse
      return .error ((← parse (.stmt true)) :: acc)

/-- Statements between braces. -/
def block (directives : Bool) : Parse (List Stmt) := do
  expect "\x7b"
  statementsToBrace directives

/-- The context of a function's body. -/
def Context.body (c : Context) (isAsync isGenerator isArrow : Bool) : Context :=
  { c with
    inAsync := isAsync
    inGenerator := isGenerator
    inFunction := true
    topLevel := false
    inStaticBlock := false
    breakAllowed := false
    continueAllowed := false
    colonReserved := false
    inOperator := true
    hasNewTarget := c.hasNewTarget || !isArrow }

/-- Reads the inside of a function, where the labels around it are not visible. -/
def withoutLabels {α : Type} (p : Parse α) : Parse α := do
  let labels := (← get).labels
  modify fun s => { s with labels := [] }
  let result ← p
  modify fun s => { s with labels }
  return result

/-- A declaration without code must not have code. -/
def checkAmbientBody : Parse Unit := do
  let ctx ← read
  if ctx.ambient && ctx.typed && (← at? "\x7b") then reportHere (.numbered 1183)

/-- The body of a function; the typed dialect allows to leave it out. -/
def functionBody (isAsync isGenerator : Bool) : Parse (Option (List Stmt)) := do
  checkAmbientBody
  within (·.body isAsync isGenerator false) <| withoutLabels do
    if (← read).typed && !(← at? "\x7b") then
      if ← eatStatementEnd then return none
    return some (← block true)

/-- The right side of an arrow. -/
def arrowBody (isAsync : Bool) : Parse ArrowBody := do
  let inOperator := (← read).inOperator
  let colonReserved := (← read).colonReserved
  checkAmbientBody
  within (·.body isAsync false true) <| withoutLabels do
    if ← at? "\x7b" then return .block (← block true)
    within (fun c => { c with inOperator, colonReserved }) do
      return .value (← parse .assign)

/-! ## Whole functions -/

/-- The type parameters, parameters, return type and body of a function. The second result says
whether there is a body. -/
def functionRest (isAsync isGenerator : Bool) (readParams : Parse (List Pattern)) :
    Parse (Function × Bool) :=
  within (fun c => { c with inAsync := isAsync, inGenerator := isGenerator }) do
    let types ← typeParams?
    let ps ← within (fun c => { c with inParams := true, inFunction := false, inOperator := true })
      readParams
    let result ← returnType?
    let body ← functionBody isAsync isGenerator
    if (← read).typed && body.isNone then
      for p in ps do
        if p.hasDefault then report p.span (.numbered 2371)
    return (.mk ps (body.getD []) (types ++ result), body.isSome)

/-- What follows the name of a function that is not a method. -/
def plainFunctionRest (isAsync isGenerator : Bool) : Parse (Function × Bool) :=
  within (fun c => { c with superAllowed := false, inField := false, colonReserved := false })
    (functionRest isAsync isGenerator params)

/-- A function declaration, from the word `function` on. -/
def functionDeclaration (isAsync : Bool) : Parse (Name × Function × Bool) := do
  expectWord "function"
  let isGenerator ← eat "*"
  let name ← bindingName false
  let (function, _) ← plainFunctionRest isAsync isGenerator
  return (name, function, isAsync || isGenerator)

/-- A function whose name may be missing, from the word `function` on. -/
def functionValue (start : Nat) (isAsync bodyRequired : Bool) : Parse Expr := do
  expectWord "function"
  let isGenerator ← eat "*"
  let name ← within (fun c => { c with inAsync := isAsync, inGenerator := isGenerator })
    (bindingName? false)
  let (function, hasBody) ← plainFunctionRest isAsync isGenerator
  if bodyRequired && !hasBody then failUnexpected "\x7b"
  return .function (← spanFrom start) (name.map (·.text)) function

end MapLint.Script
