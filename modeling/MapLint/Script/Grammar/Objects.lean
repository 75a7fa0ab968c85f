import MapLint.Script.Grammar.Functions

/-!
# Arrays and objects

The literals between brackets and braces. Both may turn out to be patterns later, so a comma before
the closing bracket is remembered: no rest element may have one behind it.
-/

namespace MapLint.Script

variable [Grammar]

/-- Remembers the comma that ends the literal starting at `start`. -/
def rememberComma (start : Nat) (comma : Span) : Parse Unit :=
  modify fun s => { s with trailingCommas := (start, comma) :: s.trailingCommas }

/-- The span of the token before, when that is a single character. -/
def lastCharSpan : Parse Span := do spanFrom ((← get).previousStop - 1)

/-- An element or argument. -/
def item : Parse Item := do
  let start ← position
  if ← eat "..." then return .spread start (← allowIn (parse .assign))
  return .plain (← allowIn (parse .assign))

/-- An array literal. -/
def arrayLiteral : Parse Expr := do
  let start ← position
  expect "["
  let items ← within (fun c => { c with colonReserved := false }) <|
    repeatUntil [] fun (acc : List Item) => do
      if ← at? "]" then return .ok acc.reverse
      if ← eat "," then return .error (.hole :: acc)
      let x ← item
      unless ← at? "]" do
        expect ","
        if ← at? "]" then rememberComma start (← lastCharSpan)
      return .error (x :: acc)
  expect "]"
  return .array (← spanFrom start) items

/-! ## Objects -/

/-- Parameters, checked by a test on their number. -/
def countedParams (ok : Nat → Bool) (place : Span) (problem : Problem) : Parse (List Pattern) := do
  let ps ← params
  let counted := ps.filter fun
    | .ident _ "this" _ => false
    | _ => true
  unless ok counted.length do report place problem
  return ps

/-- The parameters of a getter. -/
def getterParams (place : Span) : Parse (List Pattern) :=
  countedParams (· == 0) place .getterWithParameters

/-- The parameters of a setter. -/
def setterParams (place : Span) : Parse (List Pattern) :=
  countedParams (· == 1) place .setterWithoutOneParameter

/-- The function of a method of an object. -/
def methodFunction (isAsync isGenerator : Bool) (readParams : Parse (List Pattern)) :
    Parse Function :=
  within (fun c => { c with superAllowed := true, inField := false, inClass := false }) do
    return (← functionRest isAsync isGenerator readParams).1

/-- What follows `get`, `set` or `async` when it is not itself the key. -/
def prefixedProperty (start : Nat) (word : String) : Parse Property := do
  let isGenerator ← if word == "async" then eat "*" else pure false
  let key ← propertyKey
  if word == "get" then
    match ← methodFunction false false (getterParams key.span) with
    | .mk _ body types => return .getter (← spanFrom start) key.computed? types body
  else if word == "set" then
    match ← methodFunction false false (setterParams key.span) with
    | .mk ps body _ => return .setter (← spanFrom start) key.computed? ps body
  else
    let function ← methodFunction true isGenerator params
    return .method (← spanFrom start) key.computed? function

/-- The wording for a token that cannot follow a key. -/
def afterKeyWords (typed : Bool) : String :=
  if typed then
    "... , *,  (, [, :, , ?, =, an identifier, public, protected, private, readonly, <."
  else "... , *,  (, [, :, , ?, = or an identifier"

/-- Whether the token behind a key of an object in the typed dialect can follow it. -/
def Token.followsKey : Token → Bool
  | .punct p => ["(", "[", ":", ",", "?", "=", "*", "\x7d", "<"].contains p
  | .word _ _ | .string _ _ | .number => true
  | _ => false

/-- An entry of an object literal. -/
def property : Parse Property := do
  let ctx ← read
  let start ← position
  if ← eat "..." then
    let value ← allowIn (parse .assign)
    return .spread (← spanFrom start) value
  if ← eat "*" then
    let key ← propertyKey
    let function ← methodFunction false true params
    return .method (← spanFrom start) key.computed? function
  let modified ← paramModifier?
  let modifierStop := (← get).previousStop
  let key ← propertyKey
  if ctx.typed && !(← current).followsKey then
    reportHere (.numbered 1005)
    let span ← spanFrom start
    return .keyed span key.computed? (.invalid span)
  if ← eat ":" then
    let value ← allowIn (parse .assign)
    return .keyed (← spanFrom start) key.computed? value
  if (← at? "(") || (ctx.typed && (← at? "<")) then
    let function ← methodFunction false false params
    return .method (← spanFrom start) key.computed? function
  match key with
  | .word name =>
    if ← eat "?" then report (← lastCharSpan) (.numbered 1162)
    if ← atOneOf ["=", ",", "\x7d"] then
      if ctx.reserves name.text then report name.span .reservedShorthand
      if ← eat "=" then
        let value ← allowIn (parse .assign)
        return .shorthand (← spanFrom start) name.text (some value)
      return .shorthand name.span name.text none
    if name.text == "get" || name.text == "set" || name.text == "async" then
      if modified then report ⟨start, modifierStop⟩ (.numbered 1042)
      prefixedProperty start name.text
    else failUnexpected (afterKeyWords ctx.typed)
  | _ => failUnexpected "identifier"

/-- An object literal. -/
def objectLiteral : Parse Expr := do
  let start ← position
  expect "\x7b"
  let properties ← within (fun c => { c with colonReserved := false }) <|
    repeatUntil [] fun (acc : List Property) => do
      if ← eat "\x7d" then return .ok acc.reverse
      let p ← property
      unless ← at? "\x7d" do
        expect ","
        if ← at? "\x7d" then rememberComma start (← lastCharSpan)
      return .error (p :: acc)
  return .object (← spanFrom start) properties

end MapLint.Script
