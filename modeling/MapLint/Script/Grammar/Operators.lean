import MapLint.Script.Grammar.Operands

/-!
# Operators

Expressions with operators, from the tightest to the loosest: before and behind an operand, between
two operands by precedence, the conditional, assignments, and the comma.

A missing operand is a fault that does not stop the reading when an operator follows, so that one
mistake is reported once and at the right place.
-/

namespace MapLint.Script

variable [Grammar]

/-! ## Before and behind an operand -/

/-- The words and signs that are operators before an operand. -/
def Token.isUnaryOperator : Token → Bool
  | .punct p => ["+", "-", "~", "!"].contains p
  | .word w escaped => !escaped && ["delete", "void", "typeof"].contains w
  | _ => false

/-- Removes parentheses. -/
def Expr.withoutParens : Expr → Expr
  | .paren _ inner => inner.withoutParens
  | e => e

/-- Whether a token leaves the word `await` before it without an operand. -/
def Token.endsAwaitName : Token → Bool
  | .punct p => [")", "]", ";", ","].contains p
  | .eof => true
  | _ => false

/-- The word `await`: an operator, or a name where it cannot be one. -/
def awaitExpr : Parse Expr := do
  let ctx ← read
  let start ← position
  bump
  if ← at? "*" then failHere .awaitStar
  let span ← spanFrom start
  if !ctx.inAsync && ((← current).endsAwaitName || (← atOneOf ["\x7d", "=", ".", ":", "=>"])) then
    return .ident span "await"
  if ctx.topLevel then modify fun s => { s with moduleSeen := true }
  if ctx.inFunction && !ctx.inAsync then report span .awaitInFunction
  if ctx.inParams && !ctx.inFunction then report span .awaitInParameters
  let operand ← parse .unary
  return .operation (← spanFrom start) .await [operand]

/-- A type in angle brackets before an operand. -/
def typeAssertion : Parse Expr := do
  let start ← position
  expect "<"
  let types ←
    if ← eatWord "const" then pure []
    else parse .type
  unless ← atCloseAngle do failHere (.expected ">" (← current).shown)
  bump
  let inner ← parse .unary
  return .typed (← spanFrom start) inner types

/-- An operator before its operand. A fault in the operand is reported here. -/
def unaryOperation : Parse Expr := do
  let ctx ← read
  let start ← position
  let deletes ← atWord "delete"
  bump
  let operandStart := (← position) - 1
  let operand ←
    match ← catchFault (parse .unary) with
    | .ok e => pure e
    | .error fault => do
      report fault.place fault.problem
      pure (.invalid ⟨operandStart, operandStart⟩)
  if deletes then
    if let .ident s _ := operand then reportStrict s (.numbered 1102)
    if ctx.typed then
      match operand.withoutParens with
      | .member _ _ _ _ => pure ()
      | .compound _ .computedMember _ _ _ => pure ()
      | .compound _ .optionalChain _ [] _ => pure ()
      | e => report e.span (.numbered 2703)
  return .operation ⟨start, operand.span.stop⟩ .unary [operand]

/-- An operand with the operators before and behind it. -/
def unaryProduction : Parse Expr := do
  let ctx ← read
  let start ← position
  let t ← current
  if t.isPunct "<" && ctx.typed && !ctx.markup then typeAssertion
  else if t.isOneOf ["++", "--"] then
    bump
    let operand ← parse .unary
    checkTarget operand
    return .operation ⟨start, operand.span.stop⟩ .update [operand]
  else if t.isUnaryOperator then unaryOperation
  else if t.isWord "await" && !(← peek).token.isPunct "=>" then awaitExpr
  else
    let operand ← parse .operand
    if operand.isArrow || (← afterLineBreak) then return operand
    if ← atOneOf ["++", "--"] then
      checkTarget operand
      bump
      return .operation (← spanFrom start) .update [operand]
    return operand

/-! ## Between two operands -/

/-- How tightly an operator binds; `in` only where it is one. -/
def precedence? (inOperator : Bool) : Token → Option (String × Nat)
  | .word "in" false => if inOperator then some ("in", 8) else none
  | .word "instanceof" false => some ("instanceof", 8)
  | .punct p =>
    (match p with
      | "??" => some 1
      | "||" => some 2
      | "&&" => some 3
      | "|" => some 4
      | "^" => some 5
      | "&" => some 6
      | "==" | "!=" | "===" | "!==" => some 7
      | "<" | ">" | "<=" | ">=" => some 8
      | "<<" | ">>" | ">>>" => some 9
      | "+" | "-" => some 10
      | "*" | "/" | "%" => some 11
      | "**" => some 12
      | _ => none).map fun level => (p, level)
  | _ => none

/-- The level of the comparisons, at which the annotations of the typed dialect stand. -/
def comparisonLevel : Nat := 8

/-- Whether an expression is a logical operation without parentheses around it. -/
def Expr.isLogical : Expr → Bool
  | .compound _ (.binary op) _ _ _ => op == "&&" || op == "||"
  | _ => false

/-- Whether an expression is a choice of the first value that is there. -/
def Expr.isNullish : Expr → Bool
  | .compound _ (.binary op) _ _ _ => op == "??"
  | _ => false

/-- An annotation behind an expression, if there is one. -/
def annotatedOperand? (left : Expr) : Parse (Option Expr) := do
  if ← atWord "as" then
    bump
    let types ← if ← eatWord "const" then pure [] else parse .type
    return some (.typed (← spanFrom left.span.start) left types)
  if ← atWord "satisfies" then
    bump
    let types ← parse .type
    return some (.typed (← spanFrom left.span.start) left types)
  return none

/-- The two ways of choosing values must not be mixed without parentheses. -/
def checkNullish (operator : String) (left right : Expr) (span : Span) : Parse Unit := do
  if operator == "??" then
    if left.isLogical then report left.span .nullishWithLogical
    if right.isLogical then report right.span .nullishWithLogical
  else if (operator == "&&" || operator == "||") && left.isNullish then
    report span .nullishWithLogical

/-- What follows a left operand, as long as it binds tighter than `level`. -/
def binaryRestProduction (left : Expr) (level : Nat) : Parse Expr :=
  repeatUntil left fun (left : Expr) => do
    let ctx ← read
    if ctx.typed && comparisonLevel > level && !(← afterLineBreak) then
      if let some e ← annotatedOperand? left then return .error e
    match precedence? ctx.inOperator (← current) with
    | none => return .ok left
    | some (operator, tightness) =>
      if tightness ≤ level then return .ok left
      bump
      if operator == "**" then
        if let .compound _ .unary _ _ _ := left then failAt left.span .unaryInPower
      let first ← parse .unary
      let right ← parse (.binaryRest first (if operator == "**" then tightness - 1 else tightness))
      let span : Span := ⟨left.span.start, right.span.stop⟩
      checkNullish operator left right span
      return .error (.operation span (.binary operator) [left, right])

/-- Operands with operators between them. -/
def binaryProduction : Parse Expr := do
  let ctx ← read
  match ← catchFault (parse .unary) with
  | .ok left => if left.isArrow then return left else parse (.binaryRest left 0)
  | .error fault =>
    match ← current with
    | .broken inner => throw inner
    | t =>
      if t.isBinaryOperator || (precedence? ctx.inOperator t).isSome then
        reportHere (.numbered 1109)
        parse (.binaryRest (.invalid fault.place) 0)
      else throw fault

/-! ## Conditionals, assignments and the comma -/

/-- A conditional, or what binds tighter. -/
def conditional : Parse Expr := do
  let test ← parse .binary
  if test.isArrow then return test
  if ← eat "?" then conditionalRest test else return test

/-- The note on a fault in the operand of `yield`. -/
def yieldNote : String := "Tried to parse an argument of yield"

/-- The operator `yield`. -/
def yieldExpr : Parse Expr := do
  let ctx ← read
  let start ← position
  bump
  let span ← spanFrom start
  if ctx.inParams && !ctx.inFunction then failAt span .yieldInParameters
  if (← atStatementEnd) || (← atOneOf [")", "]", ":", ","]) || (← atWord "in") then
    return .operation span .yield []
  let _ ← eat "*"
  match ← catchFault (parse .assign) with
  | .ok e => return .operation (← spanFrom start) .yield [e]
  | .error fault => throw ⟨fault.place, .within fault.problem fault.place span yieldNote⟩

/-- Whether an expression cannot be the left side of an assignment by its form. -/
def Expr.isOperation : Expr → Bool
  | .conditional _ _ _ _ => true
  | .compound _ form _ _ _ =>
    match form with
    | .binary _ | .unary | .update => true
    | _ => false
  | _ => false

/-- An arrow with type parameters. -/
def genericArrow? : Parse (Option Expr) := do
  unless (← read).typed && (← at? "<") do return none
  attempt do
    let start ← position
    let _ ← typeParams
    match ← parse .assign with
    | .arrow s ps body => return some (.arrow ⟨start, s.stop⟩ ps body)
    | _ => return none

/-- Whether an expression that starts here can begin an arrow. -/
def Token.canBeginArrow : Token → Bool
  | .word _ _ => true
  | .punct p => p == "("
  | _ => false

/-- An expression without a comma, apart from arrows with type parameters. -/
def plainAssign : Parse Expr := do
  let ctx ← read
  if ctx.inGenerator && (← atWord "yield") then return ← yieldExpr
  if let .broken fault ← current then throw fault
  let start ← position
  let canBegin := (← current).canBeginArrow
  modify fun s => { s with arrowStart := if canBegin then some start else none }
  let e ← conditional
  if e.isArrow || e.isOperation then return e
  assignmentRest start e

/-- An expression without a comma. Where a tag and a type parameter both start with an angle bracket,
the tag is tried first. -/
def assignProduction : Parse Expr := do
  let ctx ← read
  if ctx.typed && ctx.markup && (← at? "<") then
    let before ← get
    match ← catchFault plainAssign with
    | .ok e => return e
    | .error fault => do
      let after ← get
      set before
      let unambiguous := (← lookAhead do
        bump
        bump
        return (← at? ",") || (← atWord "extends"))
      match ← if unambiguous then genericArrow? else pure none with
      | some e => return e
      | none => do
        set after
        throw fault
  else
    match ← genericArrow? with
    | some e => return e
    | none => plainAssign

/-- Expressions with commas between them. -/
def exprProduction : Parse Expr := do
  let first ← parse .assign
  unless ← at? "," do return first
  let rest ← repeatUntil [] fun (acc : List Expr) => do
    if ← eat "," then return .error ((← parse .assign) :: acc)
    return .ok acc.reverse
  return .operation (← spanFrom first.span.start) .sequence (first :: rest)

end MapLint.Script
