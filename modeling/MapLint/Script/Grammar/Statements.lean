import MapLint.Script.Grammar.Operators

/-!
# Statements

Statements begin with a word that tells their kind, or with an expression. A statement ends with a
semicolon, at a line break, before a closing brace, or at the end of the text.

## Architecture

- declarations of variables, with the checks on their initial values;
- loops, choices, jumps, and the rest by keyword;
- `typedDeclaration?`: the declarations of the typed dialect, which begin with words that are not
  reserved and so are recognised behind an expression that is a mere name.
-/

namespace MapLint.Script

variable [Grammar]

/-! ## Variables -/

/-- Whether `let` before this token declares a variable. -/
def Token.followsLet : Token → Bool
  | .word text escaped =>
    escaped || !reservedWords.contains text
  | .punct p => p == "[" || p == "\x7b"
  | _ => false

/-- One variable of a declaration. -/
def declarator (kind : VarKind) (inLoopHead : Bool) : Parse Declarator := do
  let ctx ← read
  let start ← position
  let target ← parse (.pattern (kind != .var))
  if ctx.typed then
    if let .ident _ _ _ := target then
      let _ ← eat "!"
  let target ← annotated target
  if inLoopHead && ((← atWord "in") || (← atWord "of")) then return .mk target none
  if ← eat "=" then
    return .mk target (some (← parse .assign))
  unless ctx.ambient do
    if kind == .const && !inLoopHead then report (← spanFrom start) .constWithoutValue
    else
      match target with
      | .ident _ _ _ => pure ()
      | _ => report (← spanFrom start) .patternWithoutValue
  return .mk target none

/-- Skips the rest of a statement that does not end where it should. -/
def skipStatement : Parse Unit := do
  reportHere (.numbered 1005)
  let _ ← catchFault (parse .expr)
  repeatUntil () fun _ => do
    if ← eatStatementEnd then return .ok ()
    if let .broken _ ← current then return .ok ()
    bump
    return .error ()

/-- A declaration of variables, from its keyword on. -/
def declarators (inLoopHead : Bool) : Parse (VarKind × List Declarator) := do
  let kind ←
    if ← eatWord "const" then pure VarKind.const
    else if ← eatWord "let" then pure VarKind.letKind
    else do
      expectWord "var"
      pure VarKind.var
  let keywordStop := (← get).previousStop
  let included := kind != .var || !inLoopHead
  let vars ← repeatUntil [] fun (acc : List Declarator) => do
    if (← at? ";") || (← atEnd) then
      report ⟨keywordStop, keywordStop⟩ (.numbered 1009)
      return .ok acc.reverse
    let v ← within (fun c => { c with inOperator := (included && !inLoopHead) || c.inOperator })
      (declarator kind inLoopHead)
    if ← eat "," then return .error (v :: acc)
    return .ok (v :: acc).reverse
  unless inLoopHead do
    unless ← eatStatementEnd do skipStatement
  return (kind, vars)

/-- Variables bound by `using`, if this is such a declaration. Only the typed dialect has them. -/
def usingDeclaration? : Parse (Option Stmt) := do
  let next ← peek
  if next.lineBreak || !(← read).isVariable next.token || next.token.isWord "of" ||
      next.token.isWord "in" then
    return none
  let start ← position
  bump
  let vars ← repeatUntil [] fun (acc : List Declarator) => do
    let target ← annotated (← parse (.pattern true))
    let value ← if ← eat "=" then do pure (some (← parse .assign)) else pure none
    if ← eat "," then return .error (.mk target value :: acc)
    return .ok (.mk target value :: acc).reverse
  -- these faults come behind those of the values
  unless (← read).typed do report (← spanFrom start) .usingNotEnabled
  if vars.any (fun (.mk _ value) => value.isNone) then report (← spanFrom start) .usingWithoutValue
  expectStatementEnd
  return some (.declaration (.vars .using vars))

/-! ## Choices and jumps -/

/-- A statement that is not a declaration, as part of another. -/
def subStatement : Parse Stmt :=
  within (fun c => { c with topLevel := false }) (parse (.stmt false))

/-- The note on a fault in the condition of `if`. -/
def conditionNote : String := "Tried to parse the condition for an if statement"

/-- A choice. -/
def ifStatement : Parse Stmt := do
  let label := (← get).span
  bump
  expect "("
  let test ←
    match ← catchFault (allowIn (parse .expr)) with
    | .ok e => pure e
    | .error fault => throw ⟨fault.place, .within fault.problem fault.place label conditionNote⟩
  expect ")"
  let yes ← subStatement
  if ← eatWord "else" then
    let no ← subStatement
    return .choice test yes no
  return .choice test yes .inert

/-- `break` or `continue`. -/
def jump (isBreak : Bool) : Parse Stmt := do
  let ctx ← read
  let start ← position
  bump
  let label ←
    if ← eatStatementEnd then pure none
    else do
      let name ← identifier true true
      expectStatementEnd
      pure (some name.text)
  let span ← spanFrom start
  let known := (← get).labels
  let missing := match label with
    | some name => !known.contains name
    | none => false
  if isBreak then
    if missing then report span (.numbered 1116)
    else if !ctx.breakAllowed then report span (.numbered 1105)
  else if !ctx.continueAllowed then report span (.numbered 1115)
  else if missing then report span (.numbered 1107)
  return .inert

/-- `return` with or without a value. -/
def returnStatement : Parse Stmt := do
  let start ← position
  bump
  let value ← if ← atStatementEnd then pure none else do pure (some (← allowIn (parse .expr)))
  expectStatementEnd
  unless (← read).inFunction do report (← spanFrom start) .returnOutsideFunction
  return .returning value

/-- `throw` with a value on the same line. -/
def throwStatement : Parse Stmt := do
  bump
  if ← afterLineBreak then failHere .lineBreakAfterThrow
  let value ← allowIn (parse .expr)
  expectStatementEnd
  return .throwing value

/-- The clauses of a `switch`. -/
def cases : Parse (List Case) :=
  repeatUntil ([], none) fun (acc : List Case × Option Span) => do
    let start ← position
    let isCase ← atWord "case"
    unless isCase || (← atWord "default") do return .ok acc.1.reverse
    bump
    let (test, default) ←
      if isCase then do pure (some (← allowIn (parse .expr)), acc.2)
      else
        match acc.2 with
        | some previous => failHere (.multipleDefault previous)
        | none => do pure (none, some (← spanFrom start))
    expect ":"
    let done : Parse Bool := do
      return (← atEnd) || (← atWord "case") || (← atWord "default") || (← at? "\x7d")
    let body ← listUntil done
      (within (fun c => { c with topLevel := false }) (parse (.stmt true)))
    return .error (.mk test body :: acc.1, default)

/-- A choice between several clauses. -/
def switchStatement : Parse Stmt := do
  bump
  expect "("
  let subject ← allowIn (parse .expr)
  expect ")"
  expect "\x7b"
  let cs ← within (fun c => { c with breakAllowed := true }) cases
  expect "\x7d"
  return .switch subject cs

/-! ## Loops -/

/-- The body of a loop. -/
def loopBody : Parse Stmt :=
  within (fun c => { c with breakAllowed := true, continueAllowed := true }) subStatement

/-- A condition in parentheses. -/
def parenCondition : Parse Expr := do
  expect "("
  let test ← allowIn (parse .expr)
  expect ")"
  return test

/-- What a loop head turns out to be. -/
inductive LoopHead where
  | counting (head : ForHead) (test update : Option Expr)
  | ranging (head : ForHead) (subject : Expr) (overElements : Bool)

/-- The rest of a head behind its first semicolon. -/
def countingHead (head : ForHead) : Parse LoopHead := do
  let test ←
    if ← eat ";" then pure none
    else do
      let e ← allowIn (parse .expr)
      expect ";"
      pure (some e)
  let update ← if ← at? ")" then pure none else do pure (some (← allowIn (parse .expr)))
  return .counting head test update

/-- The rest of a head from `in` or `of` on. -/
def rangingHead (head : ForHead) : Parse LoopHead := do
  let overElements ← atWord "of"
  bump
  let subject ← allowIn (if overElements then parse .assign else parse .expr)
  return .ranging head subject overElements

/-- Whether the head goes on with `in` or `of`. -/
def atRange : Parse Bool := do return (← atWord "of") || (← atWord "in")

/-- The checks on variables before `in` or `of`. -/
def checkRangeVariables (vars : List Declarator) : Parse Unit := do
  let ctx ← read
  match vars with
  | [.mk target value] =>
    if (ctx.strict || (← atWord "of")) && value.isSome then report target.span .valueInForHead
    if ctx.typed then
      match target with
      | .ident _ _ (_ :: _) | .array _ _ (_ :: _) | .object _ _ (_ :: _) =>
        report target.span (.numbered 2483)
      | _ => pure ()
  | _ =>
    for v in vars.drop 1 do
      match v with
      | .mk target _ => report target.span .severalNamesInForHead

/-- The head of a loop between its parentheses. -/
def loopHead : Parse LoopHead := do
  let next ← peek
  let declares := (← atWord "const") || (← atWord "var") ||
    ((← atWord "let") && next.token.followsLet)
  if declares then
    let (kind, vars) ← within (fun c => { c with inOperator := false }) (declarators true)
    if ← atRange then
      checkRangeVariables vars
      return ← rangingHead (.vars kind vars)
    expect ";"
    return ← countingHead (.vars kind vars)
  if ← eat ";" then return ← countingHead .empty
  let isUsing := (← atWord "using") && (← read).isVariable next.token && !next.lineBreak &&
    !(next.token.isWord "of")
  if isUsing then
    bump
    let target ← parse (.pattern true)
    if ← atRange then return ← rangingHead (.vars .using [.mk target none])
    let value ← if ← eat "=" then do pure (some (← parse .assign)) else pure none
    expect ";"
    return ← countingHead (.vars .using [.mk target value])
  let first ← within (fun c => { c with inOperator := false }) (parse .expr)
  if ← atRange then
    let target ← asPattern .target first
    return ← rangingHead (.pattern target)
  expect ";"
  countingHead (.expr first)

/-- A `for` loop of any kind. -/
def forStatement : Parse Stmt := do
  bump
  let awaitSpan := (← get).span
  let awaits ← eatWord "await"
  expect "("
  let head ← loopHead
  expect ")"
  let body ← loopBody
  match head with
  | .counting head test update =>
    if awaits then failAt awaitSpan .awaitWithPlainFor
    return .forLoop head test update body
  | .ranging head subject overElements =>
    if awaits && !overElements then failAt awaitSpan .awaitWithPlainFor
    return .forEach head subject body

/-! ## The remaining statements by keyword -/

/-- The pattern that catches a value. -/
def caughtPattern : Parse (List Pattern) := do
  unless ← eat "(" do return []
  let p ← parse (.pattern false)
  let p ← annotated p
  expect ")"
  return [p]

/-- A block of its own within a statement. -/
def innerBlock : Parse (List Stmt) :=
  within (fun c => { c with topLevel := false }) (block false)

/-- The handler behind `catch`, if there is one. -/
def handler? : Parse (Option (List Pattern × List Stmt)) := do
  unless ← eatWord "catch" do return none
  let caught ← caughtPattern
  return some (caught, ← innerBlock)

/-- The block behind `finally`, if there is one. -/
def lastBlock? : Parse (Option (List Stmt)) := do
  unless ← eatWord "finally" do return none
  return some (← innerBlock)

/-- A block with a handler, a last block, or both. -/
def tryStatement : Parse Stmt := do
  bump
  let body ← innerBlock
  let place ← position
  let handler ← handler?
  let last ← lastBlock?
  unless handler.isSome || last.isSome do report ⟨place, place⟩ (.numbered 1005)
  let (caught, recovery) := handler.getD ([], [])
  return .trying body caught recovery (last.getD [])

/-- A handler without its block is a fault, and a fault that ends it does not count. -/
def strayHandler : Parse Stmt := do
  reportHere (.numbered 1005)
  let _ ← catchFault handler?
  let _ ← catchFault lastBlock?
  return .inert

/-- A last block without what it follows is a fault, and a fault that ends it does not count. -/
def strayLastBlock : Parse Stmt := do
  bump
  reportHere (.numbered 1005)
  let _ ← catchFault (block false)
  return .inert

/-- A statement whose names are looked up in an object first. -/
def withStatement : Parse Stmt := do
  let ctx ← read
  if ctx.typed then reportHere (.numbered 2410)
  reportStrict (← get).span .withInStrict
  bump
  let object ← parenCondition
  let body ← within (fun c => { c with inFunction := true }) subStatement
  return .withObject object body

/-- A statement behind a label. -/
def labelledStatement (label : Name) : Parse Stmt :=
  within (fun c => { c with breakAllowed := true }) do
    let duplicate := (← get).labels.contains label.text
    modify fun s => { s with labels := label.text :: s.labels }
    let body ←
      if ← atWord "function" then do
        let start ← position
        let (name, function, special) ← functionDeclaration false
        let span ← spanFrom start
        if (← read).strict then report span .labelledFunctionInStrict
        if special then report span .labelledGenerator
        pure (.declaration (.function name.text function))
      else subStatement
    if duplicate then report label.span (.duplicateLabel label.text)
    modify fun s => { s with labels := s.labels.erase label.text }
    return .labelled body

/-! ## Declarations of the typed dialect -/

/-- An enumeration, from behind the word `enum`. -/
def enumRest : Parse Decl := do
  let _ ← identifier false false
  expect "\x7b"
  let parts ← delimited (at? "\x7d") do
    let s ← get
    match s.token with
    | .string _ _ => bump
    | .number =>
      bump
      report s.span (.numbered 2452)
    | .punct "[" =>
      bump
      let _ ← parse .assign
      expect "]"
      report (← spanFrom s.span.start) (.numbered 1164)
    | _ =>
      let _ ← propertyName
    if ← eat "=" then return [← parse .assign]
    return []
  expect "\x7d"
  return .typeLevel parts.flatten

/-- The interfaces behind `extends`. -/
def heritageTypes : Parse (List Expr) := do
  let parts ← delimited (at? "\x7b") do
    let base ← parse .operand
    let args ← if ← atOpenAngle then typeArgs else pure []
    return base :: args
  return parts.flatten

/-- An interface, from behind the word `interface`. -/
def interfaceRest : Parse Decl := do
  let _ ← identifier false false
  let types ← typeParams?
  let bases ← if ← eatWord "extends" then heritageTypes else pure []
  let body ← typeMembers
  return .typeLevel (types ++ bases ++ body)

/-- A type alias, from behind the word `type`. -/
def aliasRest : Parse Decl := do
  let _ ← identifier false false
  let types ← typeParams?
  unless ← eat "=" do failUnexpected "="
  let parts ← parse .type
  expectStatementEnd
  return .typeLevel (types ++ parts)

/-- The items of a namespace between braces. -/
def spaceBody : Parse Decl := do
  expect "\x7b"
  let items ← within (fun c => { c with topLevel := true }) <|
    listUntil (do return (← at? "\x7d") || (← atEnd)) (parse .moduleItem)
  expect "\x7d"
  return .space items

/-- A namespace, from its name on; dots in the name nest it. -/
def spaceRest : Parse Decl := do
  let _ ← identifier false false
  repeatUntil () fun _ => do
    if ← eat "." then
      let _ ← identifier false false
      return .error ()
    return .ok ()
  if ← at? "\x7b" then spaceBody
  else
    expectStatementEnd
    return .space []

/-- A module with a string as its name, or the global one. -/
def foreignModuleRest : Parse Decl := do
  if (← current).isString then bump
  else let _ ← identifier false false
  if ← at? "\x7b" then spaceBody
  else
    expectStatementEnd
    return .space []

/-- An abstract class, from the word `class` on. -/
def classDecl : Parse Decl := do
  let (name, body, heritage) ← classDeclaration
  return .classNamed name.text body heritage

/-- Whether the token behind the current one continues a declaration on the same line. -/
def nextContinues (ok : Token → Bool) : Parse Bool := do
  let next ← peek
  return !next.lineBreak && ok next.token

/-- A declaration of the typed dialect whose first word, given by `word`, has just been read. -/
def declarationBehind? (word : String) : Parse (Option Decl) := do
  let ctx ← read
  if ← afterLineBreak then return none
  let t ← current
  match word with
  | "abstract" => if t.isWord "class" then return some (← classDecl) else return none
  | "enum" => if ctx.isVariable t then return some (← enumRest) else return none
  | "interface" => if ctx.isVariable t then return some (← interfaceRest) else return none
  | "type" => if ctx.isVariable t then return some (← aliasRest) else return none
  | "namespace" => if ctx.isVariable t then return some (← spaceRest) else return none
  | "module" =>
    if t.isString then return some (← foreignModuleRest)
    if ctx.isVariable t then return some (← spaceRest)
    return none
  | _ => return none

/-- What may be declared to exist elsewhere, from behind the word `declare`. -/
def ambientDeclaration? : Parse (Option Decl) :=
  within (fun c => { c with ambient := true }) do
    let next ← peek
    match ← current with
    | .word text false =>
      match text with
      | "function" =>
        let (name, function, _) ← functionDeclaration false
        return some (.function name.text function)
      | "class" => return some (← classDecl)
      | "const" =>
        if next.token.isWord "enum" then
          bump
          bump
          return some (← enumRest)
        let (kind, vars) ← declarators false
        return some (.vars kind vars)
      | "var" =>
        let (kind, vars) ← declarators false
        return some (.vars kind vars)
      | "let" =>
        let (kind, vars) ← declarators false
        return some (.vars kind vars)
      | "enum" =>
        bump
        return some (← enumRest)
      | "global" =>
        bump
        if ← at? "\x7b" then return some (← spaceBody)
        return none
      | "async" =>
        if next.token.isWord "function" then
          bump
          let (name, function, _) ← functionDeclaration true
          return some (.function name.text function)
        return none
      | _ =>
        if next.lineBreak then return none
        if ["abstract", "interface", "type", "namespace", "module"].contains text then
          bump
          declarationBehind? text
        else return none
    | _ => return none

/-- A declaration of the typed dialect that begins with a name that has just been read as an
expression. -/
def typedDeclaration? (name : String) : Parse (Option Decl) := do
  match name with
  | "declare" =>
    if ← afterLineBreak then return none
    let before ← get
    match ← ambientDeclaration? with
    | some decl => return some decl
    | none =>
      set before
      return none
  | "global" => if ← at? "\x7b" then return some (← spaceBody) else return none
  | _ => declarationBehind? name

/-! ## Statements -/

/-- A statement that begins with an expression. -/
def expressionStatement : Parse Stmt := do
  let ctx ← read
  let start ← position
  let e ← allowIn (parse .expr)
  let finish (e : Expr) : Parse Stmt := do
    if ← eatStatementEnd then return .expr start e
    if (← current).isBinaryOperator then
      reportHere (.numbered 1005)
      let e ← parse (.binaryRest e 0)
      return .expr start e
    failHere (.statementGoesOn e.span)
  match e with
  | .ident span name =>
    if ← eat ":" then return ← labelledStatement ⟨name, span⟩
    if ctx.typed then
      if let some decl ← typedDeclaration? name then return .declaration decl
    if name == "interface" || name == "enum" then reportStrict span (.reservedInStrict name)
    finish e
  | _ => finish e

/-- An expression statement that begins with the word `import`. -/
def importStatement : Parse (Option Stmt) := do
  let start ← position
  let e ← allowIn (parse .expr)
  let _ ← eatStatementEnd
  return some (.expr start e)

/-- A statement that begins with a word that is not escaped; `none` if the word begins no such
statement. -/
def keywordStatement? (declarations : Bool) (word : String) : Parse (Option Stmt) := do
  let ctx ← read
  let next ← peek
  let misplaced : Parse Unit := do
    unless declarations do reportHere .declarationMisplaced
  match word with
  | "break" => return some (← jump true)
  | "continue" => return some (← jump false)
  | "debugger" =>
    bump
    expectStatementEnd
    return some .inert
  | "do" =>
    bump
    let body ← loopBody
    expectWord "while"
    let test ← parenCondition
    let _ ← eatStatementEnd
    return some (.doLoop body test)
  | "for" => return some (← forStatement)
  | "function" =>
    misplaced
    let (name, function, _) ← functionDeclaration false
    return some (.declaration (.function name.text function))
  | "class" =>
    misplaced
    return some (.declaration (← classDecl))
  | "if" => return some (← ifStatement)
  | "return" => return some (← returnStatement)
  | "switch" => return some (← switchStatement)
  | "throw" => return some (← throwStatement)
  | "try" => return some (← tryStatement)
  | "with" => return some (← withStatement)
  | "while" =>
    bump
    let test ← parenCondition
    return some (.whileLoop test (← loopBody))
  | "var" =>
    let (kind, vars) ← declarators false
    return some (.declaration (.vars kind vars))
  | "const" =>
    if next.token.isWord "enum" then
      unless ctx.typed do return none
      bump
      bump
      return some (.declaration (← enumRest))
    unless declarations do return none
    let (kind, vars) ← declarators false
    return some (.declaration (.vars kind vars))
  | "let" =>
    unless declarations && next.token.followsLet do return none
    let (kind, vars) ← declarators false
    return some (.declaration (.vars kind vars))
  | "using" => if declarations then usingDeclaration? else return none
  | "await" =>
    unless next.token.isWord "using" && declarations do return none
    let before ← get
    bump
    match ← usingDeclaration? with
    | some s =>
      if ctx.topLevel then modify fun s => { s with moduleSeen := true }
      return some s
    | none =>
      set before
      return none
  | "enum" =>
    unless ctx.typed do return none
    bump
    return some (.declaration (← enumRest))
  | "interface" =>
    -- the word is reserved in strict code, so it must not be read as a name first
    unless ctx.typed && ctx.isVariable next.token && !next.lineBreak do return none
    bump
    return some (.declaration (← interfaceRest))
  | "async" =>
    unless next.token.isWord "function" && !next.lineBreak do return none
    bump
    let (name, function, _) ← functionDeclaration true
    return some (.declaration (.function name.text function))
  | "import" =>
    unless next.token.isOneOf ["(", "."] do failHere .importInScript
    importStatement
  | "export" => failHere .importInScript
  | "catch" => return some (← strayHandler)
  | "finally" => return some (← strayLastBlock)
  | _ => return none

/-- A statement. -/
def stmtProduction (declarations : Bool) : Parse Stmt := do
  match ← current with
  | .punct "\x7b" =>
    return .block (← within (fun c => { c with topLevel := false }) (block false))
  | .punct ";" =>
    bump
    return .inert
  | .word text false =>
    match ← keywordStatement? declarations text with
    | some s => return s
    | none => expressionStatement
  | _ => expressionStatement

end MapLint.Script
