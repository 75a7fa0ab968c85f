import MapLint.Script.Grammar.Objects
import MapLint.Script.Grammar.Types

/-!
# Classes

The head of a class and its members. The words in front of a member (`static`, `async`, `get`,
`readonly`, …) are modifiers only when something follows that they can modify; otherwise they are
its name.
-/

namespace MapLint.Script

variable [Grammar]

/-! ## Telling members apart -/

/-- Whether a method's parameters begin here. -/
def atMethodStart : Parse Bool := do return (← at? "(") || ((← read).typed && (← at? "<"))

/-- Whether a field ends or goes on here. With `anyEnd`, a line break ends it too. -/
def atFieldRest (anyEnd : Bool) : Parse Bool := do
  if (← read).typed && (← atOneOf ["!", ":"]) then return true
  if ← atOneOf ["=", "\x7d"] then return true
  if anyEnd then atStatementEnd else at? ";"

/-- What stands before the key of a member. -/
structure MemberHead where
  start : Nat
  isStatic : Option Span := none
  access : Bool := false
  declared : Option Span := none
  readonlySpan : Option Span := none
  isAbstract : Option Span := none
  isOverride : Bool := false
deriving Inhabited

/-! ## Fields and methods -/

/-- A field behind its key. -/
def field (key : Key) (optional : Bool) : Parse ClassMember := do
  if key.isConstructor then failAt key.span .fieldNamedConstructor
  if (← read).typed && !optional then let _ ← eat "!"
  let types ← annotation?
  within (fun c => { c with inOperator := true, inField := true }) do
    let value ← if ← eat "=" then do pure (some (← parse .assign)) else pure none
    unless ← eatStatementEnd do reportHere (.numbered 1005)
    return .field key.computed? value types

/-- A method behind its key. -/
def method (head : MemberHead) (key : Key) (isAsync isGenerator : Bool)
    (readParams : Parse (List Pattern)) : Parse ClassMember := do
  if let (.hidden _, true) := (key, head.access) then report key.span (.numbered 18010)
  within (fun c => { c with inField := false }) do
    return .method key.computed? (← functionRest isAsync isGenerator readParams).1

/-- A parameter of a constructor, which may also declare a field. -/
def constructorParam : Parse Pattern := do
  let start ← position
  unless (← read).typed do return ← plainParam
  let words := ["public", "protected", "private", "override", "readonly"]
  let modified ← repeatUntil false fun (any : Bool) => do
    match ← modifier? words with
    | some _ => return .error true
    | none => return .ok any
  unless modified do return ← plainParam
  let p ← plainParam
  match p with
  | .ident _ _ _ | .withDefault _ (.ident _ _ _) _ => return p
  | _ => do
    report (← spanFrom start) .parameterPropertyPattern
    return p

/-- A constructor behind its key. The second result is its span if it has a body. -/
def constructorRest (head : MemberHead) : Parse (ClassMember × Option Span) := do
  let ctx ← read
  if ctx.typed && head.isOverride then report (← spanFrom head.start) (.modifiers 1089 ["override"])
  if ctx.typed && (← at? "<") then
    let span := (← get).span
    let _ ← typeParams
    report span (.numbered 1092)
  expect "("
  let ps ← within
    (fun c =>
      { c with
        inParams := true
        inFunction := false
        inAsync := false
        inGenerator := false
        inOperator := true
        inField := false })
    (paramsOf constructorParam)
  expect ")"
  if ctx.typed && (← at? ":") then
    let start ← position
    let _ ← annotation
    report (← spanFrom start) (.numbered 1093)
  let body ← within (fun c => { c with inField := false }) (functionBody false false)
  if ctx.typed && body.isNone then
    for p in ps do
      if p.hasDefault then report p.span (.numbered 2371)
  if let some span := head.isStatic then report span (.modifiers 1089 ["static"])
  if let some span := head.isAbstract then report span (.numbered 1242)
  let span ← spanFrom head.start
  return (.constructor ps (body.getD []), if body.isSome then some span else none)

/-- A block that runs when the class is made. -/
def staticBlock : Parse ClassMember := do
  within
    (fun c =>
      { c with
        inStaticBlock := true
        inField := true
        superAllowed := true
        breakAllowed := false
        continueAllowed := false
        topLevel := false
        inFunction := false })
    (withoutLabels do return .staticBlock (← block false))

/-! ## Members -/

/-- A member with the span of a constructor that has a body. -/
abbrev MemberResult := ClassMember × Option Span

/-- A member behind all its modifiers. -/
def memberCore (head : MemberHead) : Parse MemberResult := do
  let ctx ← read
  let plain (m : Parse ClassMember) : Parse MemberResult := do return (← m, none)
  let noReadonly (problem : Problem) : Parse Unit := do
    if let some span := head.readonlySpan then report span problem
  if ctx.typed && head.isAbstract.isNone && !head.isOverride && !head.access && (← at? "[") then
    if ← opensIndexSignature then
      return (.field none none (← indexSignature), none)
  if ← eat "*" then
    let key ← memberKey
    noReadonly .readonlyMethod
    if key.isConstructor then report (← spanFrom head.start) .generatorConstructor
    return ← plain (method head key false true params)
  let key ←
    match head.readonlySpan with
    | some span => if ← atOneOf ["!", ":"] then pure (.word ⟨"readonly", span⟩) else memberKey
    | none => memberKey
  let optional ← if ctx.typed then eat "?" else pure false
  if ← atMethodStart then
    noReadonly .readonlyMethod
    if key.isConstructor then return ← constructorRest head
    return ← plain (method head key false false params)
  let accessor ← do
    if key.isWord "get" || key.isWord "set" then
      pure (!(← atFieldRest false) && !((← afterLineBreak) && (← at? "*")))
    else pure false
  if !accessor && (← atFieldRest true) then return ← plain (field key optional)
  if key.isWord "async" && !(← afterLineBreak) then
    let isGenerator ← eat "*"
    let key ← memberKey
    if ctx.typed then let _ ← eat "?"
    if key.isConstructor then report key.span .asyncConstructor
    noReadonly .readonlyMethod
    return ← plain (method head key true isGenerator params)
  if accessor then
    let isGetter := key.isWord "get"
    let place := key.span
    let key ← memberKey
    if head.readonlySpan.isSome then report place .readonlyAccessor
    if key.isConstructor then report place .accessorConstructor
    return ← plain
      (method head key false false (if isGetter then getterParams place else setterParams place))
  failUnexpected "* for generator, private key, identifier or async"

/-- Skips the word that makes a field a pair of accessors, if a key follows on its line. -/
def skipAccessorWord : Parse Unit := do
  if (← read).typed && (← atWord "accessor") then
    let next ← peek
    let opensKey := match next.token with
      | .word _ _ | .string _ _ | .number => true
      | t => t.isOneOf ["[", "#"]
    if opensKey && !next.lineBreak then bump

/-- Reads the remaining modifiers of a member and then the member. -/
def memberModified (head : MemberHead) : Parse MemberResult := do
  let head ←
    if (← read).typed then
      repeatUntil head fun (head : MemberHead) => do
        let opensBlock := (← atWord "static") && (← peek).token.isPunct "\x7b"
        if opensBlock then return .ok head
        match ← modifier? ["abstract", "readonly", "override", "static"] with
        | some ⟨"abstract", span⟩ =>
          if head.isAbstract.isSome then report span (.modifiers 1030 ["abstract"])
          else if head.isOverride then report span (.modifiers 1029 ["abstract", "override"])
          else if head.readonlySpan.isSome then
            report span (.modifiers 1029 ["abstract", "readonly"])
          return .error { head with isAbstract := some span }
        | some ⟨"override", span⟩ =>
          if head.isOverride then report span (.modifiers 1030 ["override"])
          else if head.readonlySpan.isSome then
            report span (.modifiers 1029 ["override", "readonly"])
          else if head.declared.isSome then
            report span (.modifiers 1243 ["override", "declare"])
          else
            unless (← read).inDerivedClass do report span (.numbered 4112)
          return .error { head with isOverride := true }
        | some ⟨"readonly", span⟩ =>
          if head.readonlySpan.isSome then report span (.modifiers 1030 ["readonly"])
          return .error { head with readonlySpan := some span }
        | some ⟨_, span⟩ =>
          if head.isOverride then report span (.modifiers 1029 ["static", "override"])
          return .error { head with isStatic := some span }
        | none => return .ok head
    else pure head
  skipAccessorWord
  memberCore head

/-- A word that may be a modifier but turns out to be the key: then the member is read. -/
def memberNamed? (head : MemberHead) (name : Name) : Parse (Option MemberResult) := do
  if ← atMethodStart then
    return some (← method head (.word name) false false params, none)
  if (← atFieldRest false) || ((← read).typed && (← at? "?")) then
    let optional ← if (← read).typed then eat "?" else pure false
    if ← atMethodStart then
      return some (← method head (.word name) false false params, none)
    return some (← field (.word name) optional, none)
  return none

/-- The word `declare` where it is a modifier of members. -/
def declareWord? : Parse (Option Span) := do
  let span := (← get).span
  if ← eatWordWhen (← read).typed "declare" then return some span
  return none

/-- A member of a class. -/
def member : Parse MemberResult := do
  let ctx ← read
  let start ← position
  let first ← declareWord?
  let access ← if ctx.typed then modifier? ["public", "protected", "private"] else pure none
  let declared ← if first.isSome then pure first else declareWord?
  let head : MemberHead := { start, access := access.isSome, declared }
  if let some span := declared then
    if let some m ← memberNamed? head ⟨"declare", span⟩ then return m
  let staticSpan := (← get).span
  if ← eatWord "static" then
    if let some m ← memberNamed? head ⟨"static", staticSpan⟩ then return m
    if ← at? "\x7b" then
      if let some span := head.declared then report span (.numbered 1184)
      if head.access then reportHere (.numbered 1184)
      return (← staticBlock, none)
    memberModified { head with isStatic := some staticSpan }
  else memberModified head

/-- The members of a class up to the closing brace or the end of the text. -/
def members : Parse (List ClassMember) :=
  repeatUntil ([], false) fun (acc : List ClassMember × Bool) => do
    if (← at? "\x7d") || (← atEnd) then return .ok acc.1.reverse
    if ← eat ";" then return .error acc
    let (m, constructorSpan) ← member
    match constructorSpan with
    | some span =>
      if acc.2 && !(← read).ambient then report span .duplicateConstructor
      return .error (m :: acc.1, true)
    | none => return .error (m :: acc.1, acc.2)

/-! ## The head of a class -/

/-- What a class extends, with its type arguments. -/
def superclass : Parse (List Expr) := do
  let base ← parse .operand
  if (← read).typed && (← atOpenAngle) then return base :: (← typeArgs)
  return [base]

/-- The interfaces that a class implements. -/
def interfaces : Parse (List Expr) := do
  let parts ← delimited (at? "\x7b") do
    let base ← parse .operand
    let args ← if ← atOpenAngle then typeArgs else pure []
    return base :: args
  return parts.flatten

/-- A class behind its name: members and then what it extends and implements. -/
def classRest : Parse (List ClassMember × List Expr) := do
  let ctx ← read
  let types ← typeParams?
  let base ← if ← eatWord "extends" then superclass else pure []
  let mut extra : List Expr := []
  if ← atWord "extends" then
    reportHere (.numbered 1172)
    bump
    extra ← superclass
  if ← eatWordWhen ctx.typed "implements" then
    extra := extra ++ (← interfaces)
  expect "\x7b"
  let body ← within
    (fun c =>
      { c with
        inClass := true
        inDerivedClass := !base.isEmpty
        superAllowed := true
        inField := false
        inStaticBlock := false
        topLevel := false
        colonReserved := false })
    members
  if ← atEnd then reportHere (.expected "\x7d" (← current).shown)
  else expect "\x7d"
  -- the type parameters of the class follow its superclass, before the arguments of the latter
  return (body, base.take 1 ++ types ++ base.drop 1 ++ extra)

/-- A class declaration, from the word `class` on. -/
def classDeclaration : Parse (Name × List ClassMember × List Expr) := do
  expectWord "class"
  within (fun c => { c with strict := true }) do
    let name ← bindingName true
    let (body, heritage) ← classRest
    return (name, body, heritage)

/-- A class whose name may be missing, from the word `class` on. -/
def classValue (start : Nat) : Parse Expr := do
  expectWord "class"
  within (fun c => { c with strict := true }) do
    let isName := !((← atWord "implements") && (← read).typed)
    if isName then
      let _ ← bindingName? true
    let (body, heritage) ← classRest
    return .classValue (← spanFrom start) body heritage

end MapLint.Script
