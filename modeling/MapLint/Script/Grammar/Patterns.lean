import MapLint.Script.Grammar.Signature

/-!
# Patterns

A declaration is read as a pattern from the start. The left side of an assignment and the parameters
of an arrow are read as expressions first, since only what follows tells what they are; `asPattern`
then reads the expression again as a pattern.

## Architecture

- `patternProduction`: names, arrays and objects that bind;
- `isSimpleTarget` and `checkTarget`: what may be assigned to as a whole;
- `asPattern`, for each `PatternRole`: assigned as a whole, assigned as a part, or bound.
-/

namespace MapLint.Script

variable [Grammar]

/-! ## Patterns that bind -/

/-- A pattern with an optional default. -/
def patternElement : Parse Pattern := do
  let start ← position
  let inner ← parse (.pattern false)
  if ← eat "=" then
    let value ← allowIn (parse .assign)
    if (← read).ambient then report (← spanFrom start) (.numbered 2371)
    return .withDefault (← spanFrom start) inner value
  return inner

/-- The elements of an array pattern, from its bracket on. -/
def arrayPattern : Parse Pattern := do
  let start ← position
  expect "["
  let elements ← repeatUntil ([], none) fun (acc : List Pattern × Option Span) => do
    if (← at? "]") || (← atEnd) then return .ok acc.1.reverse
    if ← eat "," then return .error acc
    if let some span := acc.2 then report span .restNotLast
    let elementStart ← position
    if ← eat "..." then
      let inner ← parse (.pattern false)
      let span ← spanFrom elementStart
      unless ← at? "]" do
        expect ","
        if ← at? "]" then report (← spanFrom ((← get).previousStop - 1)) .commaAfterRest
      return .error (.rest span inner [] :: acc.1, some span)
    let element ← patternElement
    unless ← at? "]" do expect ","
    return .error (element :: acc.1, acc.2)
  expect "]"
  if (← read).ambient then let _ ← eat "?"
  return .array (← spanFrom start) elements []

/-- A field of an object pattern with its span. -/
def patternField : Parse (Field × Span) := do
  let start ← position
  if ← eat "..." then
    let inner ← parse (.pattern false)
    return (.rest inner, ← spanFrom start)
  let key ← propertyKey
  if ← eat ":" then
    let value ← patternElement
    return (.keyed key.computed? value, ← spanFrom start)
  match key with
  | .word name =>
    if ← eat "=" then
      let value ← allowIn (parse .assign)
      return (.shorthand name.text [] (some value), ← spanFrom start)
    if (← read).reserves name.text then report name.span .reservedShorthand
    return (.shorthand name.text [] none, name.span)
  | _ => failUnexpected "an identifier"

/-- Whether a field is a rest element, and whether a plain name follows its dots. -/
def Field.restOfName? : Field → Option Bool
  | .rest (.ident _ _ _) => some true
  | .rest _ => some false
  | _ => none

/-- The fields of an object pattern, from its brace on. -/
def objectPattern : Parse Pattern := do
  let start ← position
  expect "\x7b"
  let (fields, comma) ← repeatUntil ([], none)
    fun (acc : List (Field × Span) × Option Span) => do
      if ← eat "\x7d" then return .ok (acc.1.reverse, acc.2)
      let field ← patternField
      if ← at? "\x7d" then return .error (field :: acc.1, none)
      expect ","
      let comma ← spanFrom ((← get).previousStop - 1)
      return .error (field :: acc.1, some comma)
  for (field, span) in fields.dropLast do
    if (field.restOfName?).isSome then report span .restNotLast
  if let some (field, span) := fields.getLast? then
    match field.restOfName? with
    | some true => if let some comma := comma then report comma .commaAfterRest
    | some false => failAt span .dotsWithoutName
    | none => pure ()
  if (← read).ambient then let _ ← eat "?"
  return .object (← spanFrom start) (fields.map (·.1)) []

/-- A pattern that binds names. -/
def patternProduction (letRefused : Bool) : Parse Pattern := do
  match ← current with
  | .word _ _ =>
    let name ← bindingName letRefused
    return .ident name.span name.text []
  | .punct "[" => arrayPattern
  | .punct "\x7b" => objectPattern
  | _ => failUnexpected "yield, an identifier, [ or \x7b"

/-! ## Targets of an assignment -/

/-- Whether an expression can be assigned to as a whole. -/
def isSimpleTarget (strict : Bool) : Expr → Bool
  | .ident _ name => !(strict && bindsBadlyInStrict name)
  | .member _ object _ _ => memberTarget object
  | .compound _ .computedMember (object :: _) _ _ => memberTarget object
  | .compound _ .superMember _ _ _ => true
  | .paren _ inner => isSimpleTarget strict inner
  | .typed _ inner _ => isSimpleTarget strict inner
  | _ => false
where
  /-- A member is no target when an optional chain stands before it. -/
  memberTarget : Expr → Bool
    | .compound _ .optionalChain _ _ _ => false
    | .member _ object _ _ => memberTarget object
    | .compound _ .computedMember (object :: _) _ _ => memberTarget object
    | _ => true

/-- Whether a bad target is reported on the spot; the others are found later. -/
def refusesTarget : Expr → Bool
  | .literal _ _ => false
  | .compound _ (.binary _) _ _ _ => false
  | .paren _ inner => refusesTarget inner
  | _ => true

/-- Reports an expression that cannot be assigned to. -/
def checkTarget (e : Expr) : Parse Unit := do
  unless isSimpleTarget (← read).strict e do
    if refusesTarget e then report e.span (.numbered 2406)

/-! ## Expressions read again as patterns -/

/-- The role in which an expression is read again. -/
inductive PatternRole where
  /-- The whole left side of an assignment. -/
  | target
  /-- A part of the left side of an assignment. -/
  | targetPart
  /-- A parameter of an arrow. -/
  | param
  /-- A part of such a parameter. -/
  | paramPart
deriving DecidableEq

/-- The role of the parts of a pattern. -/
def PatternRole.part : PatternRole → PatternRole
  | .target | .targetPart => .targetPart
  | .param | .paramPart => .paramPart

/-- Notes that something is not a pattern. -/
def invalidPattern (span : Span) : Parse Pattern := do
  report span .invalidPattern
  return .invalid span

/-- Whether an expression is an assignment. -/
def Expr.isAssign : Expr → Bool
  | .assign _ _ _ _ => true
  | _ => false

/-- Whether the part of a left side can stand there as it is. -/
def Expr.isPlacePart : Expr → Bool
  | .member _ _ _ _ | .call _ _ _ _ | .literal _ _ | .ident _ _ | .function _ _ _
  | .classValue _ _ _ | .paren _ _ | .typed _ _ _ => true
  | .compound _ form _ _ _ =>
    form = .computedMember || form = .superMember || form = .specialCall ||
      form = .construction || form = .template
  | _ => false

/-- A variable or another place. -/
def Expr.asPlace : Expr → Pattern
  | .ident s name => .ident s name []
  | e => .place e

mutual

/-- Reads an expression again as a pattern. -/
def asPattern (role : PatternRole) : Expr → Parse Pattern
  | .array span items =>
    asArrayPattern role span (items.length - trailingHoles items) (trailingHoles items == 0) [] items
  | .object span properties => asObjectPattern role span [] properties
  | .assign span true target value =>
    match role with
    | .target => do
      checkTarget (.assign span true target value)
      return .place (.assign span true target value)
    | _ => do return .withDefault span (← retarget role target) value
  | e => asLeaf role e
where
  /-- The number of elements left out at the end. -/
  trailingHoles (items : List Item) : Nat :=
    (items.reverse.takeWhile fun | .hole => true | _ => false).length
  /-- The left side of a default inside a pattern that is bound must itself be bindable. -/
  retarget (role : PatternRole) (target : Pattern) : Parse Pattern :=
    match target with
    | .place e => asLeaf role e
    | p => pure p
  /-- An expression that holds no pattern. -/
  asLeaf (role : PatternRole) (e : Expr) : Parse Pattern :=
    match role, e with
    | _, .compound s .invalid _ _ _ => pure (.invalid s)
    | .target, e => do
      checkTarget e
      return e.asPlace
    | .targetPart, e => do
      if e.isPlacePart then
        unless isSimpleTarget (← read).strict e do report e.span .notSimpleTarget
        return e.asPlace
      invalidPattern e.span
    | _, .ident s name => pure (.ident s name [])
    | _, e => invalidPattern e.span

/-- Reads the elements of an array again. `count` counts those up to the last that is not left out,
which alone may be a rest element, and only where `lastMaySpread` holds. -/
def asArrayPattern (role : PatternRole) (span : Span) (count : Nat) (lastMaySpread : Bool)
    (done : List Pattern) : List Item → Parse Pattern
  | [] => return .array span done.reverse []
  | .hole :: items => asArrayPattern role span (count - 1) lastMaySpread done items
  | .plain e :: items => do
    let p ← asPattern role.part e
    asArrayPattern role span (count - 1) lastMaySpread (p :: done) items
  | .spread start e :: items => do
    if lastMaySpread && count == 1 then
      if e.isAssign then report ⟨start, e.span.stop⟩ (.numbered 1048)
      if let some comma := (← get).trailingCommas.lookup span.start then
        report comma .commaAfterRest
      let p ← asPattern role.part e
      asArrayPattern role span (count - 1) lastMaySpread
        (.rest ⟨start, e.span.stop⟩ p [] :: done) items
    else
      report ⟨start, e.span.stop⟩ .restNotLast
      asArrayPattern role span (count - 1) lastMaySpread done items

/-- Reads the entries of an object again. -/
def asObjectPattern (role : PatternRole) (span : Span) (done : List Field) :
    List Property → Parse Pattern
  | [] => return .object span done.reverse []
  | .shorthand _ name default :: ps =>
    asObjectPattern role span (.shorthand name [] default :: done) ps
  | .keyed _ key value :: ps => do
    let p ← asPattern role.part value
    asObjectPattern role span (.keyed key p :: done) ps
  | .spread s value :: ps => do
    if ps.isEmpty then
      if let some comma := (← get).trailingCommas.lookup span.start then
        report comma .commaAfterRest
    else report s .restNotLast
    let p ←
      if role.part = .paramPart then
        match value with
        | .ident vs name => pure (.ident vs name [])
        | _ => do
          report s .dotsWithoutName
          pure (.invalid s)
      else asPattern role.part value
    if p.hasDefault then report s (.numbered 1048)
    asObjectPattern role span (.rest p :: done) ps
  | p :: _ => failAt p.span .invalidPattern

end

/-- Whether a pattern can be the left side of an assignment. -/
def Pattern.isTarget : Pattern → Bool
  | .place e => placeIsTarget e
  | .withDefault _ _ _ | .rest _ _ _ => false
  | _ => true
where
  /-- Members, and what is put in parentheses or annotated. -/
  placeIsTarget : Expr → Bool
    | .member _ _ _ _ | .paren _ _ | .typed _ _ _ | .ident _ _ => true
    | .compound _ form _ _ _ =>
      form = .computedMember || form = .superMember || form = .optionalChain ||
        form = .instantiation || form = .invalid
    | _ => false

/-- Names that strict code must not bind, wherever they stand in a parameter. -/
def checkStrictParam (p : Pattern) : Parse Unit := do
  match p with
  | .ident s name _ =>
    if bindsBadlyInStrict name then reportStrict s .evalOrArgumentsInStrict
  | _ => pure ()

end MapLint.Script
