import MapLint.Script.Grammar.Signature

/-!
# Elements

Elements written with tags. Between the tags the text is read by other rules, so what follows a
closing angle bracket or brace depends on whether it ends the outermost element. `markupProduction`
therefore stops on the last angle bracket and leaves it to its caller to move on.
-/

namespace MapLint.Script

variable [Grammar]

/-- The name of a tag; `none` for a fragment. -/
abbrev TagName := Option String

/-- A name in a tag, which may contain hyphens. -/
def markupName : Parse String := do
  let s ← get
  match s.token with
  | .word _ _ =>
    match scanMarkupName (s.here.rest.length + 1) s.here [] with
    | .error fault => throw fault
    | .ok name =>
      let text := String.ofList name.value
      respell ⟨.word text true, [], [], name.cursor⟩
      bump
      return text
  | _ => failUnexpected "jsx identifier"

/-- A name in a tag with a part behind a colon, if there is one. -/
def spacedMarkupName : Parse String := do
  let first ← markupName
  if ← eat ":" then return first ++ ":" ++ (← markupName)
  return first

/-- The name of an element. -/
def tagName : Parse String := do
  let first ← spacedMarkupName
  repeatUntil first fun (name : String) => do
    if ← eat "." then return .error (name ++ "." ++ (← markupName))
    return .ok name

/-! ## Attributes -/

/-- Moves from the equals sign to the value behind it, which is a string without escapes if it
starts with a quote. -/
def bumpToAttributeValue : Parse Unit := do
  let ctx ← read
  let r ← peek
  match r.here.rest with
  | quote :: rest =>
    if quote == '"' || quote == '\'' then
      match scanMarkupString quote rest (r.here.pos + 1) with
      | some after =>
        modify fun s => s.advance ctx
          { r with token := .string "" false, after, faults := [], strictFaults := [] }
      | none => failAt ⟨r.here.pos, r.here.pos⟩ .unterminatedString
    else bump
  | [] => bump

/-- The expression between braces, of which the first has been read. -/
def bracedExpr : Parse Expr := within (fun c => { c with colonReserved := false }) (allowIn (parse .expr))

/-- The value of an attribute. -/
def attributeValue : Parse (List Item) := do
  match ← current with
  | .string _ _ =>
    bump
    return []
  | .punct "\x7b" =>
    let start ← position
    bump
    if ← at? "\x7d" then
      bump
      report (← spanFrom start) .emptyMarkupAttribute
      return []
    let value ← bracedExpr
    expect "\x7d"
    return [.plain value]
  | .punct "<" =>
    let element ← parse .markup
    bump
    element.check
    return element.parts
  | _ => failHere .markupValueExpected

/-- An attribute. -/
def tagAttribute : Parse (List Item) := do
  let start ← position
  if ← eat "\x7b" then
    let spreadStart ← position
    expect "..."
    let value ← allowIn (parse .assign)
    expect "\x7d"
    return [.spread (min start spreadStart) value]
  let _ ← spacedMarkupName
  if ← at? "=" then
    bumpToAttributeValue
    attributeValue
  else return []

/-! ## Elements -/

/-- Stops unless the current token is, or is cut down to, a closing angle bracket. -/
def requireCloseAngle : Parse Unit := do
  unless ← atCloseAngle do failHere (.expected ">" (← current).shown)

/-- Moves on to what follows inside an element. -/
def bumpToChild : Parse Unit := do bumpTo (readMarkupChild (← get).after)

/-- The closing tag of an element, up to its closing angle bracket: a fault if its name is not that
of the opening tag. -/
def closingTag (opening : TagName) : Parse (Option Fault) := do
  match opening with
  | none =>
    requireCloseAngle
    return none
  | some name =>
    let start ← position
    let closing ← tagName
    let span ← spanFrom start
    requireCloseAngle
    return if closing == name then none else some ⟨span, .closingTagExpected name⟩

/-- What stands between the opening and the closing tag, and what is wrong with the latter. -/
def children (opening : TagName) : Parse (List Item × Option Fault) :=
  repeatUntil [] fun (acc : List Item) => do
    match ← current with
    | .punct "</" =>
      bump
      let mismatch ← closingTag opening
      return .ok (acc, mismatch)
    | .punct "<" =>
      let element ← parse .markup
      bumpToChild
      element.check
      return .error (acc ++ element.parts)
    | .markupText =>
      bumpToChild
      return .error acc
    | .punct "\x7b" =>
      bump
      let start ← position
      let parts ←
        if ← at? "\x7d" then pure []
        else if ← eat "..." then do pure [Item.spread start (← bracedExpr)]
        else do pure [Item.plain (← bracedExpr)]
      unless ← at? "\x7d" do failHere (.expected "\x7d" (← current).shown)
      bumpToChild
      return .error (acc ++ parts)
    | t => failHere (.expected "</" t.shown)

/-- An element, from its first angle bracket to its last, which is not yet skipped. -/
def markupProduction : Parse Element := do
  let start ← position
  expect "<"
  let finish (attributes : List Item) (name : TagName) : Parse Element := do
    bumpToChild
    let (parts, mismatch) ← children name
    return ⟨⟨start, (← get).span.stop⟩, attributes ++ parts, mismatch⟩
  if ← atCloseAngle then finish [] none
  else
    let name ← tagName
    let types ← if (← read).typed && (← at? "<") then typeArgs else pure []
    let attributes ← repeatUntil [] fun (acc : List Item) => do
      if (← at? "/") || (← atCloseAngle) then return .ok acc
      return .error (acc ++ (← tagAttribute))
    let attributes := attributes ++ types.map (Item.spread start)
    if ← eat "/" then
      requireCloseAngle
      return ⟨⟨start, (← get).span.stop⟩, attributes, none⟩
    finish attributes (some name)

end MapLint.Script
