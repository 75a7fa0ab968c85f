import MapLint.Script.Grammar.Statements

/-!
# Imports, exports and whole programs

The items at the top of a script. A program is a module when it imports or exports something, and
also when it uses `import.meta` or waits at its top; otherwise it is a plain script.
-/

namespace MapLint.Script

variable [Grammar]

/-! ## Imports -/

/-- The name of something imported or exported: a word or a string. -/
def externalName : Parse (Name × Bool) := do
  let s ← get
  match s.token with
  | .string value _ =>
    bump
    return (⟨value, s.span⟩, true)
  | .word text _ =>
    bump
    return (⟨text, s.span⟩, false)
  | _ => failUnexpected "identifier or string"

/-- The attributes of a module that is imported from, which are the entries of an object. -/
def importAttributes : Parse (List Property) := do
  if !(← afterLineBreak) && ((← atWord "with") || (← atWord "assert")) then
    if (← peek).token.isPunct "\x7b" then
      bump
      if let .object _ properties := ← objectLiteral then return properties
  return []

/-- The module that is imported from; the result is its attributes. -/
def moduleSource : Parse (List Property) := do
  unless (← current).isString do failUnexpected "a string literal"
  bump
  importAttributes

/-- The module that is imported from, behind the word `from`. -/
def fromModule : Parse (List Property) := do
  expectWord "from"
  let attributes ← moduleSource
  expectStatementEnd
  return attributes

/-- The name under which something is imported without renaming. -/
def importedName (name : Name) : Parse String := do
  if (← read).reserves name.text then failAt name.span .reservedImport
  return name.text

/-- An import of one name behind the word `type`, if that is what the word means. -/
def typeImport (word : Name) : Parse (Option String) := do
  unless (← read).typed && word.text == "type" && (← current).isAnyWord do return none
  let name ← propertyName
  if name.text != "as" then
    if ← eatWord "as" then return some (← bindingName false).text
    return some (← importedName name)
  unless (← current).isAnyWord do return some name.text
  let local_ ← bindingName false
  if local_.text == "as" && (← current).isAnyWord then return some (← bindingName false).text
  return some local_.text

/-- One name of an import between braces; the result is the name it has here. -/
def importSpecifier : Parse String := do
  let (name, isString) ← externalName
  if isString then
    unless ← eatWord "as" do failAt name.span (.importedStringName name.text)
    return (← bindingName false).text
  match ← typeImport name with
  | some name => return name
  | none =>
    if ← eatWord "as" then return (← bindingName false).text
    importedName name

/-- Names between braces, with commas between them. -/
def braced {α : Type} (specifier : Parse α) : Parse (List α) := do
  let names ← repeatUntil [] fun (acc : List α) => do
    if ← at? "\x7d" then return .ok acc.reverse
    let x ← specifier
    if ← at? "\x7d" then return .ok (x :: acc).reverse
    expect ","
    return .error (x :: acc)
  expect "\x7d"
  return names

/-- An import of a whole entity under another name, behind the equals sign. -/
def importEquals : Parse ModuleItem := do
  expect "="
  let next ← peek
  if (← atWord "require") && next.token.isPunct "(" then
    bump
    expect "("
    unless (← current).isString do failUnexpected "a string literal"
    bump
    expect ")"
  else entityName
  expectStatementEnd
  return .exportOther []

/-- The first name of an import. In the typed dialect the word `type` may stand before it. -/
def defaultImport : Parse (Option String) := do
  let name ← bindingName false
  unless (← read).typed && name.text == "type" do return some name.text
  if ← atOneOf ["*", "\x7b"] then return none
  unless ← atVariable do return some name.text
  let next ← peek
  if !(← atWord "from") || next.token.isWord "from" then return some (← bindingName false).text
  if next.token.isPunct "=" then return some (← propertyName).text
  return some name.text

/-- An import declaration. -/
def importItem : Parse ModuleItem := do
  bump
  if (← current).isString then
    let attributes ← moduleSource
    expectStatementEnd
    return .importing [] attributes
  let first ←
    if ← atVariable then
      match ← defaultImport with
      | some name => pure [name]
      | none => pure []
    else pure []
  if (← read).typed && !first.isEmpty && (← at? "=") then return ← importEquals
  unless first.isEmpty do
    unless ← atWord "from" do expect ","
  let more ←
    if ← eat "*" then do
      expectWord "as"
      pure [(← bindingName false).text]
    else if ← eat "\x7b" then braced importSpecifier
    else pure []
  let attributes ← fromModule
  return .importing (first ++ more) attributes

/-! ## Exports -/

/-- One name of an export between braces: the exported thing and whether it is given as a string. -/
def exportSpecifier : Parse (Name × Bool) := do
  let (name, isString) ← externalName
  let typeOnly := (← read).typed && !isString && name.text == "type" && (← current).isAnyWord
  if typeOnly then
    let (second, _) ← externalName
    if second.text == "as" && !(← current).isAnyWord && !(← current).isString then
      return (second, false)
    if second.text == "as" then
      let (third, _) ← externalName
      if third.text == "as" && (← current).isAnyWord then
        let _ ← externalName
        return (second, false)
      return (name, false)
    if ← eatWord "as" then
      let _ ← externalName
    return (second, false)
  if ← eatWord "as" then
    let _ ← externalName
  return (name, isString)

/-- An export of names between braces. -/
def exportNames : Parse ModuleItem := do
  expect "\x7b"
  let names ← braced exportSpecifier
  if ← atWord "from" then return .exportNames (← fromModule)
  for (name, isString) in names do
    if isString then report name.span .exportedStringName
    else if reservedWords.contains name.text then
      report name.span (.exportWithoutSource name.text)
  let _ ← eatStatementEnd
  return .exportNames []

/-- An export of everything. -/
def exportAll : Parse ModuleItem := do
  bump
  if ← eatWord "as" then
    let _ ← externalName
  return .exportNames (← fromModule)

/-- The default export, from behind the word `default`. -/
def exportDefaultRest : Parse ModuleItem := do
  let ctx ← read
  let start ← position
  let next ← peek
  if ctx.typed && (← atWord "abstract") && next.token.isWord "class" && !next.lineBreak then
    bump
    return .exportDefault (← classValue start)
  if ctx.typed && (← atWord "interface") && ctx.isVariable next.token then
    bump
    return .exporting (← interfaceRest)
  if ← atWord "class" then return .exportDefault (← classValue start)
  if ← atWord "function" then return .exportDefault (← functionValue start false false)
  if (← atWord "async") && next.token.isWord "function" && !next.lineBreak then
    bump
    return .exportDefault (← functionValue start true false)
  let e ← allowIn (parse .assign)
  expectStatementEnd
  return .exportDefault e

/-- The exports that only the typed dialect has. -/
def typedExport? : Parse (Option ModuleItem) := do
  unless (← read).typed do return none
  let next ← peek
  if (← atWord "declare") && !next.lineBreak then
    let before ← get
    bump
    match ← ambientDeclaration? with
    | some decl => return some (.exporting decl)
    | none => set before
  if (← atWord "const") && next.token.isWord "enum" then
    bump
    bump
    return some (.exporting (← enumRest))
  if ← atWord "enum" then
    bump
    return some (.exporting (← enumRest))
  match ← current with
  | .word text false =>
    if ["abstract", "interface", "type", "namespace", "module"].contains text then
      let before ← get
      bump
      match ← declarationBehind? text with
      | some decl => return some (.exporting decl)
      | none => set before
  | _ => pure ()
  if ← eatWord "import" then
    let _ ← eatWord "type"
    let _ ← propertyName
    return some (← importEquals)
  if ← eat "=" then
    let e ← allowIn (parse .expr)
    expectStatementEnd
    return some (.exportOther [e])
  if ← eatWord "as" then
    expectWord "namespace"
    let _ ← identifier false false
    expectStatementEnd
    return some (.exportOther [])
  return none

/-- An export declaration. -/
def exportItem : Parse ModuleItem := do
  bump
  if let some item ← typedExport? then return item
  let typeOnly ← if (← read).typed then eatWord "type" else pure false
  let next ← peek
  unless typeOnly do
    if ← eatWord "default" then return ← exportDefaultRest
    if ← atWord "class" then return .exporting (← classDecl)
    if (← atWord "async") && next.token.isWord "function" && !next.lineBreak then
      bump
      let (name, function, _) ← functionDeclaration true
      return .exporting (.function name.text function)
    if ← atWord "function" then
      let (name, function, _) ← functionDeclaration false
      return .exporting (.function name.text function)
    if (← atWord "var") || (← atWord "const") || ((← atWord "let") && next.token.followsLet) then
      let (kind, vars) ← declarators false
      return .exporting (.vars kind vars)
  if ← at? "*" then return ← exportAll
  exportNames

/-! ## Items -/

/-- An item at the top of a program or of a namespace. -/
def moduleItemProduction : Parse ModuleItem := do
  let next ← peek
  if (← atWord "import") && !next.token.isOneOf ["(", "."] then importItem
  else if ← atWord "export" then exportItem
  else return .stmt (← parse (.stmt true))

/-- Whether an item makes a program a module. -/
def ModuleItem.isModuleOnly : ModuleItem → Bool
  | .stmt _ => false
  | _ => true

/-- All items of a program. -/
def programItems : Parse (List ModuleItem) := do
  let strict ← atStrictDirective
  within (fun c => { c with strict := c.strict || strict }) (listUntil atEnd (parse .moduleItem))

end MapLint.Script
