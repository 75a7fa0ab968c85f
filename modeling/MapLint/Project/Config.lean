import MapLint.Json.Reader
import MapLint.Lint.Evidence
import MapLint.Project.Glob

/-!
# The configuration of a project

A configuration says which files are looked at and how bold the lint is. It is written in JSON: as
an object whose unknown fields do not count, or as a list of the field values in order. It is found
by walking up from a directory.

## Architecture

- `Config` with its defaults, `Config.decode` and `Config.encode`;
- `Config.validate` refuses patterns that cannot be read;
- `searchConfig` walks up from a directory to the nearest file; `findConfig` does so in a tree of files,
  and `loadConfig` reads what it finds.
-/

namespace MapLint

open MapLint.Lint (Strictness)

/-- What can be configured. -/
structure Config where
  /-- Directories, files or patterns to look at; the whole project when there are none. -/
  includes : List String
  /-- Paths or patterns to leave out. -/
  ignores : List String
  /-- Files of tests are left out too. -/
  ignoreTestFiles : Bool
  strictness : Strictness
deriving DecidableEq, Inhabited

namespace Config

/-- What is left out unless a configuration says otherwise. -/
def defaultIgnores : List String := ["**/node_modules/**", "**/dist/**", "**/build/**"]

/-- The configuration of a project that has none. -/
def default : Config := ⟨[], defaultIgnores, false, .strict⟩

/-! ## Reading and writing -/

/-- The fields of a configuration that were read so far. -/
structure Fields where
  includes : Option (List String) := none
  ignores : Option (List String) := none
  ignoreTestFiles : Option Bool := none
  strictness : Option Strictness := none

/-- The configuration with the given fields; fields that are missing have their default. -/
def Fields.complete (f : Fields) : Config :=
  { includes := f.includes.getD default.includes
    ignores := f.ignores.getD default.ignores
    ignoreTestFiles := f.ignoreTestFiles.getD default.ignoreTestFiles
    strictness := f.strictness.getD default.strictness }

open Json Json.Reader

/-- A strictness. -/
def readStrictness : Reader Strictness := do
  let word ← oneOf [Strictness.strict.word, Strictness.loose.word]
  return if word = Strictness.loose.word then .loose else .strict

/-- Reads a field unless it was read before. -/
def fresh {α : Type} (name : String) (known : Option α) (value : Reader α) : Reader α := do
  match known with
  | none => do colon; value
  | some _ => do
    if (← peekPastGap) == some '\x7d' then eat
    failHere (.repeatedField name)

/-- Reads the fields of an object and its end, from a field on. -/
def readFields (first : Bool) (fields : Fields) : Nat → Reader Fields
  | 0 => failHere .objectNotClosed
  | n + 1 => do
    if ← hasField first then
      eat
      match ← readString with
      | "includes" =>
        let v ← fresh "includes" fields.includes strings
        readFields false { fields with includes := some v } n
      | "ignores" =>
        let v ← fresh "ignores" fields.ignores strings
        readFields false { fields with ignores := some v } n
      | "ignoreTestFiles" =>
        let v ← fresh "ignoreTestFiles" fields.ignoreTestFiles boolean
        readFields false { fields with ignoreTestFiles := some v } n
      | "strictness" =>
        let v ← fresh "strictness" fields.strictness readStrictness
        readFields false { fields with strictness := some v } n
      | _ => do
        colon
        skipValue
        readFields false fields n
    else
      eat
      return fields

/-- Reads an element of a list, if there is one. -/
def element? {α : Type} (first : Bool) (value : Reader α) : Reader (Option α) := do
  if ← hasElement first then return some (← value) else return none

/-- Reads the values of a list in the order of the fields. -/
def readPositions : Reader Fields := do
  let includes ← element? true strings
  let ignores ← element? includes.isNone strings
  let ignoreTestFiles ← element? ignores.isNone boolean
  let strictness ← element? ignoreTestFiles.isNone readStrictness
  listEnd
  return ⟨includes, ignores, ignoreTestFiles, strictness⟩

/-- Reads a whole text. -/
def readConfig : Reader Config := do
  let fields ← match ← valueStart with
    | '[' => do eat; readPositions
    | '\x7b' => do eat; readFields true {} ((← remaining) + 1)
    | _ => wrongKind "struct Config"
  endOfText
  return fields.complete

/-- The configuration that a text describes. -/
def decode (text : List Char) : Except Json.Error Config :=
  (readConfig ⟨text, 1, 0⟩).map Prod.fst

/-- A list of strings, one on a line. -/
def encodeStrings : List String → String
  | [] => "[]"
  | items => "[\n" ++ ",\n".intercalate (items.map fun s => "    " ++ Json.quote s) ++ "\n  ]"

/-- A configuration as it is written to a file. -/
def encode (c : Config) : String :=
  "\x7b\n  \"includes\": " ++ encodeStrings c.includes ++
  ",\n  \"ignores\": " ++ encodeStrings c.ignores ++
  ",\n  \"ignoreTestFiles\": " ++ (if c.ignoreTestFiles then "true" else "false") ++
  ",\n  \"strictness\": " ++ Json.quote c.strictness.word ++ "\n\x7d"

end Config

/-! ## Validating -/

/-- Why a configuration cannot be used. -/
inductive ConfigError where
  | unreadable (path : Path) (error : AccessError)
  | malformed (path : Path) (error : Json.Error)
  | badPattern (field pattern : String) (error : GlobError)
deriving DecidableEq, Inhabited

/-- The wording of an error. -/
def ConfigError.message : ConfigError → String
  | .unreadable path error =>
    "Failed to read config file: " ++ quoteString path ++ ": " ++ error.message
  | .malformed path error =>
    "Failed to parse config file: " ++ quoteString path ++ ": " ++ error.message
  | .badPattern field pattern error =>
    "Invalid glob pattern in '" ++ field ++ "': \"" ++ pattern ++ "\": " ++ error.message

namespace Config

/-- The first pattern of a field that cannot be read. -/
def badPattern? (field : String) : List String → Option ConfigError
  | [] => none
  | pattern :: patterns =>
    match Glob.parse pattern with
    | .ok _ => badPattern? field patterns
    | .error e => some (.badPattern field pattern e)

/-- Refuses a configuration with a pattern that cannot be read. What is to be looked at may also be
a plain path, which need not be a pattern. -/
def validate (c : Config) : Except ConfigError Unit :=
  match badPattern? "ignores" c.ignores with
  | some e => .error e
  | none =>
    match badPattern? "includes" (c.includes.filter Glob.isPattern) with
    | some e => .error e
    | none => .ok ()

end Config

/-! ## Finding -/

/-- The name of the file that holds a configuration. -/
def configFileName : String := ".nativemaprc.json"

/-- The directories above a directory, itself first; the first argument bounds their number. -/
def ancestors : Nat → Path → List Path
  | 0, path => [path]
  | n + 1, path =>
    match path.parent? with
    | some parent => path :: ancestors n parent
    | none => [path]

/-- The first directory in a chain that holds a configuration; `there` tells which paths exist. Behind
the root of a repository the search ends. -/
def firstConfig (there : Path → Bool) : List Path → Option Path
  | [] => none
  | dir :: dirs =>
    if there (dir.join configFileName) then some (dir.join configFileName)
    else if there (dir.join ".git") then none
    else firstConfig there dirs

/-- The configuration file that is found from a directory upwards. -/
def searchConfig (there : Path → Bool) (start : Path) : Option Path :=
  firstConfig there (ancestors start.length start)

/-- The configuration file that counts for a directory. -/
def findConfig (top : FileTree) (start : Path) : Option Path := searchConfig top.leadsSomewhere start

/-- A configuration and the file it came from. -/
structure LoadedConfig where
  config : Config
  path : Option Path
deriving DecidableEq, Inhabited

/-- The configuration that counts for a directory. -/
def loadConfig (top : FileTree) (start : Path) : Except ConfigError LoadedConfig :=
  match findConfig top start with
  | none => .ok ⟨Config.default, none⟩
  | some path =>
    match top.readText path with
    | .error e => .error (.unreadable path e)
    | .ok text =>
      match Config.decode text with
      | .error e => .error (.malformed path e)
      | .ok config =>
        match config.validate with
        | .error e => .error e
        | .ok () => .ok ⟨config, some path⟩

end MapLint
