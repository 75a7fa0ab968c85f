/-!
# Paths

A path is kept as it is spelled: `src/a.js` and `./src/a.js` are different paths to the same file,
and both spellings show in reports. What a path means is read off its components, where repeated
slashes and inner dots do not count.

## Architecture

- `Component` and `components` give the meaning of a path;
- `join`, `between` and `parent?` work on the spelling;
- `extension?` and `startsWith` ask about the components.
-/

namespace MapLint

/-- A path as it is spelled. -/
abbrev Path := String

/-- A step of a path. -/
inductive Component where
  /-- The slash at the start of an absolute path. -/
  | root
  /-- A dot at the start of a path. -/
  | here
  /-- Two dots. -/
  | up
  | name (text : String)
deriving DecidableEq, Inhabited

namespace Path

/-- Splits at every slash. -/
def splitSlashes : List Char → List (List Char)
  | [] => [[]]
  | c :: cs =>
    if c == '/' then [] :: splitSlashes cs
    else
      match splitSlashes cs with
      | part :: parts => (c :: part) :: parts
      | [] => [[c]]

/-- The component that stands between two slashes; an empty part and a dot are none. -/
def component? (part : List Char) : Option Component :=
  if part = [] || part = ['.'] then none
  else if part = ['.', '.'] then some .up
  else some (.name (String.ofList part))

/-- The components of a path. A dot counts only where the path begins with it. -/
def components (path : Path) : List Component :=
  match splitSlashes path.toList with
  | [] :: parts => if parts = [] then [] else .root :: parts.filterMap component?
  | ['.'] :: parts => .here :: parts.filterMap component?
  | parts => parts.filterMap component?

/-- The path begins with a slash. -/
def isAbsolute (path : Path) : Bool := path.toList.head? == some '/'

/-- The path `child` seen from `base`. -/
def join (base child : Path) : Path :=
  if isAbsolute child then child
  else if base = "" || base.toList.getLast? == some '/' then base ++ child
  else base ++ "/" ++ child

/-- Joins components to a path without dots and repeated slashes. -/
def ofNames (names : List String) : Path := "/".intercalate names

/-- How the place with the names `target` is reached from the directory with the names `base`. -/
def between : (base target : List String) → Path
  | b :: base, t :: target =>
    if b = t then between base target
    else ofNames ((b :: base).map (fun _ => "..") ++ t :: target)
  | base, target => ofNames (base.map (fun _ => "..") ++ target)

/-! ## The parent -/

/-- Drops the last part of a spelling and the slash before it, both written backwards. -/
def dropPart (reversed : List Char) : List Char := (reversed.dropWhile (· != '/')).drop 1

/-- Drops parts at the end, written backwards, that are no components. -/
def dropIdleParts : Nat → List Char → List Char
  | 0, reversed => reversed
  | n + 1, reversed =>
    let part := reversed.takeWhile (· != '/')
    if reversed ≠ [] && (part = [] || part = ['.']) then dropIdleParts n (dropPart reversed)
    else reversed

/-- The slash or the dot that begins a spelling and is a component of its own, and what follows. -/
def cutLead : List Char → List Char × List Char
  | '/' :: rest => (['/'], rest)
  | ['.'] => (['.'], [])
  | '.' :: '/' :: rest => (['.'], '/' :: rest)
  | cs => ([], cs)

/-- The path without its last component; a path without components has no parent. -/
def parent? (path : Path) : Option Path :=
  let (lead, body) := cutLead path.toList
  match dropIdleParts body.length body.reverse with
  | [] => if lead = ['.'] then some "" else none
  | reversed =>
    some (String.ofList (lead ++ (dropIdleParts body.length (dropPart reversed)).reverse))

/-! ## Questions about the components -/

/-- The names among the components of a path. -/
def names (path : Path) : List String :=
  (components path).filterMap fun
    | .name text => some text
    | _ => none

/-- The last component, if it is a name. -/
def fileName? (path : Path) : Option String :=
  match (components path).getLast? with
  | some (.name text) => some text
  | _ => none

/-- What stands behind the last dot of a file name, unless the name starts with that dot. -/
def extensionOf? (name : List Char) : Option String :=
  let reversed := name.reverse
  match reversed.dropWhile (· != '.') with
  | [] => none
  | [_] => none
  | _ => some (String.ofList (reversed.takeWhile (· != '.')).reverse)

/-- The extension of a path. -/
def extension? (path : Path) : Option String :=
  (fileName? path).bind fun name => extensionOf? name.toList

/-- The spelling of a path ends in the given text. -/
def endsIn (path : Path) (text : String) : Bool := text.toList.isSuffixOf path.toList

/-- `base` leads to `path` or to a directory around it, component by component. -/
def startsWith (path base : Path) : Bool := (components base).isPrefixOf (components path)

end Path

end MapLint
