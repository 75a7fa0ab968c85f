import MapLint.Project.FileTree

/-!
# Wildcard patterns

A pattern is a text in which `?` stands for any character, `*` for any text, `**` as a whole
component of a path for any number of directories, and brackets for one character of a set. A
pattern matches whole texts, and `?` and `*` match slashes too.

## Architecture

- `Glob.parse` reads a pattern, `GlobError` says where it is wrong;
- `Glob.isMatch` matches a text;
- `Glob.expand` lists the paths of a project that match, component by component.
-/

namespace MapLint

/-- One entry of a set of characters. -/
inductive CharClass where
  | single (c : Char)
  | range (first last : Char)
deriving DecidableEq, Inhabited

/-- A character is in a class. -/
def CharClass.contains (c : Char) : CharClass → Bool
  | .single d => c == d
  | .range first last => first.toNat ≤ c.toNat && c.toNat ≤ last.toNat

/-- One element of a pattern. -/
inductive GlobToken where
  | literal (c : Char)
  /-- A question mark. -/
  | anyChar
  /-- One star. -/
  | anyText
  /-- Two stars. -/
  | anyDirectories
  | within (classes : List CharClass)
  | except (classes : List CharClass)
deriving DecidableEq, Inhabited

/-- A token that stands for one character stands for this one. -/
def GlobToken.accepts (c : Char) : GlobToken → Bool
  | .literal d => c == d
  | .anyChar => true
  | .within classes => classes.any (·.contains c)
  | .except classes => !classes.any (·.contains c)
  | .anyText => false
  | .anyDirectories => false

/-- The character of a token that stands for itself. -/
def GlobToken.literal? : GlobToken → Option Char
  | .literal c => some c
  | _ => none

/-- What can be wrong with a pattern. -/
inductive GlobFault where
  /-- Brackets that are not closed or hold nothing. -/
  | badRange
  /-- Two stars that are not a whole component. -/
  | badRecursion
  /-- More than two stars. -/
  | tooManyStars
deriving DecidableEq, Inhabited

/-- A fault and the character at which it was noticed. -/
structure GlobError where
  position : Nat
  fault : GlobFault
deriving DecidableEq, Inhabited

/-- The wording of an error. -/
def GlobError.message (e : GlobError) : String :=
  "Pattern syntax error near position " ++ toString e.position ++ ": " ++
    match e.fault with
    | .badRange => "invalid range pattern"
    | .badRecursion => "recursive wildcards must form a single path component"
    | .tooManyStars => "wildcards are either regular \x60*\x60 or recursive \x60**\x60"

/-- A pattern. -/
structure Glob where
  tokens : List GlobToken
deriving DecidableEq, Inhabited

namespace Glob

/-! ## Reading a pattern -/

/-- The classes written between brackets. -/
def classesOf : List Char → List CharClass
  | first :: '-' :: last :: rest => .range first last :: classesOf rest
  | c :: rest => .single c :: classesOf rest
  | [] => []

/-- The token of a bracket, read behind the opening one, with the number of characters it takes
there. The first character of the set may be a closing bracket. -/
def bracket? : List Char → Option (GlobToken × Nat)
  | '!' :: first :: rest =>
    if rest.contains ']' then
      let more := rest.takeWhile (· != ']')
      some (.except (classesOf (first :: more)), more.length + 3)
    else none
  | first :: rest =>
    if first != '!' && rest.contains ']' then
      let more := rest.takeWhile (· != ']')
      some (.within (classesOf (first :: more)), more.length + 2)
    else none
  | [] => none

/-- The tokens of a pattern from a position on. The first `skip` characters belong to a token that
was read before, and `previous` is the character before the position. -/
def tokensFrom (position : Nat) (previous : Option Char) :
    (skip : Nat) → List Char → Except GlobError (List GlobToken)
  | _, [] => .ok []
  | skip + 1, c :: cs => tokensFrom (position + 1) (some c) skip cs
  | 0, c :: cs =>
    let then_ (token : GlobToken) (skip : Nat) :=
      (tokensFrom (position + 1) (some c) skip cs).map (token :: ·)
    if c == '?' then then_ .anyChar 0
    else if c == '*' then
      match (cs.takeWhile (· == '*')).length with
      | 0 => then_ .anyText 0
      | 1 =>
        if previous.all (· == '/') then
          match cs.drop 1 with
          | [] => then_ .anyDirectories 1
          | '/' :: _ => then_ .anyDirectories 2
          | _ => .error ⟨position + 2, .badRecursion⟩
        else .error ⟨position - 1, .badRecursion⟩
      | _ => .error ⟨position + 2, .tooManyStars⟩
    else if c == '[' then
      match bracket? cs with
      | some (token, taken) => then_ token taken
      | none => .error ⟨position, .badRange⟩
    else then_ (.literal c) 0

/-- Reads a pattern. -/
def parse (text : String) : Except GlobError Glob :=
  (tokensFrom 0 none 0 text.toList).map Glob.mk

/-- A text that is taken for a pattern and not for a plain path. -/
def isPattern (text : String) : Bool := text.toList.any fun c => c == '*' || c == '?'

/-! ## Matching a text -/

/-- Some suffix has the property. -/
def anySuffix (p : List Char → Bool) : List Char → Bool
  | [] => p []
  | c :: cs => p (c :: cs) || anySuffix p cs

/-- Some suffix behind a slash, or the empty one, has the property. -/
def anyLaterComponent (p : List Char → Bool) : List Char → Bool
  | [] => p []
  | c :: cs => (c == '/' && p cs) || anyLaterComponent p cs

/-- The tokens match a whole text. -/
def matchTokens : List GlobToken → List Char → Bool
  | [], text => text.isEmpty
  | .anyText :: tokens, text => anySuffix (matchTokens tokens) text
  | .anyDirectories :: tokens, text =>
    matchTokens tokens text || anyLaterComponent (matchTokens tokens) text
  | token :: tokens, c :: text => token.accepts c && matchTokens tokens text
  | _ :: _, [] => false

/-- The pattern matches a whole text. -/
def isMatch (glob : Glob) (text : String) : Bool := matchTokens glob.tokens text.toList

/-! ## Expanding a pattern -/

/-- The pattern has a component of two stars. -/
def isRecursive (glob : Glob) : Bool := glob.tokens.contains .anyDirectories

/-- The text of a pattern without wildcards. -/
def literal? (glob : Glob) : Option String :=
  (glob.tokens.mapM GlobToken.literal?).map String.ofList

/-- The patterns of the components of a pattern. A slash at the end starts no component. -/
def componentGlobs (text : String) : Except GlobError (List Glob) :=
  let parts := Path.splitSlashes text.toList
  let parts := if parts.getLast? = some [] then parts.dropLast else parts
  parts.mapM fun part => parse (String.ofList part)

/-- Drops recursive patterns that are followed by another one. -/
def collapseRecursive : List Glob → List Glob
  | g :: h :: rest =>
    if g.isRecursive && h.isRecursive then collapseRecursive (h :: rest) else g :: h :: rest
  | globs => globs

/-- The path of an entry of the directory at `path`; at the top of the project it is only named. -/
def childPath (path : Path) (name : String) : Path :=
  if path.components = [.here] then name else path.join name

mutual

/-- The paths below `path` whose components match the patterns one by one. A pattern without
wildcards is looked up, any other is compared with the entries of the directory. The first argument
bounds the depth, and `dirsOnly` asks for directories. -/
def expandBelow (top : FileTree) (dirsOnly : Bool) : Nat → List Glob → Path → List Path
  | 0, _, _ => []
  | _ + 1, [], _ => []
  | depth + 1, glob :: globs, path =>
    let found (next : Path) : List Path :=
      if globs.isEmpty then (if dirsOnly && !top.leadsToDir next then [] else [next])
      else expandBelow top dirsOnly depth globs next
    match glob.literal? with
    | some text =>
      let next := childPath path text
      let exists_ :=
        if text = "." || text = ".." then top.leadsToDir path
        else top.leadsSomewhere next || (top.locateEntry next).toBool
      if exists_ then found next else []
    | none =>
      match top.locate path with
      | .ok (_, .dir entries) =>
        let listed := entries.flatMap fun entry =>
          expandAt top dirsOnly depth (glob :: globs) (childPath path entry.name) entry.name
        let dots :=
          if glob.tokens.head? = some (.literal '.') then
            [".", ".."].flatMap fun name =>
              if glob.isMatch name then found (path.join name) else []
          else []
        listed ++ dots
      | _ => []

/-- The paths at and below an entry that match, the first pattern being the one for the entry. A
recursive pattern also stands for the directories below the entry, and for nothing. -/
def expandAt (top : FileTree) (dirsOnly : Bool) : Nat → List Glob → Path → String → List Path
  | 0, _, _, _ => []
  | depth + 1, globs, path, name =>
    let here : List Glob → List Path
      | [] => []
      | glob :: rest =>
        if glob.isMatch name then
          if rest.isEmpty then (if dirsOnly && !top.leadsToDir path then [] else [path])
          else expandBelow top dirsOnly depth rest path
        else []
    match collapseRecursive globs with
    | [] => []
    | glob :: rest =>
      if glob.isRecursive then
        if top.leadsToDir path then
          expandBelow top dirsOnly depth (glob :: rest) path ++
            (if rest.isEmpty then [path] else here rest)
        else here rest
      else here (glob :: rest)

end

/-- No path of a project has more components. -/
def maxDepth : Nat := 4096

/-- The paths of a project that match a pattern. A leading dot is dropped from them. They are those seen from the
working directory: an absolute pattern has none. -/
def expand (top : FileTree) (text : String) : Except GlobError (List Path) := do
  let _ ← parse text
  let globs ← componentGlobs text
  return expandBelow top (text.toList.getLast? == some '/') maxDepth globs "."

end Glob

end MapLint
