import MapLint.Project.Path

/-!
# The files of a project

A `FileTree` is a directory with everything below it: files, directories and symbolic links. The
lint sees a project as such a tree and every path from the directory at its top, which is the working
directory; what lies outside is out of reach. So an absolute path leads nowhere, and what is proved of paths
here says nothing of them. A path is followed component by component, a link being replaced by its target, and
the outcome is a *location*: the names that lead down from the top without any link.

## Architecture

- `at?` reads a tree at a location and `put` changes it there;
- `advance` follows components up to the first link, `resolve` follows links too, at most
  `maxLinks` of them;
- `locate` and `locateEntry` find what a path stands for, behind a last link or as the link itself;
- `readText` and `writeText` are the two things done to files.
-/

namespace MapLint

/-- What a file holds: a text, or bytes that are none. -/
inductive Content where
  | text (chars : List Char)
  | bytes (raw : List UInt8)
deriving DecidableEq, Inhabited

/-- The content that a file's bytes make up. -/
def Content.ofBytes (raw : List UInt8) : Content :=
  match String.fromUTF8? raw.toByteArray with
  | some decoded => .text decoded.toList
  | none => .bytes raw

mutual

/-- A file, a link or a directory. -/
inductive FileTree where
  | file (content : Content)
  | dir (entries : List Entry)
  | link (target : Path)

/-- A name in a directory and what stands there. -/
inductive Entry where
  | mk (name : String) (tree : FileTree)

end

instance : Inhabited FileTree := ⟨.dir []⟩

namespace Entry

/-- The name of an entry. -/
def name : Entry → String
  | .mk name _ => name

/-- What stands under the name of an entry. -/
def tree : Entry → FileTree
  | .mk _ tree => tree

/-- Sets what stands under a name. -/
def set (entries : List Entry) (name : String) (tree : FileTree) : List Entry :=
  match entries with
  | [] => [.mk name tree]
  | e :: es => if e.name = name then .mk name tree :: es else e :: set es name tree

end Entry

/-- Why a path cannot be followed, or what it leads to cannot be read. -/
inductive AccessError where
  | notFound
  | notDirectory
  | isDirectory
  | tooManyLinks
  /-- The file is no text. -/
  | notText
deriving DecidableEq, Inhabited

/-- The wording of an access error. -/
def AccessError.message : AccessError → String
  | .notFound => "No such file or directory (os error 2)"
  | .notDirectory => "Not a directory (os error 20)"
  | .isDirectory => "Is a directory (os error 21)"
  | .tooManyLinks => "Too many levels of symbolic links (os error 40)"
  | .notText => "stream did not contain valid UTF-8"

namespace FileTree

/-- A directory with nothing in it. -/
def empty : FileTree := .dir []

/-- The entries of a directory; other trees have none. -/
def entries : FileTree → List Entry
  | .dir entries => entries
  | _ => []

/-- The tree is a directory. -/
def isDir : FileTree → Bool
  | .dir _ => true
  | _ => false

/-- What stands under a name in a directory. -/
def child? (tree : FileTree) (name : String) : Option FileTree :=
  (tree.entries.find? (·.name == name)).map Entry.tree

/-- What stands at a location. -/
def at? : FileTree → List String → Option FileTree
  | tree, [] => some tree
  | tree, name :: names =>
    match tree.child? name with
    | some child => child.at? names
    | none => none

/-- Puts a tree at a location, with the directories that lead there. -/
def put (tree : FileTree) : List String → FileTree → FileTree
  | [], new => new
  | name :: names, new =>
    .dir (Entry.set tree.entries name (((tree.child? name).getD empty).put names new))

/-! ## Following a path -/

/-- Where following components ends: at a location, or at a link in the directory `here`. -/
inductive Stop where
  | arrived (location : List String)
  | atLink (here : List String) (target : Path) (rest : List Component)

/-- Follows components from a location up to the end or the first link. An absolute path is not found, wherever
the tree stands in the file system. -/
def advance (top : FileTree) (here : List String) : List Component → Except AccessError Stop
  | [] => .ok (.arrived here)
  | .root :: _ => .error .notFound
  | .here :: rest => top.advance here rest
  | .up :: rest =>
    match top.at? here with
    | some (.dir _) => if here = [] then .error .notFound else top.advance here.dropLast rest
    | _ => .error .notDirectory
  | .name name :: rest =>
    match top.at? here with
    | some (.dir entries) =>
      match (FileTree.dir entries).child? name with
      | some (.link target) => .ok (.atLink here target rest)
      | some _ => top.advance (here ++ [name]) rest
      | none => .error .notFound
    | _ => .error .notDirectory

/-- Follows components and at most `n` links. -/
def resolve (top : FileTree) : (n : Nat) → List String → List Component →
    Except AccessError (List String)
  | n, here, components =>
    match top.advance here components with
    | .error e => .error e
    | .ok (.arrived location) => .ok location
    | .ok (.atLink here target rest) =>
      match n with
      | 0 => .error .tooManyLinks
      | n + 1 =>
        if target = "" then .error .notFound
        else top.resolve n here (target.components ++ rest)

/-- The number of links that are followed on the way of a path. -/
def maxLinks : Nat := 40

/-- A path whose spelling ends in a slash or a dot stands for a directory. -/
def namesDirectory (path : Path) : Bool :=
  match (Path.splitSlashes path.toList).getLast? with
  | some part => part = [] || part = ['.']
  | none => false

/-- The location that a path leads to, all links followed, and what stands there. -/
def locate (top : FileTree) (path : Path) : Except AccessError (List String × FileTree) :=
  if path = "" then .error .notFound
  else
    match top.resolve maxLinks [] path.components with
    | .error e => .error e
    | .ok location =>
      match top.at? location with
      | none => .error .notFound
      | some tree =>
        if namesDirectory path && !tree.isDir then .error .notDirectory else .ok (location, tree)

/-- What a path leads to when a link at its end is not followed. -/
def locateEntry (top : FileTree) (path : Path) : Except AccessError FileTree :=
  match path.components.getLast? with
  | some (.name name) =>
    if namesDirectory path then (top.locate path).map Prod.snd
    else
      match top.resolve maxLinks [] path.components.dropLast with
      | .error e => .error e
      | .ok location =>
        match top.at? location with
        | some (.dir entries) =>
          match (FileTree.dir entries).child? name with
          | some tree => .ok tree
          | none => .error .notFound
        | _ => .error .notDirectory
  | _ => (top.locate path).map Prod.snd

/-- A path leads to something. -/
def leadsSomewhere (top : FileTree) (path : Path) : Bool := (top.locate path).toBool

/-- A path leads to a directory. -/
def leadsToDir (top : FileTree) (path : Path) : Bool :=
  match top.locate path with
  | .ok (_, tree) => tree.isDir
  | .error _ => false

/-! ## Reading and writing -/

/-- The text of the file that a path leads to. -/
def readText (top : FileTree) (path : Path) : Except AccessError (List Char) :=
  match top.locate path with
  | .error e => .error e
  | .ok (_, .file (.text chars)) => .ok chars
  | .ok (_, .file (.bytes _)) => .error .notText
  | .ok _ => .error .isDirectory

/-- The location of the file that is written under a path: that of the file it leads to, or of a new
one in a directory that exists. At most `n` links at the end of the path are followed. -/
def writePlace? (top : FileTree) : (n : Nat) → List String → List Component → Option (List String)
  | n, here, components =>
    match components.getLast?, top.resolve maxLinks here components.dropLast with
    | some (.name name), .ok place =>
      match top.at? place with
      | some (.dir entries) =>
        match (FileTree.dir entries).child? name with
        | some (.link target) =>
          match n with
          | 0 => none
          | n + 1 => top.writePlace? n place target.components
        | some (.dir _) => none
        | _ => some (place ++ [name])
      | _ => none
    | _, _ => none

/-- Writes a text to a file; where there is no place for one, nothing changes. -/
def writeText (top : FileTree) (path : Path) (text : List Char) : FileTree :=
  match top.writePlace? maxLinks [] path.components with
  | some location => top.put location (.file (.text text))
  | none => top

mutual

/-- All files below a tree with their locations. -/
def filesAt (location : List String) : FileTree → List (List String × Content)
  | .file content => [(location, content)]
  | .dir entries => entriesAt location entries
  | .link _ => []

/-- All files below the entries of a directory. -/
def entriesAt (location : List String) : List Entry → List (List String × Content)
  | [] => []
  | .mk name tree :: rest => filesAt (location ++ [name]) tree ++ entriesAt location rest

end

/-- All files of a tree, links apart. -/
def files (tree : FileTree) : List (List String × Content) := filesAt [] tree

end FileTree

end MapLint
