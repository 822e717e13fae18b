/-!
# Files and directories

A file tree says what stands at a location, and changes nothing: all that rendering needs of files
is to read them.

* `Location` — the names from the root of the tree to a file or directory.
* `FileTree` — what stands at each location.
* `checkPath` — refuses a path that no system call takes.
* `Location.resolve` — the location that a path means, by its names alone.
* `FileTree.open?` — what a path leads to, going from directory to directory.
-/

namespace SafeMarkup

/-- The names from the root of a tree to a file or directory. -/
abbrev Location := List String

/-- What stands at a location. -/
inductive FileEntry where
  | file (bytes : List UInt8)
  | directory
  deriving DecidableEq, Repr, Inhabited

/-- What stands at each location, if anything does. -/
structure FileTree where
  entry? : Location → Option FileEntry

/-- Why a path cannot be followed at all. -/
inductive PathError where
  /-- It holds the character that ends a path. -/
  | nulCharacter
  deriving DecidableEq, Repr, Inhabited

/-- The wording of the error. -/
def PathError.message : PathError → String
  | nulCharacter => "embedded null byte"

/-- A path that can be followed. -/
def checkPath (path : String) : Except PathError String :=
  if path.toList.contains '\x00' then .error .nulCharacter else .ok path

/-- The names of a path, between its slashes. -/
def pathNames (path : String) : List String :=
  (path.toList.splitOn '/').map String.ofList

/-- Whether a path starts at the root. -/
def isAbsolute (path : String) : Bool := path.toList.head? = some '/'

namespace Location

/-- A location as a path. -/
def toPath (l : Location) : String := "/" ++ "/".intercalate l

/-- Follows one name of a path without looking at the tree. -/
def follow (l : Location) (name : String) : Location :=
  if name = "" || name = "." then l
  else if name = ".." then l.dropLast
  else l ++ [name]

/-- The location that a path means, seen from the working directory. -/
def resolve (cwd : Location) (path : String) : Location :=
  (pathNames path).foldl follow (if isAbsolute path then [] else cwd)

/-- The locations above a location, the root first. -/
def above (l : Location) : List Location := (List.range l.length).map fun depth => l.take depth

/-- A location and all above it, the nearest first. -/
def selfAndAbove (l : Location) : List Location := l :: l.above.reverse

end Location

namespace FileTree

/-- A tree with nothing in it but its root. -/
def empty : FileTree := ⟨fun l => if l = [] then some .directory else none⟩

/-- Puts an entry at a location. -/
def put (tree : FileTree) (l : Location) (entry : FileEntry) : FileTree :=
  ⟨fun other => if other = l then some entry else tree.entry? other⟩

/-- Puts directories at the locations above an entry where nothing stands, and the entry itself. -/
def add (tree : FileTree) (l : Location) (entry : FileEntry) : FileTree :=
  let withParents := l.above.foldl
    (fun tree d => if (tree.entry? d).isSome then tree else tree.put d .directory) tree
  withParents.put l entry

/-- Follows the names of a path from one directory on; each step has to start in a directory. -/
def openFrom? (tree : FileTree) (l : Location) : List String → Option FileEntry
  | [] => tree.entry? l
  | name :: rest =>
    if tree.entry? l = some .directory then tree.openFrom? (l.follow name) rest else none

/-- What a path leads to, seen from the working directory.  The empty path leads nowhere. -/
def open? (tree : FileTree) (cwd : Location) (path : String) : Option FileEntry :=
  if path.isEmpty then none
  else tree.openFrom? (if isAbsolute path then [] else cwd) (pathNames path)

end FileTree

/-- A path with its superfluous slashes and single dots left out. -/
def tidyPath (path : String) : String :=
  let names := (pathNames path).filter fun name => name ≠ "" && name ≠ "."
  let root :=
    if "//".toList.isPrefixOf path.toList && !"///".toList.isPrefixOf path.toList then "//"
    else if isAbsolute path then "/" else ""
  let tidied := root ++ "/".intercalate names
  if tidied.isEmpty then "." else tidied

end SafeMarkup
