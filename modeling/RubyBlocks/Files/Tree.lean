import RubyBlocks.Files.Host

/-!
# Trees of files as values

A file tree says for every location whether there is a file, with its content, or a
directory. A location is the list of names from the root, so each place has exactly one;
paths are followed from the working directory or from the root, step by step. Every
directory on the way has to be there, also the one in front of a `..`: `a/../b` does not
lead anywhere unless `a` is a directory. A name that is too long is refused where it would
be looked up, and a path that is too long at once.

There are no links, neither symbolic ones, which lead on to another place, nor hard ones,
which put one file at several. So two paths lead to the same file exactly when they lead
to the same location, and what is written at one location is seen at no other.

A workspace adds the environment and the journal. Commands run in it as they do on a
computer, and leave behind the new workspace.
-/

namespace RubyBlocks

/-- The names on the way from the root. -/
abbrev Location := List Text

/-- What can be at a location. -/
inductive Node where
  | file (content : Bytes)
  | folder
deriving Repr, DecidableEq

/-- Files and directories, and the directory where relative paths start. -/
structure FileTree where
  workingDirectory : Location
  nodes : List (Location × Node)
deriving Repr, DecidableEq

namespace FileTree

/-- What is at a location. The root is always there. -/
def node? (tree : FileTree) (location : Location) : Option Node :=
  if location = [] then some .folder else tree.nodes.lookup location

/-- The tree with something put at a location. -/
def insert (tree : FileTree) (location : Location) (node : Node) : FileTree :=
  { tree with nodes := (location, node) :: tree.nodes.filter fun entry => entry.1 != location }

/-- The content of the file at a location, if there is a file. -/
def content? (tree : FileTree) (location : Location) : Option Bytes :=
  match tree.node? location with
  | some (.file content) => some content
  | _ => none

/-- A tree that has nothing in it but the working directory and the way there. -/
def empty (workingDirectory : Location) : FileTree :=
  ⟨workingDirectory, (List.range workingDirectory.length).map fun n =>
    (workingDirectory.take (n + 1), .folder)⟩

/-! ## Following paths -/

/-- Whether a name has too many bytes. -/
def isTooLong (name : Text) : Bool := Path.longestName < name.byteLength

/-- Where the pieces of a path lead to from a location. The last one may name something
that does not exist. -/
def walk (tree : FileTree) (location : Location) : List Text → Except FileError Location
  | [] => .ok location
  | piece :: pieces =>
    match tree.node? location with
    | none => .error .notFound
    | some (.file _) => .error .notDirectory
    | some .folder =>
      if piece = [] || piece = Path.here then tree.walk location pieces
      else if piece = Path.up then tree.walk location.dropLast pieces
      else if isTooLong piece then .error .nameTooLong
      else tree.walk (location ++ [piece]) pieces

/-- Where a path starts. -/
def origin (tree : FileTree) (path : Text) : Location :=
  if Path.isAbsolute path then [] else tree.workingDirectory

/-- Refuses a path that leads nowhere in any tree. -/
def checkPath (path : Text) : Except FileError Unit :=
  if path.contains '\x00' then .error .nulInPath
  else if Path.longestPath < path.byteLength then .error .nameTooLong
  else if path = [] then .error .notFound
  else .ok ()

/-- Where a path leads to. -/
def locate (tree : FileTree) (path : Text) : Except FileError Location := do
  checkPath path
  tree.walk (tree.origin path) (Path.pieces path)

/-- What a path says about something that is to be made. -/
inductive Target where
  /-- A name in a directory that exists, with `slash` when slashes follow it. -/
  | entry (location : Location) (slash : Bool)
  /-- A directory that exists, named by a dot, by two dots or as the root. -/
  | folder
deriving Repr, DecidableEq

/-- Where a path leads to, for something that is to be made there. -/
def target (tree : FileTree) (path : Text) : Except FileError Target := do
  checkPath path
  let pieces := Path.pieces path
  let named := (pieces.reverse.dropWhile (· == [])).reverse
  match named.getLast? with
  | none => return .folder
  | some name =>
    if name = Path.here || name = Path.up then
      let _ ← tree.walk (tree.origin path) (named ++ [Path.here])
      return .folder
    else
      let parent ← tree.walk (tree.origin path) (named.dropLast ++ [Path.here])
      return .entry (parent ++ [name]) (named.length < pieces.length)

/-- What is at the location of an entry. -/
def entryNode? (tree : FileTree) (location : Location) : Except FileError (Option Node) :=
  if location.getLast?.any isTooLong then .error .nameTooLong else .ok (tree.node? location)

/-! ## Operations -/

/-- Whether a path leads to a file or a directory. -/
def pathExists (tree : FileTree) (path : Text) : Bool :=
  match tree.locate path with
  | .ok location => (tree.node? location).isSome
  | .error _ => false

/-- Whether a path leads to a directory. -/
def isFolder (tree : FileTree) (path : Text) : Bool :=
  match tree.locate path with
  | .ok location => tree.node? location == some .folder
  | .error _ => false

/-- The content of a file. -/
def read (tree : FileTree) (path : Text) : Except FileError Bytes := do
  match tree.node? (← tree.locate path) with
  | none => throw .notFound
  | some .folder => throw .isDirectory
  | some (.file content) => return content

/-- The tree with one more directory. -/
def createFolder (tree : FileTree) (path : Text) : Except FileError FileTree := do
  match ← tree.target path with
  | .folder => throw .alreadyExists
  | .entry location _ =>
    if (← tree.entryNode? location).isSome then throw .alreadyExists
    return tree.insert location .folder

/-- The tree with a file of this content. -/
def write (tree : FileTree) (path : Text) (content : Bytes) : Except FileError FileTree := do
  match ← tree.target path with
  | .folder => throw .isDirectory
  | .entry location slash =>
    if slash then throw .isDirectory
    if (← tree.entryNode? location) == some .folder then throw .isDirectory
    return tree.insert location (.file content)

/-- The tree after copying a file. The file at the second path is emptied before the
first is read out, so a file copied onto itself loses its content. -/
def copy (tree : FileTree) (source destination : Text) : Except FileError FileTree := do
  let _ ← tree.read source
  let emptied ← tree.write destination []
  emptied.write destination (← emptied.read source)

/-! ## Listing -/

/-- Everything below the working directory by relative path: files with their content, and
directories in which there is nothing. -/
def listing (tree : FileTree) : List (Text × Option Bytes) :=
  tree.nodes.filterMap fun (location, node) =>
    let name := List.intercalate ['/'] (location.drop tree.workingDirectory.length)
    if !(tree.workingDirectory.isPrefixOf location) || location == tree.workingDirectory then none
    else
      match node with
      | .file content => some (name, some content)
      | .folder =>
        if tree.nodes.any (fun other => other.1.dropLast == location) then none
        else some (name, none)

end FileTree

/-- A file tree with an environment and the journal of what happened in it. -/
structure Workspace where
  files : FileTree
  environment : Environment
  journal : List Event
deriving Repr, DecidableEq

/-- Computations that run in a workspace. -/
abbrev InWorkspace := StateM Workspace

namespace Workspace

/-- A workspace where nothing has happened yet. -/
def ofFiles (files : FileTree) (environment : Environment) : Workspace :=
  ⟨files, environment, []⟩

/-- Does an operation that changes the files, if it succeeds. -/
def update (operation : FileTree → Except FileError FileTree) :
    InWorkspace (Except FileError Unit) := fun workspace =>
  match operation workspace.files with
  | .ok files => (.ok (), { workspace with files })
  | .error e => (.error e, workspace)

instance : Host InWorkspace where
  pathExists path := return (← get).files.pathExists path
  isFolder path := return (← get).files.isFolder path
  read path := return (← get).files.read path
  createFolder path := update (·.createFolder path)
  write path content := update (·.write path content)
  copy source destination := update (·.copy source destination)
  environment _ := return (← get).environment
  record event := modify fun workspace =>
    { workspace with journal := workspace.journal ++ [event] }

end Workspace

end RubyBlocks
