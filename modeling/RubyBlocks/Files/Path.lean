import RubyBlocks.Text.Basic

/-!
# Paths

A path is a text, and its pieces are what stands between the slashes. Empty pieces and
single dots say nothing, except for a dot at the very front of a relative path: the
parts of a path are its pieces without those.

The parent of a path is the front of its text, up to the part before the last. The first
piece always stays where it is: it is the root, a dot or the first name.

A system lets the names of its files be any bytes. Here they are characters, so every name
can be read, and nothing has to be decided about a name that is no text.
-/

namespace RubyBlocks.Path

/-- A piece that names the directory it stands in. -/
def here : Text := ['.']

/-- A piece that names the directory above. -/
def up : Text := ['.', '.']

/-- Everything between the slashes of a path. -/
def pieces (path : Text) : List Text := path.splitOn '/'

/-- Whether a path starts at the root. -/
def isAbsolute (path : Text) : Bool := path.head? == some '/'

/-- Whether a piece says something. -/
def isTelling (piece : Text) : Bool := piece != [] && piece != here

/-- The parts of a path. -/
def parts (path : Text) : List Text :=
  match pieces path with
  | [] => []
  | first :: rest =>
    if first = here then first :: rest.filter isTelling else (first :: rest).filter isTelling

/-- The name of the file that a path leads to. A path that ends in the root, in the
working directory or in a step upward names none. -/
def fileName? (path : Text) : Option Text :=
  (parts path).getLast?.filter fun part => part != here && part != up

/-- A path with a first piece and others behind it, which are given from the last on.
Those at the end that say nothing are left out. -/
def ofReversed (first : Text) (pieces : List Text) : Text :=
  match (pieces.dropWhile (!isTelling ·)).reverse with
  | [] => if first = [] then ['/'] else first
  | others => List.intercalate ['/'] (first :: others)

/-- The parents of a path with this first piece, the nearest first; its other pieces are
given from the last on. Beyond a relative path there is the empty path, and beyond the root
nothing. -/
def parentsOf (first : Text) : List Text → List Text
  | [] => if first = [] then [] else [[]]
  | piece :: pieces =>
    if isTelling piece then ofReversed first pieces :: parentsOf first pieces
    else parentsOf first pieces

/-- The parent of a path, the parent of that and so on. -/
def parents (path : Text) : List Text :=
  match pieces path with
  | [] => []
  | first :: rest => parentsOf first rest.reverse

/-- The path without its last part. The empty path and the root have no parent. -/
def parent? (path : Text) : Option Text := (parents path).head?

/-- The path itself, then its parents, without the empty path. -/
def ancestors (path : Text) : List Text := (path :: parents path).filter (· != [])

/-- The most bytes that a name can have. -/
def longestName : Nat := 255

/-- The most bytes that a path can have. -/
def longestPath : Nat := 4095

/-- The path of a file in a directory. -/
def join (directory name : Text) : Text :=
  if directory = [] || directory.getLast? = some '/' then directory ++ name
  else directory ++ ['/'] ++ name

end RubyBlocks.Path
