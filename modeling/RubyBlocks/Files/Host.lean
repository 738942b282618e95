import RubyBlocks.Files.Path
import RubyBlocks.Journal
import RubyBlocks.Text.Utf8

/-!
# What a command needs from its surroundings

Commands read and write files, look at environment variables and keep a journal. All
of that goes through `Host`, so that the same command runs on a computer and on a tree
of files that is a value. A failed operation is a result like any other: it says why,
in the words of the operating system.
-/

namespace RubyBlocks

/-- Why a file operation failed. -/
inductive FileError where
  | notFound
  | alreadyExists
  | notDirectory
  | isDirectory
  /-- A name or a whole path has too many bytes. -/
  | nameTooLong
  /-- A path has a NUL character in it, which ends a path for the system. -/
  | nulInPath
  /-- Anything else, in the system's own words. -/
  | other (message : String)
deriving Repr, DecidableEq

/-- The wording of a failure. -/
def FileError.message : FileError → String
  | notFound => "No such file or directory (os error 2)"
  | alreadyExists => "File exists (os error 17)"
  | notDirectory => "Not a directory (os error 20)"
  | isDirectory => "Is a directory (os error 21)"
  | nameTooLong => "File name too long (os error 36)"
  | nulInPath => "file name contained an unexpected NUL byte"
  | other message => message

/-- Environment variables and their values. -/
abbrev Environment := List (Text × Text)

namespace Environment

/-- A variable and its value as the system keeps them, with an equals sign in between. -/
def entry (name value : Text) : Text := name ++ ['='] ++ value

/-- The value of a variable, if it is set. It is what follows the name and an equals sign in
an entry, so a name that has an equals sign itself may reach into a value. -/
def value? (environment : Environment) (name : Text) : Option Text :=
  if name = [] then none
  else
    environment.findSome? fun (known, value) =>
      if (name ++ ['=']).isPrefixOf (entry known value) then
        some ((entry known value).drop (name.length + 1))
      else none

/-- The user's home directory, if it is known. -/
def home? (environment : Environment) : Option Text := environment.value? ['H', 'O', 'M', 'E']

end Environment

/-- The operations that commands are made of. -/
class Host (m : Type → Type) where
  /-- Whether a path leads to a file or a directory. -/
  pathExists : Text → m Bool
  /-- Whether a path leads to a directory. -/
  isFolder : Text → m Bool
  /-- The content of a file. -/
  read : Text → m (Except FileError Bytes)
  /-- Makes one directory. -/
  createFolder : Text → m (Except FileError Unit)
  /-- Makes a file with this content, or gives the file there this content. -/
  write : Text → Bytes → m (Except FileError Unit)
  /-- Empties or makes the file at the second path, then fills it from the first. -/
  copy : Text → Text → m (Except FileError Unit)
  /-- The environment, as far as the named variables go. -/
  environment : List Text → m Environment
  /-- Adds to the journal. -/
  record : Event → m Unit

namespace Host

variable {m : Type → Type} [Monad m] [Host m]

/-- Makes the first of the directories, whose parents follow it in the list. Where a
parent is missing, it is made first. A directory that is there already is no error. -/
def createFolderWithin : List Text → m (Except FileError Unit)
  | [] => return .ok ()
  | path :: parents => do
    match ← createFolder path with
    | .ok _ => return .ok ()
    | .error .notFound =>
      match ← createFolderWithin parents with
      | .error e => return .error e
      | .ok _ =>
        match ← createFolder path with
        | .ok _ => return .ok ()
        | .error e => return if ← isFolder path then .ok () else .error e
    | .error e => return if ← isFolder path then .ok () else .error e

/-- Makes a directory and whatever is missing above it. -/
def createFolders (path : Text) : m (Except FileError Unit) :=
  createFolderWithin (Path.ancestors path)

/-- Adds several events to the journal. -/
def recordAll : List Event → m Unit
  | [] => return
  | event :: events => do
    record event
    recordAll events

end Host

end RubyBlocks
