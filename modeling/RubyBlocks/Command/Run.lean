import RubyBlocks.Command.Arguments
import RubyBlocks.Settings.Storage

/-!
# Running the command

A run reads the file, toggles the block and either returns the new text or writes it
back, after making a copy of the file if the settings ask for one. Everything up to the
new text is settled before anything is written, so a run that fails on the way there
leaves all files as they were.
-/

namespace RubyBlocks

/-- Why a run failed. -/
inductive RunError where
  /-- No pattern matches the name of the file. -/
  | unmatched (file : Text)
  | unreadable (file : Text) (reason : FileError)
  | notText (file : Text) (fault : Utf8.Fault)
  /-- There is no block to toggle at the line, which is counted from zero here. -/
  | noBlock (cursorLine : Nat) (reason : BlockError)
  /-- The backup directory cannot be made. -/
  | noBackupDir (directory : Text) (reason : FileError)
  | noFileName (file : Text)
  | noBackup (file : Text) (reason : FileError)
  | unwritable (file : Text) (reason : FileError)
deriving Repr, DecidableEq

/-- The wording of an error. -/
def RunError.message : RunError → String
  | unmatched file =>
    file.asString ++
      " does not match any configured file pattern (use --force to toggle anyway)"
  | unreadable file reason => s!"Failed to read {file.asString}: {reason.message}"
  | notText file fault => s!"{file.asString} is not valid UTF-8: {fault.message}"
  | noBlock cursorLine reason =>
    s!"Cannot toggle block at line {cursorLine + 1}: {reason.message}"
  | noBackupDir directory reason =>
    s!"Failed to create backup dir {directory.asString}: {reason.message}"
  | noFileName file => file.asString ++ " has no file name"
  | noBackup file reason => s!"Failed to back up {file.asString}: {reason.message}"
  | unwritable file reason => s!"Failed to write {file.asString}: {reason.message}"

/-- What a run that succeeded has to show. -/
structure Outcome where
  text : Text
  written : Bool
  /-- The line to put the cursor on, counted from one. -/
  cursorLine : Nat
deriving Repr, DecidableEq

namespace Command

/-- Whether a run overwrites the file. -/
def writesBack (destination : Destination) (settings : Settings) : Bool :=
  match destination with
  | .settings => settings.inPlace
  | .file => true
  | .standardOutput => false

/-- Where the cursor goes. A block that became one line takes it along, and otherwise it
stays on its line. -/
def cursorAfter (cursorLine : Nat) (toggled : Toggled) : Nat :=
  if toggled.lines.length = 1 then toggled.startLine + 1 else cursorLine + 1

variable {m : Type → Type} [Monad m] [Host m]

/-- Copies a file into the backup directory, under its own name. -/
def backUp (file directory : Text) : m (Except RunError Unit) := do
  match ← Host.createFolders directory with
  | .error e => return .error (.noBackupDir directory e)
  | .ok _ =>
    match Path.fileName? file with
    | none => return .error (.noFileName file)
    | some name =>
      let destination := Path.join directory name
      match ← Host.copy file destination with
      | .error e => return .error (.noBackup file e)
      | .ok _ =>
        Host.record (.backedUp destination)
        return .ok ()

/-- Overwrites a file with a text, after the copy that the settings ask for. -/
def writeBack (file : Text) (settings : Settings) (text : Text) : m (Except RunError Unit) := do
  match ← (match settings.backupDir with
      | some directory => backUp file directory
      | none => return .ok ()) with
  | .error e => return .error e
  | .ok _ =>
    match ← Host.write file (Utf8.encode text) with
    | .error e => return .error (.unwritable file e)
    | .ok _ =>
      Host.record (.wrote file)
      return .ok ()

/-- Opens the file as a document. -/
def openDocument (arguments : Arguments) (settings : Settings) : m (Except RunError Document) := do
  let file := arguments.file
  if !arguments.force && !settings.accepts file then return .error (.unmatched file)
  match ← Host.read file with
  | .error e => return .error (.unreadable file e)
  | .ok bytes => return (Document.ofBytes bytes).mapError (.notText file)

/-- Runs the command. -/
def run (arguments : Arguments) (settings : Settings) : m (Except RunError Outcome) := do
  match ← openDocument arguments settings with
  | .error e => return .error e
  | .ok document =>
    Host.recordAll (Journal.ofDocument document arguments.cursorLine)
    match document.toggle arguments.cursorLine with
    | .error e => return .error (.noBlock arguments.cursorLine e)
    | .ok (edited, change) =>
      let toggled := change.toggled
      Host.record (.linesReplaced toggled.startLine toggled.endLine toggled.lines.length)
      let written := writesBack arguments.destination settings
      let outcome : Outcome :=
        ⟨edited.text, written, cursorAfter arguments.cursorLine toggled⟩
      if !written then return .ok outcome
      match ← writeBack arguments.file settings edited.text with
      | .error e => return .error e
      | .ok _ => return .ok outcome

end Command

end RubyBlocks
