import RubyBlocks.Settings.Expansion
import RubyBlocks.Settings.Reader
import RubyBlocks.Settings.Writer
import RubyBlocks.Text.Quoted

/-!
# Settings in a file

Loading reads the document, refuses patterns that cannot be compiled, and expands the
path of the backup directory; a path that cannot be expanded stays as it is. No file is
no error: there are just no settings.
-/

namespace RubyBlocks

/-- Why settings could not be loaded. -/
inductive SettingsError where
  /-- The file is there and cannot be read. -/
  | unreadable (path : Text) (reason : String)
  /-- The file does not hold settings. -/
  | malformed (path : Text)
  /-- A pattern cannot be compiled. -/
  | badPattern (path pattern : Text) (fault : Glob.Fault)
deriving Repr, DecidableEq

/-- The wording of an error. Nothing is said about where a malformed document goes wrong. -/
def SettingsError.message : SettingsError → String
  | .unreadable path reason => s!"Failed to read config file at {path.asString}: {reason}"
  | .malformed path => s!"Failed to parse config file at {path.asString}: "
  | .badPattern path pattern fault =>
    s!"Invalid file pattern {pattern.quoted.asString} in {path.asString}: {fault.message}"

namespace Settings

/-- The settings in a document, if their patterns can be compiled. -/
def ofDocument (path document : Text) : Except SettingsError Settings :=
  match read document with
  | none => .error (.malformed path)
  | some settings =>
    match settings.firstBadPattern? with
    | some (pattern, fault) => .error (.badPattern path pattern fault)
    | none => .ok settings

/-- The settings with the path of the backup directory expanded, where that is possible. -/
def expanded (environment : Environment) (settings : Settings) : Settings :=
  { settings with
    backupDir := settings.backupDir.map fun dir =>
      (Expansion.expand? environment dir).getD dir }

/-- The variables that the settings mention. -/
def mentioned (settings : Settings) : List Text :=
  (settings.backupDir.map Expansion.mentioned).getD []

/-- Where a user's settings are kept. -/
def userPath (environment : Environment) : Text :=
  Path.join (Expansion.expandHome environment "~/.config/around-the-block".toList)
    "config.toml".toList

variable {m : Type → Type} [Monad m] [Host m]

/-- Loads the settings from a file, if it exists. -/
def load (path : Text) : m (Except SettingsError (Option Settings)) := do
  if !(← Host.pathExists path) then return .ok none
  match ← Host.read path with
  | .error e => return .error (.unreadable path e.message)
  | .ok bytes =>
    match Utf8.decode bytes with
    | .error _ => return .error (.unreadable path "stream did not contain valid UTF-8")
    | .ok document =>
      match ofDocument path document with
      | .error e => return .error e
      | .ok settings =>
        let environment ← Host.environment settings.mentioned
        return .ok (some (settings.expanded environment))

/-- The environment as far as the user's settings file needs it. -/
def homeEnvironment : m Environment := Host.environment [['H', 'O', 'M', 'E']]

/-- Loads the user's settings, if there are any. -/
def loadUser : m (Except SettingsError (Option Settings)) := do
  load (userPath (← homeEnvironment))

/-- Loads the user's settings, or the standard ones if there are none. -/
def loadOrStandard : m (Except SettingsError Settings) := do
  match ← loadUser with
  | .error e => return .error e
  | .ok settings => return .ok (settings.getD standard)

/-- Writes the settings to a file, in a directory that is made if need be. -/
def save (settings : Settings) (path : Text) : m (Except FileError Unit) := do
  match ← (match Path.parent? path with
      | some parent => Host.createFolders parent
      | none => return .ok ()) with
  | .error e => return .error e
  | .ok _ => Host.write path (Utf8.encode settings.write)

/-- Writes the settings to the user's file. -/
def saveUser (settings : Settings) : m (Except FileError Unit) := do
  settings.save (userPath (← homeEnvironment))

end Settings

end RubyBlocks
