import RubyBlocks.Files.Path
import RubyBlocks.Glob

/-!
# Settings

What a user can set: whether files are written back, which files are toggled without
being asked for by force, and where a copy goes before a file is overwritten.

Patterns are matched against names, and a path is taken to be Unicode text. Where a name
could be bytes that are no text, no pattern would match it and its file would be refused;
among the paths here there is no such case, and `FileFilter.accepts` has none for it.
-/

namespace RubyBlocks

/-- The user's choices. -/
structure Settings where
  /-- Write files back instead of printing them. -/
  inPlace : Bool
  /-- Patterns for the names of the files to toggle. -/
  filePatterns : List Text
  /-- Where to copy a file before it is overwritten. -/
  backupDir : Option Text
deriving Repr, DecidableEq

/-- Compiled patterns for file names. -/
structure FileFilter where
  globs : List Glob
deriving Repr, DecidableEq

/-- Whether a path leads to a file whose name one of the patterns matches. The directories
on the way do not count. -/
def FileFilter.accepts (filter : FileFilter) (path : Text) : Bool :=
  (Path.fileName? path).any fun name => filter.globs.any (·.accepts name)

namespace Settings

/-- The names that Ruby files usually have. -/
def rubyPatterns : List Text :=
  ["*.rb", "*.rake", "*.gemspec", "*.ru", "Gemfile", "Rakefile"].map String.toList

/-- The choices of a user who made none. -/
def standard : Settings := ⟨false, rubyPatterns, none⟩

/-- The patterns in compiled form. What cannot be compiled is left out. -/
def fileFilter (settings : Settings) : FileFilter :=
  ⟨settings.filePatterns.filterMap fun pattern => (Glob.compile pattern).toOption⟩

/-- Whether the file at a path is one to toggle. -/
def accepts (settings : Settings) (path : Text) : Bool := settings.fileFilter.accepts path

/-- The first pattern that cannot be compiled, and why. -/
def firstBadPattern? (settings : Settings) : Option (Text × Glob.Fault) :=
  settings.filePatterns.findSome? fun pattern =>
    match Glob.compile pattern with
    | .ok _ => none
    | .error fault => some (pattern, fault)

end Settings

end RubyBlocks
