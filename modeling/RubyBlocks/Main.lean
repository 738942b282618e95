import RubyBlocks.Command.Session

/-!
# The program

The session runs on the computer it is called on: files are its files, the environment is
its environment, and the journal goes to standard error as it is written.
-/

namespace RubyBlocks.Program

/-- Computations on a computer that print the journal up to a threshold. -/
abbrev OnComputer := ReaderT Threshold IO

/-- A failure that the system reports. Some of its calls give the number of an error
negated. -/
def failureOf : IO.Error → FileError
  | .noFileOrDirectory .. => .notFound
  | .alreadyExists .. => .alreadyExists
  | e@(.inappropriateType _ code _) =>
    if code = 20 || code = 0 - 20 then .notDirectory
    else if code = 21 || code = 0 - 21 then .isDirectory
    else .other (toString e)
  | e@(.invalidArgument _ code _) =>
    if code = 36 || code = 0 - 36 then .nameTooLong else .other (toString e)
  | e => .other (toString e)

/-- Does something with a path that may fail. -/
def attempt {α : Type} (path : Text) (action : String → IO α) :
    OnComputer (Except FileError α) := do
  if path.contains '\x00' then return .error .nulInPath
  try return .ok (← action path.asString) catch e => return .error (failureOf e)

/-- Whether the system finds something at a path. -/
def found (path : Text) : OnComputer Bool := do
  match ← attempt path (IO.FS.realPath ·) with
  | .ok _ => return true
  | .error _ => return false

/-- Empties or makes the file at the destination, then fills it from the source. -/
def copyFile (source destination : String) : IO Unit := do
  let input ← IO.FS.Handle.mk source .read
  let output ← IO.FS.Handle.mk destination .write
  output.write (← input.readBinToEnd)

instance : Host OnComputer where
  pathExists path := found path
  isFolder path := found (path ++ ['/', '.'])
  read path := attempt path fun name => (·.toList) <$> IO.FS.readBinFile name
  createFolder path := attempt path (IO.FS.createDir ·)
  write path content := attempt path (IO.FS.writeBinFile · content.toByteArray)
  copy source destination := attempt destination (copyFile source.asString)
  environment names := names.filterMapM fun name => do
    return (← IO.getEnv name.asString).map fun value => (name, value.toList)
  record event := do
    IO.eprint (Journal.printed (← read) [event]).asString

end RubyBlocks.Program

open RubyBlocks in
def main (arguments : List String) : IO UInt32 := do
  let level ← IO.getEnv "RUST_LOG"
  let threshold := Session.threshold
    (level.toList.map fun value => ("RUST_LOG".toList, value.toList))
  let program : Program.OnComputer Report := Session.run (arguments.map String.toList)
  let report ← program.run threshold
  IO.print report.output.asString
  IO.eprint (Session.complaintText report).asString
  return report.status.toUInt32
