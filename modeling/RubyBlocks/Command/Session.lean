import RubyBlocks.Command.Run

/-!
# From arguments to an exit code

A session is one call of the program: it reads its arguments, loads the user's settings
and runs the command. What there is to print comes back as a report.
-/

namespace RubyBlocks

/-- What a call of the program leaves to print, and its exit code. -/
structure Report where
  status : Nat
  output : Text
  /-- Lines for standard error, behind the journal. -/
  complaints : List String
deriving Repr, DecidableEq

namespace Session

/-- How the program is called. -/
def usage : String :=
  "Usage: around-the-block <file> <line> [--in-place|--stdout] [--force]"

/-- The report of a failure. -/
def failure (message : String) (hints : List String) : Report :=
  ⟨1, [], ("Error: " ++ message) :: hints⟩

/-- The most detailed level of the journal that is printed in an environment. -/
def threshold (environment : Environment) : Threshold :=
  ((environment.value? "RUST_LOG".toList).bind Threshold.ofName?).getD Threshold.standard

/-- The complaints, each on a line of its own. -/
def complaintText (report : Report) : Text :=
  report.complaints.flatMap fun complaint => complaint.toList ++ ['\n']

/-- What goes to standard error: the printed part of the journal, then the complaints. -/
def errorText (threshold : Threshold) (journal : List Event) (report : Report) : Text :=
  Journal.printed threshold journal ++ complaintText report

variable {m : Type → Type} [Monad m] [Host m]

/-- Runs the program. -/
def run (arguments : List Text) : m Report := do
  match Arguments.parse arguments with
  | .error e => return failure e.message [usage]
  | .ok arguments =>
    match ← Settings.loadOrStandard with
    | .error e => return failure ("Failed to load config file: " ++ e.message) []
    | .ok settings =>
      match ← Command.run arguments settings with
      | .error e => return failure e.message []
      | .ok outcome =>
        Host.record (.cursorAt outcome.cursorLine)
        return ⟨0, if outcome.written then [] else outcome.text, []⟩

end Session

end RubyBlocks
