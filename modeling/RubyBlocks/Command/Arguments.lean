import RubyBlocks.Text.Quoted

/-!
# Arguments of the command

The command takes a file, a line number and flags, which may stand anywhere. Of flags
that contradict each other the last one counts. Anything else that starts with a dash is
refused, unless it is nothing but the dash.
-/

namespace RubyBlocks

/-- Where the result goes. -/
inductive Destination where
  /-- Wherever the settings say. -/
  | settings
  /-- Back into the file. -/
  | file
  /-- To standard output. -/
  | standardOutput
deriving Repr, DecidableEq

/-- What the command is asked to do. -/
structure Arguments where
  file : Text
  /-- The line of the cursor, counted from zero. -/
  cursorLine : Nat
  destination : Destination
  /-- Toggle the file even if no pattern matches its name. -/
  force : Bool
deriving Repr, DecidableEq

/-- Why a text is not a number. -/
inductive NumberError where
  | empty
  | invalidDigit
  | tooLarge
deriving Repr, DecidableEq

/-- The wording of an error. -/
def NumberError.message : NumberError → String
  | empty => "cannot parse integer from empty string"
  | invalidDigit => "invalid digit found in string"
  | tooLarge => "number too large to fit in target type"

/-- Why arguments are refused. -/
inductive ArgumentError where
  | unknownOption (argument : Text)
  | wrongCount
  | badLine (argument : Text) (reason : NumberError)
  | lineZero
deriving Repr, DecidableEq

/-- The wording of an error. -/
def ArgumentError.message : ArgumentError → String
  | unknownOption argument => "Unknown option: " ++ argument.asString
  | wrongCount => "Expected a file and a line number"
  | badLine argument reason =>
    s!"Line number must be a positive integer, got {argument.quoted.asString}: {reason.message}"
  | lineZero => "Line numbers start at 1"

namespace Arguments

/-! ## Numbers -/

/-- The largest line number that is understood. -/
def largestNumber : Nat := UInt64.size - 1

/-- Reads digits behind others that make `value`, and stops at the first that is none or
makes the number too large. -/
def readDigits (value : Nat) : Text → Except NumberError Nat
  | [] => .ok value
  | c :: rest =>
    if c.isDigit then
      let next := value * 10 + (c.toNat - 48)
      if largestNumber < next then .error .tooLarge else readDigits next rest
    else .error .invalidDigit

/-- Reads a number, which may have a plus sign in front. -/
def readNumber : Text → Except NumberError Nat
  | [] => .error .empty
  | ['+'] => .error .invalidDigit
  | '+' :: digits => readDigits 0 digits
  | digits => readDigits 0 digits

/-! ## Flags -/

/-- The destination that an argument asks for, if it is a flag for that. -/
def destinationFlag? (argument : Text) : Option Destination :=
  if argument = "--in-place".toList || argument = "-i".toList then some .file
  else if argument = "--stdout".toList then some .standardOutput
  else none

/-- Whether an argument is the flag for force. -/
def isForceFlag (argument : Text) : Bool :=
  argument = "--force".toList || argument = "-f".toList

/-- Whether an argument starts with a dash and goes on. -/
def isDashed (argument : Text) : Bool := argument.head? == some '-' && 1 < argument.length

/-! ## All arguments

The arguments are read once, from the first to the last, and the first one that is refused
ends the reading. What the others amount to is known only behind the last of them. -/

/-- What the arguments read so far amount to. -/
structure Reading where
  /-- Those that are no flags. -/
  positional : List Text
  destination : Destination
  force : Bool
deriving Repr, DecidableEq

/-- Before the first argument. -/
def Reading.start : Reading := ⟨[], .settings, false⟩

/-- Reads one more argument. -/
def Reading.next (reading : Reading) (argument : Text) : Except ArgumentError Reading :=
  match destinationFlag? argument with
  | some destination => .ok { reading with destination }
  | none =>
    if isForceFlag argument then .ok { reading with force := true }
    else if isDashed argument then .error (.unknownOption argument)
    else .ok { reading with positional := reading.positional ++ [argument] }

/-- What a reading asks for, if its arguments are a file and the number of a line. -/
def Reading.finish (reading : Reading) : Except ArgumentError Arguments :=
  match reading.positional with
  | [file, line] =>
    match readNumber line with
    | .error reason => .error (.badLine line reason)
    | .ok 0 => .error .lineZero
    | .ok (n + 1) => .ok ⟨file, n, reading.destination, reading.force⟩
  | _ => .error .wrongCount

/-- Reads the arguments of the command. -/
def parse (arguments : List Text) : Except ArgumentError Arguments := do
  (← arguments.foldlM Reading.next Reading.start).finish

end Arguments

end RubyBlocks
