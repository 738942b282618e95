import RubyBlocks.Text.Utf8

/-!
# Texts without terminal control

A file may have any name, and a terminal takes some characters for commands: to move the
cursor, to change a colour, to set the title of its window. A line that mentions such a
name is printed without them.

A command is a single control character or a sequence that an escape character opens, and
the sequence tells by its form where it ends. `Mode` says in which part of a sequence a
text stands, `Mode.next` takes it one character further, and `Mode.shows` picks what is
printed. Line breaks, tabs and form feeds lay a text out and are printed, even from the
middle of a short sequence. Such a character suspends the sequence: the text behind it is
printed, until the next control character goes on with the sequence.
-/

namespace RubyBlocks.Terminal

/-- In which part of a control sequence a text stands. -/
inductive Mode where
  /-- In none. -/
  | ground
  /-- Right behind an escape character. -/
  | escape
  /-- Behind an escape character and signs that announce one more character. -/
  | announced
  /-- Among the parameters of a sequence, which a letter ends. -/
  | parameters
  /-- In a command to the system around the terminal, which a bell ends. -/
  | systemCommand
  /-- Right behind the opening of a string for a device. -/
  | device
  /-- Among the parameters of a string for a device. -/
  | deviceParameters
  /-- Behind the parameters of a string for a device, among signs. -/
  | deviceSigns
  /-- In a string that lasts until its terminator. -/
  | string
deriving Repr, DecidableEq

/-- Whether a character lies between two others, both included. -/
def isBetween (first last c : Char) : Bool := first ≤ c && c ≤ last

/-- Whether a character lays a text out: the blanks of ASCII without the space and the
vertical tab. -/
def isLayout (c : Char) : Bool := c == '\t' || c == '\n' || c == '\x0c' || c == '\r'

/-- Whether a character is no control character of ASCII. -/
def isGraphic (c : Char) : Bool := ' ' ≤ c && c ≠ '\x7f'

/-- Whether a character is one of ASCII. -/
def isPlain (c : Char) : Bool := c ≤ '\x7f'

/-- The byte that terminates a string. It does so even as part of a longer character. -/
def terminator : UInt8 := 0x9C

namespace Mode

/-- The part of a sequence behind one more character. An escape character opens a sequence
anywhere, and two control characters end one. -/
def next (mode : Mode) (c : Char) : Mode :=
  if c = '\x1b' then escape
  else if c = '\x18' || c = '\x1a' then ground
  else
    match mode with
    | ground => ground
    | escape =>
      if isBetween ' ' '/' c then announced
      else if c = '[' then parameters
      else if c = ']' then systemCommand
      else if c = 'P' then device
      else if c = 'X' || c = '^' || c = '_' then string
      else if isBetween '0' '~' c then ground
      else escape
    | announced => if isBetween '0' '~' c then ground else announced
    | parameters => if isBetween '@' '~' c then ground else parameters
    | systemCommand => if c = '\x07' then ground else systemCommand
    | device =>
      if isBetween '@' '~' c then string
      else if isBetween '0' '?' c then deviceParameters
      else if isBetween ' ' '/' c then deviceSigns
      else device
    | deviceParameters =>
      if isBetween '<' '~' c then string
      else if isBetween ' ' '/' c then deviceSigns
      else deviceParameters
    | deviceSigns => if isBetween '0' '~' c then string else deviceSigns
    | string => if (Utf8.encodeChar c).contains terminator then ground else string

/-- Whether a character is printed. -/
def shows (mode : Mode) (c : Char) : Bool :=
  match mode with
  | ground => isGraphic c || isLayout c
  | escape | announced | parameters => isLayout c
  | systemCommand | device | deviceParameters | deviceSigns | string => false

end Mode

/-- What is printed of a text that starts in the given part of a sequence. With `printing`
the sequence is suspended, and everything is printed that is no control character; a
character beyond ASCII then ends it for good. -/
def printedFrom (mode : Mode) (printing : Bool) : Text → Text
  | [] => []
  | c :: rest =>
    if printing && Mode.ground.shows c then
      c :: printedFrom (if isPlain c then mode else .ground) true rest
    else if mode.shows c then c :: printedFrom (mode.next c) true rest
    else printedFrom (mode.next c) false rest

/-- What is printed of a text. -/
def printed (text : Text) : Text := printedFrom .ground false text

end RubyBlocks.Terminal
