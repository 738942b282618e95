import RubyBlocks.Settings.Basic

/-!
# Writing settings

Settings are kept as a TOML document with one key a line. A string has up to four
notations and takes the first in which it can stand as it is: double quotes, single
quotes, and the two again with tripled quotes for several lines. Only a string that fits
none of them is written with escapes.

A tab is the one character that is escaped anyway, between double quotes.
-/

namespace RubyBlocks.Settings

/-! ## Strings -/

/-- Control characters, which no string may hold as they are. -/
def isControl (c : Char) : Bool := c.toNat ≤ 0x1F || c.toNat == 0x7F

/-- Whether every character can stand as it is between single quotes on one line. -/
def isOneLine (text : Text) : Bool := text.all fun c => !isControl c || c == '\t'

/-- Whether every character can stand as it is between tripled single quotes. -/
def isManyLines (text : Text) : Bool :=
  text.all fun c => !isControl c || c == '\t' || c == '\n'

/-- The hexadecimal digit for a number below 16, in upper case. -/
def hexDigit (n : Nat) : Char := if n < 10 then Char.ofNat (48 + n) else Char.ofNat (55 + n)

/-- A character between double quotes. -/
def escapedChar (c : Char) : Text :=
  if c = '\x08' then ['\\', 'b']
  else if c = '\t' then ['\\', 't']
  else if c = '\n' then ['\\', 'n']
  else if c = '\x0c' then ['\\', 'f']
  else if c = '\r' then ['\\', 'r']
  else if c = '"' then ['\\', '"']
  else if c = '\\' then ['\\', '\\']
  else if isControl c then
    ['\\', 'u', '0', '0', hexDigit (c.toNat / 16), hexDigit (c.toNat % 16)]
  else [c]

/-- The characters between tripled double quotes. Line feeds stand as they are, and so do
quotes until two of them stand together: the next is escaped. `quotes` counts those right
in front. -/
def escapedLines (quotes : Nat) : Text → Text
  | [] => []
  | c :: rest =>
    if c = '"' then
      if quotes = 2 then ['\\', '"'] ++ escapedLines 0 rest
      else c :: escapedLines (quotes + 1) rest
    else (if c = '\n' then [c] else escapedChar c) ++ escapedLines 0 rest

/-- Three of a quotation mark. -/
def tripled (quote : Char) : Text := [quote, quote, quote]

/-- A string between tripled quotes, whose first line feed does not count: it is put there
for the looks when there are others. -/
def manyLines (quote : Char) (text body : Text) : Text :=
  tripled quote ++ (if text.contains '\n' then ['\n'] else []) ++ body ++ tripled quote

/-- A string in the first notation that it fits. -/
def writeString (text : Text) : Text :=
  if isOneLine text && !text.contains '\\' && !text.contains '"' then
    ['"'] ++ text.flatMap escapedChar ++ ['"']
  else if isOneLine text && !text.contains '\'' then ['\''] ++ text ++ ['\'']
  else if isManyLines text && !text.contains '\\' && !Text.hasPart (tripled '"') text then
    manyLines '"' text (escapedLines 0 text)
  else if isManyLines text && !Text.hasPart (tripled '\'') text then manyLines '\'' text text
  else if text.contains '\n' then manyLines '"' text (escapedLines 0 text)
  else ['"'] ++ text.flatMap escapedChar ++ ['"']

/-! ## Lists and documents -/

/-- A list of strings. Two or more stand on lines of their own. -/
def writeStrings : List Text → Text
  | [] => ['[', ']']
  | [text] => ['['] ++ writeString text ++ [']']
  | texts =>
    ['['] ++ texts.flatMap (fun text => "\n    ".toList ++ writeString text ++ [',']) ++
      ['\n', ']']

/-- The settings as a document. -/
def write (settings : Settings) : Text :=
  "in_place = ".toList ++ (if settings.inPlace then "true" else "false").toList ++ ['\n'] ++
    "file_patterns = ".toList ++ writeStrings settings.filePatterns ++ ['\n'] ++
    match settings.backupDir with
    | some dir => "backup_dir = ".toList ++ writeString dir ++ ['\n']
    | none => []

end RubyBlocks.Settings
