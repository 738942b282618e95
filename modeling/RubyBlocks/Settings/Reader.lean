import RubyBlocks.Settings.Basic

/-!
# Reading settings

The document is TOML. It can hold three keys, each at most once and with a value of its
kind: a truth value, a list of strings or a string. Whatever is outside of that, a key
that is not known or a value of another kind included, makes the document as a whole
unreadable, so the reader takes the grammar for these keys and nothing else.

Readers take a text and return what they read together with the text behind it. Those
for strings and comments go through the text character by character, with a state for
what was begun: an escape, a comment, the margin behind a line that was continued.
-/

namespace RubyBlocks.Settings

/-! ## Blanks, comments and line ends -/

/-- Blanks inside a line. -/
def isSpace (c : Char) : Bool := c == ' ' || c == '\t'

/-- Characters that may stand in a comment or between quotes. -/
def isPrintable (c : Char) : Bool := c == '\t' || (0x20 ≤ c.toNat && c.toNat != 0x7F)

/-- Whether a text goes on with a line ending. -/
def startsWithLineEnd : Text → Bool
  | '\n' :: _ => true
  | '\r' :: '\n' :: _ => true
  | _ => false

/-- Passes over blanks, line endings and comments. A comment that holds a control
character is an error. -/
def skipBlanks (inComment : Bool) : Text → Option Text
  | [] => some []
  | c :: rest =>
    if c = '\n' then skipBlanks false rest
    else if c = '\r' && rest.head? == some '\n' then skipBlanks false rest
    else if inComment then if isPrintable c then skipBlanks true rest else none
    else if isSpace c then skipBlanks false rest
    else if c = '#' then skipBlanks true rest
    else some (c :: rest)

/-- Passes over blanks inside a line. -/
def skipSpaces (text : Text) : Text := text.dropWhile isSpace

/-- Whether nothing but a comment can be left on the line. -/
def endsLine (text : Text) : Bool :=
  text.isEmpty || text.head? == some '#' || startsWithLineEnd text

/-! ## Strings -/

/-- What was begun inside a string between double quotes. -/
inductive Mode where
  /-- Nothing, or the margin of a continued line, in which blanks do not count. -/
  | plain (margin : Bool)
  /-- An escape. -/
  | escape
  /-- A character given by its number: how many digits are to come, and the number so far. -/
  | code (digits value : Nat)
  /-- A line that is continued on the next one; only blanks may follow on it. -/
  | continued
deriving Repr, DecidableEq

/-- The value of a hexadecimal digit. -/
def hexValue? (c : Char) : Option Nat :=
  if '0' ≤ c && c ≤ '9' then some (c.toNat - 48)
  else if 'a' ≤ c && c ≤ 'f' then some (c.toNat - 87)
  else if 'A' ≤ c && c ≤ 'F' then some (c.toNat - 55)
  else none

/-- The character that an escape of one letter stands for. -/
def escapeChar? (c : Char) : Option Char :=
  match c with
  | 'b' => some '\x08'
  | 't' => some '\t'
  | 'n' => some '\n'
  | 'f' => some '\x0c'
  | 'r' => some '\r'
  | 'e' => some '\x1b'
  | '"' => some '"'
  | '\\' => some '\\'
  | _ => none

/-- How many digits follow the letter of an escape by number. -/
def codeDigits? (c : Char) : Option Nat :=
  match c with
  | 'x' => some 2
  | 'u' => some 4
  | 'U' => some 8
  | _ => none

/-- The character with a number, if it has one. -/
def charOf? (n : Nat) : Option Char :=
  if n < 0xD800 || (0xE000 ≤ n && n < 0x110000) then some (Char.ofNat n) else none

/-- Puts a character in front of what was read. -/
def push (c : Char) (read : Option (Text × Text)) : Option (Text × Text) :=
  read.map fun (text, rest) => (c :: text, rest)

/-- What is read at three quotes in a string of several lines. Up to two more belong to the
string. -/
def closeTripled (quote : Char) (rest : Text) : Text × Text :=
  if [quote, quote].isPrefixOf rest then ([quote, quote], rest.drop 2)
  else if [quote].isPrefixOf rest then ([quote], rest.drop 1)
  else ([], rest)

/-- Reads a string between double quotes from behind the opening ones. -/
def readBasic (tripled : Bool) (mode : Mode) : Text → Option (Text × Text)
  | [] => none
  | c :: rest =>
    match mode with
    | .plain margin =>
      if margin && (isSpace c || startsWithLineEnd (c :: rest)) then
        readBasic tripled (.plain true) rest
      else if c = '"' then
        if !tripled then some ([], rest)
        else if ['"', '"'].isPrefixOf rest then some (closeTripled '"' (rest.drop 2))
        else push c (readBasic tripled (.plain false) rest)
      else if c = '\\' then readBasic tripled .escape rest
      else if isPrintable c || (tripled && startsWithLineEnd (c :: rest)) then
        push c (readBasic tripled (.plain false) rest)
      else none
    | .escape =>
      match escapeChar? c, codeDigits? c with
      | some d, _ => push d (readBasic tripled (.plain false) rest)
      | none, some digits => readBasic tripled (.code digits 0) rest
      | none, none =>
        if !tripled then none
        else if c = '\n' then readBasic tripled (.plain true) rest
        else if isSpace c || startsWithLineEnd (c :: rest) then readBasic tripled .continued rest
        else none
    | .code digits value =>
      match hexValue? c with
      | none => none
      | some digit =>
        let value := value * 16 + digit
        if 1 < digits then readBasic tripled (.code (digits - 1) value) rest
        else
          match charOf? value with
          | some d => push d (readBasic tripled (.plain false) rest)
          | none => none
    | .continued =>
      if c = '\n' then readBasic tripled (.plain true) rest
      else if isSpace c || startsWithLineEnd (c :: rest) then readBasic tripled .continued rest
      else none

/-- Reads a string between single quotes from behind the opening ones. -/
def readLiteral (tripled : Bool) : Text → Option (Text × Text)
  | [] => none
  | c :: rest =>
    if c = '\'' then
      if !tripled then some ([], rest)
      else if ['\'', '\''].isPrefixOf rest then some (closeTripled '\'' (rest.drop 2))
      else push c (readLiteral tripled rest)
    else if isPrintable c || (tripled && startsWithLineEnd (c :: rest)) then
      push c (readLiteral tripled rest)
    else none

/-- The text without a line ending at its front, which does not belong to the string that
starts there. -/
def dropLineEnd : Text → Text
  | '\n' :: rest => rest
  | '\r' :: '\n' :: rest => rest
  | text => text

/-- Reads a string in one of its four notations. -/
def readString (text : Text) : Option (Text × Text) :=
  match text with
  | '"' :: '"' :: '"' :: rest => readBasic true (.plain false) (dropLineEnd rest)
  | '"' :: rest => readBasic false (.plain false) rest
  | '\'' :: '\'' :: '\'' :: rest => readLiteral true (dropLineEnd rest)
  | '\'' :: rest => readLiteral false rest
  | _ => none

/-! ## Lists and truth values -/

/-- Reads the rest of a list of strings, from behind the opening bracket or a comma. Every
string takes up some of the text, so `limit` need not exceed its length. -/
def readItems (limit : Nat) (text : Text) : Option (List Text × Text) :=
  match limit with
  | 0 => none
  | limit + 1 => do
    match ← skipBlanks false text with
    | ']' :: rest => return ([], rest)
    | text =>
      let (item, rest) ← readString text
      match ← skipBlanks false rest with
      | ',' :: rest =>
        let (items, rest) ← readItems limit rest
        return (item :: items, rest)
      | ']' :: rest => return ([item], rest)
      | _ => none

/-- Reads a list of strings. -/
def readStrings : Text → Option (List Text × Text)
  | '[' :: rest => readItems (rest.length + 1) rest
  | _ => none

/-- Reads a truth value. -/
def readBool (text : Text) : Option (Bool × Text) :=
  if "true".toList.isPrefixOf text then some (true, text.drop 4)
  else if "false".toList.isPrefixOf text then some (false, text.drop 5)
  else none

/-! ## Keys and entries -/

/-- Characters of a key that is written without quotes. -/
def isBareKeyChar (c : Char) : Bool := c.isAlphanum || c == '_' || c == '-'

/-- Reads a key. -/
def readKey (text : Text) : Option (Text × Text) :=
  match text with
  | '"' :: rest => readBasic false (.plain false) rest
  | '\'' :: rest => readLiteral false rest
  | _ =>
    if (text.takeWhile isBareKeyChar).isEmpty then none
    else some (text.takeWhile isBareKeyChar, text.dropWhile isBareKeyChar)

/-- What a document has set so far. -/
structure Draft where
  inPlace : Option Bool
  filePatterns : Option (List Text)
  backupDir : Option Text
deriving Repr, DecidableEq

namespace Draft

/-- Nothing is set. -/
def empty : Draft := ⟨none, none, none⟩

/-- The settings, with the standard ones where the document says nothing. -/
def toSettings (draft : Draft) : Settings :=
  ⟨draft.inPlace.getD standard.inPlace, draft.filePatterns.getD standard.filePatterns,
    draft.backupDir⟩

end Draft

/-- Reads the value of a key that is not yet set, and sets it. -/
def readValue (draft : Draft) (key : Text) (text : Text) : Option (Draft × Text) :=
  if key = "in_place".toList && draft.inPlace.isNone then
    (readBool text).map fun (value, rest) => ({ draft with inPlace := some value }, rest)
  else if key = "file_patterns".toList && draft.filePatterns.isNone then
    (readStrings text).map fun (value, rest) => ({ draft with filePatterns := some value }, rest)
  else if key = "backup_dir".toList && draft.backupDir.isNone then
    (readString text).map fun (value, rest) => ({ draft with backupDir := some value }, rest)
  else none

/-- Reads a key and its value, up to the end of the line. -/
def readEntry (draft : Draft) (text : Text) : Option (Draft × Text) := do
  let (key, rest) ← readKey text
  match skipSpaces rest with
  | '=' :: rest =>
    let (draft, rest) ← readValue draft key (skipSpaces rest)
    if endsLine (skipSpaces rest) then return (draft, rest) else none
  | _ => none

/-- Reads the entries of a document, at most as many as there are keys left to set. -/
def readEntries (keys : Nat) (draft : Draft) (text : Text) : Option Draft := do
  match ← skipBlanks false text with
  | [] => return draft
  | text =>
    match keys with
    | 0 => none
    | keys + 1 =>
      let (draft, rest) ← readEntry draft text
      readEntries keys draft rest

/-- Reads a document. A byte order mark in front of it does not count. -/
def read (document : Text) : Option Settings :=
  let text := match document with
    | '\uFEFF' :: rest => rest
    | text => text
  (readEntries 3 .empty text).map Draft.toSettings

end RubyBlocks.Settings
