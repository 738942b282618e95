/-!
# Texts

Everything the program reads is a sequence of characters: source lines, file
names, patterns, arguments. Columns count characters, a marker is a few
characters at a column, and a pattern is matched character by character, so a
text is a list of them. Bytes enter in two places only, when a file is read or
written and when an edit is reported by byte offsets; `byteLength` serves the
second.
-/

namespace RubyBlocks

/-- A text, as the list of its characters. -/
abbrev Text := List Char

namespace Text

/-! ## Cutting -/

/-- The characters of columns `first` to `last - 1`, as far as the text has them. -/
def slice (text : Text) (first last : Nat) : Text := (text.take last).drop first

/-- The text without the longest run of `p` characters at its end. -/
def dropTrailing (p : Char → Bool) (text : Text) : Text :=
  (text.reverse.dropWhile p).reverse

/-- The text without one final `c`, if it has one. -/
def dropFinal (c : Char) (text : Text) : Text :=
  if text.getLast? = some c then text.dropLast else text

/-- Every end piece of the text, the whole text first and the empty text last. -/
def suffixes : Text → List Text
  | [] => [[]]
  | c :: rest => (c :: rest) :: suffixes rest

/-! ## Finding -/

/-- Whether `part` stands somewhere in the text. -/
def hasPart (part text : Text) : Bool := (suffixes text).any part.isPrefixOf

/-- The text without the first occurrence of `part`, if there is one. -/
def eraseFirst (part : Text) : Text → Text
  | [] => []
  | c :: rest =>
    if part.isPrefixOf (c :: rest) then (c :: rest).drop part.length
    else c :: eraseFirst part rest

/-! ## Measuring and showing -/

/-- How many bytes the text takes in UTF-8. -/
def byteLength : Text → Nat
  | [] => 0
  | c :: rest => c.utf8Size + byteLength rest

/-- The text as a string, for messages. -/
def asString (text : Text) : String := String.ofList text

end Text

end RubyBlocks
