import RubyBlocks.Text.Classes

/-!
# Texts in quotation marks

A message that names a text the user wrote puts it between double quotes, so that
an empty text or one that ends in a space is still seen. Inside, the quotation
mark and the backslash are escaped, and so is every character that would not show
up as itself.
-/

namespace RubyBlocks.Text

/-- A character by its code point, in lower-case hexadecimal between braces. -/
def codePointEscape (c : Char) : Text :=
  ['\\', 'u', '{'] ++ Nat.toDigits 16 c.toNat ++ ['}']

/-- A character as it is written between double quotes. -/
def quotedChar (c : Char) : Text :=
  if c = '"' then ['\\', '"']
  else if c = '\\' then ['\\', '\\']
  else if c = '\n' then ['\\', 'n']
  else if c = '\r' then ['\\', 'r']
  else if c = '\t' then ['\\', 't']
  else if c = '\x00' then ['\\', '0']
  else if isShowable c then [c]
  else codePointEscape c

/-- The text between double quotes. -/
def quoted (text : Text) : Text := ['"'] ++ text.flatMap quotedChar ++ ['"']

end RubyBlocks.Text
