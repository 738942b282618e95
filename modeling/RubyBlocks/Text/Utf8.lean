import RubyBlocks.Text.Basic

/-!
# UTF-8

Files hold bytes and the program works on characters, so reading a file means
decoding it. Only well-formed UTF-8 is accepted: no stray continuation bytes, no
overlong forms, no surrogates, nothing above U+10FFFF.

A file that is refused is refused with the place of the damage. `Fault.index` is
the length of the part before it, and an invalid sequence also has a length: the
bytes that could still have begun a character, at least one. When the file ends
inside a sequence that was right so far, there is nothing wrong in it but the end,
and that is the second kind of fault.
-/

namespace RubyBlocks

/-- The content of a file. -/
abbrev Bytes := List UInt8

namespace Utf8

/-- Why a sequence of bytes is not UTF-8. -/
inductive Fault where
  /-- `length` bytes from `index` on begin no character. -/
  | invalid (index length : Nat)
  /-- The bytes end inside the character that starts at `index`. -/
  | incomplete (index : Nat)
deriving Repr, DecidableEq

/-- What a fault is called in a message. -/
def Fault.message : Fault → String
  | .invalid index length =>
    s!"invalid utf-8 sequence of {length} bytes from index {index}"
  | .incomplete index => s!"incomplete utf-8 byte sequence from index {index}"

/-! ## Writing -/

/-- A byte that continues a character, with the low six bits of `n`. -/
def continuation (n : Nat) : UInt8 := UInt8.ofNat (0x80 + n % 0x40)

/-- The bytes of one character. -/
def encodeChar (c : Char) : Bytes :=
  let n := c.toNat
  if n < 0x80 then [UInt8.ofNat n]
  else if n < 0x800 then [UInt8.ofNat (0xC0 + n / 0x40), continuation n]
  else if n < 0x10000 then
    [UInt8.ofNat (0xE0 + n / 0x1000), continuation (n / 0x40), continuation n]
  else
    [UInt8.ofNat (0xF0 + n / 0x40000), continuation (n / 0x1000), continuation (n / 0x40),
      continuation n]

/-- The bytes of a text. -/
def encode (text : Text) : Bytes := text.flatMap encodeChar

/-! ## Reading

The first byte of a character tells how many follow, and for four of the first
bytes the range of the second is narrower than that of a continuation byte: that is
what rules out overlong forms, surrogates and numbers that are too large. -/

/-- Whether a byte continues a character. -/
def isContinuation (b : UInt8) : Bool := 0x80 ≤ b.toNat && b.toNat ≤ 0xBF

/-- How many bytes a character has that starts with this byte, if one can. -/
def width? (first : UInt8) : Option Nat :=
  let n := first.toNat
  if n < 0x80 then some 1
  else if n < 0xC2 then none
  else if n < 0xE0 then some 2
  else if n < 0xF0 then some 3
  else if n < 0xF5 then some 4
  else none

/-- Whether a byte can be the second of a character that starts with `first`. -/
def isSecond (first second : UInt8) : Bool :=
  let low := if first.toNat = 0xE0 then 0xA0 else if first.toNat = 0xF0 then 0x90 else 0x80
  let high := if first.toNat = 0xED then 0x9F else if first.toNat = 0xF4 then 0x8F else 0xBF
  low ≤ second.toNat && second.toNat ≤ high

/-- The number that a byte contributes when it continues a character. -/
def lowBits (b : UInt8) : Nat := b.toNat - 0x80

/-- Decodes the bytes from `index` on. -/
def decodeFrom (index : Nat) : Bytes → Except Fault Text
  | [] => .ok []
  | a :: rest =>
    match width? a with
    | some 1 => (decodeFrom (index + 1) rest).map (Char.ofNat a.toNat :: ·)
    | some 2 =>
      match rest with
      | [] => .error (.incomplete index)
      | b :: rest =>
        if isContinuation b then
          (decodeFrom (index + 2) rest).map
            (Char.ofNat ((a.toNat - 0xC0) * 0x40 + lowBits b) :: ·)
        else .error (.invalid index 1)
    | some 3 =>
      match rest with
      | [] => .error (.incomplete index)
      | b :: rest =>
        if isSecond a b then
          match rest with
          | [] => .error (.incomplete index)
          | c :: rest =>
            if isContinuation c then
              (decodeFrom (index + 3) rest).map
                (Char.ofNat ((a.toNat - 0xE0) * 0x1000 + lowBits b * 0x40 + lowBits c) :: ·)
            else .error (.invalid index 2)
        else .error (.invalid index 1)
    | some _ =>
      match rest with
      | [] => .error (.incomplete index)
      | b :: rest =>
        if isSecond a b then
          match rest with
          | [] => .error (.incomplete index)
          | c :: rest =>
            if isContinuation c then
              match rest with
              | [] => .error (.incomplete index)
              | d :: rest =>
                if isContinuation d then
                  (decodeFrom (index + 4) rest).map
                    (Char.ofNat ((a.toNat - 0xF0) * 0x40000 + lowBits b * 0x1000 +
                      lowBits c * 0x40 + lowBits d) :: ·)
                else .error (.invalid index 3)
            else .error (.invalid index 2)
        else .error (.invalid index 1)
    | none => .error (.invalid index 1)

/-- The text that the bytes encode, or what is wrong with them. -/
def decode (bytes : Bytes) : Except Fault Text := decodeFrom 0 bytes

end Utf8

end RubyBlocks
