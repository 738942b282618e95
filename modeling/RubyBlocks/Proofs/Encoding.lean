import RubyBlocks.Text.Utf8

/-!
# Decoding undoes encoding

A character is written with one to four bytes, according to its number, and the first
of them says how many there are. What has to be checked is that the reader's conditions
on the bytes, which are there to refuse overlong forms, surrogates and numbers that are
too large, are met by the bytes of every character. They are because a character takes
the shortest form that holds its number, and because there are no characters where the
surrogates are or beyond the largest number.
-/

namespace RubyBlocks.Utf8

/-! ## Reading one character -/

section

variable {index : Nat} {a b c d : UInt8} {rest : Bytes}

theorem decodeFrom_one (hw : width? a = some 1) :
    decodeFrom index (a :: rest) =
      (decodeFrom (index + 1) rest).map (Char.ofNat a.toNat :: ·) := by
  rw [decodeFrom.eq_def]
  simp only [hw]

theorem decodeFrom_two (hw : width? a = some 2) (hb : isContinuation b = true) :
    decodeFrom index (a :: b :: rest) = (decodeFrom (index + 2) rest).map
      (Char.ofNat ((a.toNat - 0xC0) * 0x40 + lowBits b) :: ·) := by
  rw [decodeFrom.eq_def]
  simp only [hw, hb, if_true]

theorem decodeFrom_three (hw : width? a = some 3) (hb : isSecond a b = true)
    (hc : isContinuation c = true) :
    decodeFrom index (a :: b :: c :: rest) = (decodeFrom (index + 3) rest).map
      (Char.ofNat ((a.toNat - 0xE0) * 0x1000 + lowBits b * 0x40 + lowBits c) :: ·) := by
  rw [decodeFrom.eq_def]
  simp only [hw, hb, hc, if_true]

theorem decodeFrom_four (hw : width? a = some 4) (hb : isSecond a b = true)
    (hc : isContinuation c = true) (hd : isContinuation d = true) :
    decodeFrom index (a :: b :: c :: d :: rest) = (decodeFrom (index + 4) rest).map
      (Char.ofNat ((a.toNat - 0xF0) * 0x40000 + lowBits b * 0x1000 + lowBits c * 0x40 +
        lowBits d) :: ·) := by
  rw [decodeFrom.eq_def]
  simp only [hw, hb, hc, hd, if_true]

end

/-! ## Bytes as they are written -/

theorem toNat_byte {n : Nat} (h : n < 256) : (UInt8.ofNat n).toNat = n :=
  UInt8.toNat_ofNat_of_lt h

theorem toNat_continuation (n : Nat) : (continuation n).toNat = 0x80 + n % 0x40 :=
  toNat_byte (by omega)

theorem isContinuation_continuation (n : Nat) : isContinuation (continuation n) = true := by
  simp only [isContinuation, toNat_continuation, Bool.and_eq_true, decide_eq_true_eq]
  omega

theorem lowBits_continuation (n : Nat) : lowBits (continuation n) = n % 0x40 := by
  have h := toNat_continuation n
  generalize continuation n = byte at h ⊢
  show byte.toNat - 0x80 = _
  omega

/-- The four first bytes that do not take every continuation byte behind them. -/
theorem isSecond_continuation {first : UInt8} {n : Nat}
    (hlong : first.toNat = 0xE0 → 0x20 ≤ n % 0x40) (hlong' : first.toNat = 0xF0 → 0x10 ≤ n % 0x40)
    (hsurrogate : first.toNat = 0xED → n % 0x40 < 0x20)
    (hlarge : first.toNat = 0xF4 → n % 0x40 < 0x10) :
    isSecond first (continuation n) = true := by
  simp only [isSecond, toNat_continuation, Bool.and_eq_true, decide_eq_true_eq]
  constructor
  · repeat' split
    all_goals omega
  · repeat' split
    all_goals omega

theorem decodeFrom_encodeChar (index : Nat) (char : Char) (rest : Bytes) :
    ∃ next, decodeFrom index (encodeChar char ++ rest) =
      (decodeFrom next rest).map (char :: ·) := by
  have hvalid : char.toNat < 0xD800 ∨ 0xDFFF < char.toNat ∧ char.toNat < 0x110000 :=
    char.valid
  have hchar := char.ofNat_toNat
  simp only [encodeChar]
  generalize char.toNat = n at hvalid hchar ⊢
  subst hchar
  split
  · rename_i h1
    have ha := toNat_byte (show n < 256 by omega)
    have hw : width? (UInt8.ofNat n) = some 1 := by
      simp only [width?, ha]
      rw [if_pos h1]
    refine ⟨index + 1, (decodeFrom_one hw).trans ?_⟩
    rw [ha]
    rfl
  · split
    · rename_i h1 h2
      have ha := toNat_byte (show 0xC0 + n / 0x40 < 256 by omega)
      have hw : width? (UInt8.ofNat (0xC0 + n / 0x40)) = some 2 := by
        simp only [width?, ha]
        rw [if_neg (by omega), if_neg (by omega), if_pos (by omega)]
      have hn : (0xC0 + n / 0x40 - 0xC0) * 0x40 + n % 0x40 = n := by omega
      refine ⟨index + 2, (decodeFrom_two hw (isContinuation_continuation n)).trans ?_⟩
      rw [ha, lowBits_continuation, hn]
      rfl
    · split
      · rename_i h1 h2 h3
        have ha := toNat_byte (show 0xE0 + n / 0x1000 < 256 by omega)
        have hw : width? (UInt8.ofNat (0xE0 + n / 0x1000)) = some 3 := by
          simp only [width?, ha]
          rw [if_neg (by omega), if_neg (by omega), if_neg (by omega), if_pos (by omega)]
        have hb : isSecond (UInt8.ofNat (0xE0 + n / 0x1000)) (continuation (n / 0x40)) =
            true := by
          apply isSecond_continuation <;> rw [ha] <;> omega
        have hn : (0xE0 + n / 0x1000 - 0xE0) * 0x1000 + n / 0x40 % 0x40 * 0x40 +
            n % 0x40 = n := by omega
        refine ⟨index + 3, (decodeFrom_three hw hb (isContinuation_continuation n)).trans ?_⟩
        rw [ha, lowBits_continuation, lowBits_continuation, hn]
        rfl
      · rename_i h1 h2 h3
        have ha := toNat_byte (show 0xF0 + n / 0x40000 < 256 by omega)
        have hw : width? (UInt8.ofNat (0xF0 + n / 0x40000)) = some 4 := by
          simp only [width?, ha]
          rw [if_neg (by omega), if_neg (by omega), if_neg (by omega), if_neg (by omega),
            if_pos (by omega)]
        have hb : isSecond (UInt8.ofNat (0xF0 + n / 0x40000)) (continuation (n / 0x1000)) =
            true := by
          apply isSecond_continuation <;> rw [ha] <;> omega
        have hn : (0xF0 + n / 0x40000 - 0xF0) * 0x40000 + n / 0x1000 % 0x40 * 0x1000 +
            n / 0x40 % 0x40 * 0x40 + n % 0x40 = n := by omega
        refine ⟨index + 4, (decodeFrom_four hw hb (isContinuation_continuation _)
          (isContinuation_continuation n)).trans ?_⟩
        rw [ha, lowBits_continuation, lowBits_continuation, lowBits_continuation, hn]
        rfl

theorem decode_encode (text : Text) : decode (encode text) = .ok text := by
  have hfrom : ∀ index, decodeFrom index (encode text) = .ok text := by
    induction text with
    | nil => exact fun _ => rfl
    | cons char text ih =>
        intro index
        obtain ⟨next, hnext⟩ := decodeFrom_encodeChar index char (encode text)
        rw [encode, List.flatMap_cons, ← encode, hnext, ih]
        rfl
  exact hfrom 0

end RubyBlocks.Utf8
