import RubyBlocks.Proofs.Splice
import RubyBlocks.Settings.Reader
import RubyBlocks.Settings.Writer

/-!
# Reading undoes quoting

The writer has five ways to put a string between quotes. In the simple ones nothing can
be taken for the closing quote: an escape begins with a backslash, and single quotes are
for strings that hold none.

Tripled quotes need an argument, because quotes may stand in the string as they are. The
reader looks at three quotes in a row, and takes up to two more for the end of the string.
The writer never lets three of them stand together, either because the string has no such
place or because it escapes the third. So whatever the reader has in front of it is a run
of at most two quotes and then something else, in which case they belong to the string, or
such a run and then the closing quotes, in which case the reader finds three to five of
them and gives back what exceeds three. Both are inductions over the string that keep
count of the quotes right in front (`readBasic_escapedLines`, `readLiteral_tripled`), and
what they say about runs of quotes is the same for the two kinds (`TakesQuotes`).
-/

namespace RubyBlocks.Settings

theorem push_some (c : Char) (text rest : Text) :
    push c (some (text, rest)) = some (c :: text, rest) := rfl

/-! ## Characters -/

theorem isPrintable_of_not_isControl {c : Char} (h : isControl c = false) :
    isPrintable c = true := by
  simp only [isControl, Bool.or_eq_false_iff, decide_eq_false_iff_not, beq_eq_false_iff_ne] at h
  simp only [isPrintable, Bool.or_eq_true, Bool.and_eq_true, decide_eq_true_eq, bne_iff_ne]
  exact Or.inr ⟨by omega, h.2⟩

theorem toNat_lt_of_isControl {c : Char} (h : isControl c = true) : c.toNat < 128 := by
  simp only [isControl, Bool.or_eq_true, decide_eq_true_eq, beq_iff_eq] at h
  omega

theorem hexValue?_hexDigit {n : Nat} (h : n < 16) : hexValue? (hexDigit n) = some n := by
  revert n
  decide

/-- What can become of a character between double quotes. -/
theorem escapedChar_cases (c : Char) :
    (∃ d, escapeChar? d = some c ∧ escapedChar c = ['\\', d]) ∨
      (isControl c = true ∧ escapedChar c =
        ['\\', 'u', '0', '0', hexDigit (c.toNat / 16), hexDigit (c.toNat % 16)]) ∨
      (isControl c = false ∧ c ≠ '"' ∧ c ≠ '\\' ∧ escapedChar c = [c]) := by
  rw [escapedChar]
  repeat' split
  -- The first seven have a letter.
  iterate 7 (subst c; exact Or.inl ⟨_, rfl, rfl⟩)
  · exact Or.inr (Or.inl ⟨‹_›, rfl⟩)
  · exact Or.inr (Or.inr ⟨by simpa using ‹¬ isControl c = true›, ‹_›, ‹_›, rfl⟩)

section

variable (tripled : Bool) (rest : Text)

theorem readBasic_char {c : Char} (hquote : c ≠ '"') (hslash : c ≠ '\\')
    (hc : (isPrintable c || (tripled && startsWithLineEnd (c :: rest))) = true) :
    readBasic tripled (.plain false) (c :: rest) =
      push c (readBasic tripled (.plain false) rest) := by
  rw [readBasic]
  simp only [Bool.false_and, Bool.false_eq_true, if_false, if_neg hquote, if_neg hslash,
    if_pos hc]

theorem readBasic_escape {c d : Char} (h : escapeChar? d = some c) :
    readBasic tripled (.plain false) ('\\' :: d :: rest) =
      push c (readBasic tripled (.plain false) rest) := by
  simp [readBasic, h]

theorem readBasic_code {n m : Nat} (hn : n < 8) (hm : m < 16) :
    readBasic tripled (.plain false)
        ('\\' :: 'u' :: '0' :: '0' :: hexDigit n :: hexDigit m :: rest) =
      push (Char.ofNat (n * 16 + m)) (readBasic tripled (.plain false) rest) := by
  have hchar : charOf? (n * 16 + m) = some (Char.ofNat (n * 16 + m)) := by
    rw [charOf?, if_pos]
    simp only [Bool.or_eq_true, decide_eq_true_eq]
    exact Or.inl (by omega)
  have hzero : hexValue? '0' = some 0 := rfl
  simp [readBasic, escapeChar?, codeDigits?, hzero, hexValue?_hexDigit hm,
    hexValue?_hexDigit (show n < 16 by omega), hchar]

theorem readBasic_escapedChar (c : Char) :
    readBasic tripled (.plain false) (escapedChar c ++ rest) =
      push c (readBasic tripled (.plain false) rest) := by
  rcases escapedChar_cases c with ⟨d, hd, heq⟩ | ⟨hcontrol, heq⟩ | ⟨hplain, hquote, hslash, heq⟩
  · rw [heq]
    exact readBasic_escape tripled rest hd
  · have hlt := toNat_lt_of_isControl hcontrol
    have hcode := readBasic_code tripled rest (show c.toNat / 16 < 8 by omega)
      (show c.toNat % 16 < 16 by omega)
    rw [show c.toNat / 16 * 16 + c.toNat % 16 = c.toNat by omega, c.ofNat_toNat] at hcode
    rw [heq]
    exact hcode
  · rw [heq]
    exact readBasic_char tripled rest hquote hslash
      (by rw [isPrintable_of_not_isControl hplain, Bool.true_or])

end

/-! ## One line -/

theorem readBasic_escaped (text rest : Text) :
    readBasic false (.plain false) (text.flatMap escapedChar ++ '"' :: rest) =
      some (text, rest) := by
  induction text with
  | nil => rfl
  | cons c text ih =>
      rw [List.flatMap_cons, List.append_assoc, readBasic_escapedChar, ih, push_some]

theorem readLiteral_char {tripled : Bool} {c : Char} {rest : Text} (hquote : c ≠ '\'')
    (hc : (isPrintable c || (tripled && startsWithLineEnd (c :: rest))) = true) :
    readLiteral tripled (c :: rest) = push c (readLiteral tripled rest) := by
  rw [readLiteral, if_neg hquote, if_pos hc]

theorem isPrintable_of_isOneLine {text : Text} (h : isOneLine text = true) {c : Char}
    (hc : c ∈ text) : isPrintable c = true := by
  have hall := List.all_eq_true.1 h c hc
  simp only [Bool.or_eq_true, Bool.not_eq_true', beq_iff_eq] at hall
  rcases hall with hplain | rfl
  · exact isPrintable_of_not_isControl hplain
  · rfl

theorem readLiteral_oneLine {text : Text} (hline : isOneLine text = true)
    (hquote : '\'' ∉ text) (rest : Text) :
    readLiteral false (text ++ '\'' :: rest) = some (text, rest) := by
  have hprintable : ∀ c ∈ text, isPrintable c = true := fun c => isPrintable_of_isOneLine hline
  clear hline
  induction text with
  | nil => rfl
  | cons c text ih =>
      rw [List.mem_cons, not_or] at hquote
      have hc := hprintable c List.mem_cons_self
      rw [List.cons_append, readLiteral_char (Ne.symm hquote.1) (by rw [hc, Bool.true_or]),
        ih hquote.2 fun d hd => hprintable d (List.mem_cons_of_mem c hd), push_some]

/-! ## Several lines -/

theorem isPrefixOf_eq_false {quote : Char} {rest : Text} (hrest : rest.head? ≠ some quote)
    (more : Text) :
    (quote :: more).isPrefixOf rest = false := by
  cases rest with
  | nil => rfl
  | cons c rest =>
      have hne : quote ≠ c := fun heq => hrest (congrArg some heq.symm)
      rw [List.isPrefixOf_cons_cons, beq_false_of_ne hne, Bool.false_and]

/-- How a reader takes a quote when it is three quotes that end the string. -/
def TakesQuotes (quote : Char) (reader : Text → Option (Text × Text)) : Prop :=
  ∀ rest, reader (quote :: rest) =
    if [quote, quote].isPrefixOf rest then some (closeTripled quote (rest.drop 2))
    else push quote (reader rest)

theorem takesQuotes_readBasic : TakesQuotes '"' (readBasic true (.plain false)) := by
  intro rest
  rw [readBasic]
  simp

theorem takesQuotes_readLiteral : TakesQuotes '\'' (readLiteral true) := by
  intro rest
  rw [readLiteral]
  simp

namespace TakesQuotes

variable {quote : Char} {reader : Text → Option (Text × Text)} {quotes : Nat} {rest : Text}

/-- Quotes that something else follows belong to the string. -/
theorem inside (h : TakesQuotes quote reader) (hquotes : quotes ≤ 2)
    (hrest : rest.head? ≠ some quote) {text after : Text}
    (hread : reader rest = some (text, after)) :
    reader (List.replicate quotes quote ++ rest) =
      some (List.replicate quotes quote ++ text, after) := by
  have hone : reader (quote :: rest) = some (quote :: text, after) := by
    rw [h, isPrefixOf_eq_false hrest, if_neg Bool.false_ne_true, hread, push_some]
  obtain rfl | rfl | rfl : quotes = 0 ∨ quotes = 1 ∨ quotes = 2 := by omega
  · exact hread
  · exact hone
  · show reader (quote :: quote :: rest) = some (quote :: quote :: text, after)
    rw [h, List.isPrefixOf_cons_cons, isPrefixOf_eq_false hrest, Bool.and_false,
      if_neg Bool.false_ne_true, hone, push_some]

/-- Quotes in front of the closing ones belong to the string. -/
theorem close (h : TakesQuotes quote reader) (hquotes : quotes ≤ 2)
    (hrest : rest.head? ≠ some quote) :
    reader (List.replicate quotes quote ++ (tripled quote ++ rest)) =
      some (List.replicate quotes quote, rest) := by
  have hthree : ∀ more : Text, reader (quote :: quote :: quote :: more) =
      some (closeTripled quote more) := by
    intro more
    rw [h, if_pos (by simp), List.drop_succ_cons, List.drop_succ_cons, List.drop_zero]
  obtain rfl | rfl | rfl : quotes = 0 ∨ quotes = 1 ∨ quotes = 2 := by omega
  · show reader (quote :: quote :: quote :: rest) = _
    simp [hthree, closeTripled, isPrefixOf_eq_false hrest]
  · show reader (quote :: quote :: quote :: quote :: rest) = _
    simp [hthree, closeTripled, isPrefixOf_eq_false hrest]
  · show reader (quote :: quote :: quote :: quote :: quote :: rest) = _
    simp [hthree, closeTripled]

end TakesQuotes

theorem head?_escapedChar (c : Char) :
    (escapedChar c).head? = some '\\' ∨
      (isControl c = false ∧ c ≠ '"' ∧ (escapedChar c).head? = some c) := by
  rcases escapedChar_cases c with ⟨d, hd, heq⟩ | ⟨hcontrol, heq⟩ | ⟨hplain, hquote, hslash, heq⟩
  · rw [heq]
    exact Or.inl rfl
  · rw [heq]
    exact Or.inl rfl
  · rw [heq]
    exact Or.inr ⟨hplain, hquote, rfl⟩

theorem head?_append_escapedChar_ne (c : Char) (rest : Text) :
    (escapedChar c ++ rest).head? ≠ some '"' := by
  rcases head?_escapedChar c with hslash | ⟨-, hquote, hhead⟩
  · simp [List.head?_append, hslash]
  · simp [List.head?_append, hhead, hquote]

/-- The induction counts the quotes right in front, which the reader has not taken yet. -/
theorem readBasic_escapedLines {rest : Text} (hrest : rest.head? ≠ some '"') (text : Text) :
    ∀ {quotes : Nat}, quotes ≤ 2 →
      readBasic true (.plain false) (List.replicate quotes '"' ++
        (escapedLines quotes text ++ (tripled '"' ++ rest))) =
        some (List.replicate quotes '"' ++ text, rest) := by
  induction text with
  | nil =>
      intro quotes hquotes
      rw [List.append_nil]
      exact takesQuotes_readBasic.close hquotes hrest
  | cons c text ih =>
      intro quotes hquotes
      rw [escapedLines]
      by_cases hquote : c = '"'
      · subst hquote
        by_cases htwo : quotes = 2
        · rw [if_pos rfl, if_pos htwo, List.append_assoc]
          refine takesQuotes_readBasic.inside hquotes (by simp) ?_
          exact (readBasic_escape true _ rfl).trans (congrArg (push '"') (ih (Nat.zero_le 2)))
        · have hnext := ih (show quotes + 1 ≤ 2 by omega)
          rw [List.replicate_succ', List.append_assoc, List.append_assoc] at hnext
          rw [if_pos rfl, if_neg htwo]
          exact hnext
      · rw [if_neg hquote, List.append_assoc]
        by_cases hline : c = '\n'
        · subst hline
          refine takesQuotes_readBasic.inside hquotes (by simp) ?_
          exact (readBasic_char true _ hquote (by decide) rfl).trans
            (congrArg (push '\n') (ih (Nat.zero_le 2)))
        · rw [if_neg hline]
          refine takesQuotes_readBasic.inside hquotes (head?_append_escapedChar_ne c _) ?_
          exact (readBasic_escapedChar true _ c).trans
            (congrArg (push c) (ih (Nat.zero_le 2)))

theorem le_two_of_untripled {quote : Char} {quotes : Nat} {text : Text}
    (h : ¬ tripled quote <:+: List.replicate quotes quote ++ text) : quotes ≤ 2 := by
  refine Nat.le_of_not_lt fun hlong => h ⟨[], List.replicate (quotes - 3) quote ++ text, ?_⟩
  have hsplit : List.replicate quotes quote =
      tripled quote ++ List.replicate (quotes - 3) quote := by
    show _ = List.replicate 3 quote ++ _
    rw [List.replicate_append_replicate, Nat.add_sub_cancel' hlong]
  rw [hsplit, List.nil_append, List.append_assoc]

theorem isManyLines_cons {c : Char} {text : Text} (h : isManyLines (c :: text) = true) :
    (isControl c = false ∨ c = '\t' ∨ c = '\n') ∧ isManyLines text = true := by
  rw [isManyLines, List.all_cons, Bool.and_eq_true] at h
  exact ⟨by simpa [or_assoc] using h.1, h.2⟩

theorem readLiteral_tripled {rest : Text} (hrest : rest.head? ≠ some '\'') (text : Text) :
    ∀ {quotes : Nat}, isManyLines text = true →
      ¬ tripled '\'' <:+: List.replicate quotes '\'' ++ text →
      readLiteral true (List.replicate quotes '\'' ++ (text ++ (tripled '\'' ++ rest))) =
        some (List.replicate quotes '\'' ++ text, rest) := by
  induction text with
  | nil =>
      intro quotes _ hpart
      rw [List.append_nil, List.nil_append]
      exact takesQuotes_readLiteral.close (le_two_of_untripled hpart) hrest
  | cons c text ih =>
      intro quotes hmany hpart
      obtain ⟨hc, htext⟩ := isManyLines_cons hmany
      by_cases hquote : c = '\''
      · subst hquote
        have hone : List.replicate quotes '\'' ++ '\'' :: text =
            List.replicate (quotes + 1) '\'' ++ text := by
          rw [List.replicate_succ', List.append_assoc]
          rfl
        rw [hone] at hpart ⊢
        rw [← ih htext hpart, List.replicate_succ', List.append_assoc]
        rfl
      · have hpart' : ¬ tripled '\'' <:+: text := fun hinside =>
          hpart (hinside.trans ⟨List.replicate quotes '\'' ++ [c], [], by simp⟩)
        refine takesQuotes_readLiteral.inside (le_two_of_untripled hpart) (by simpa using hquote) ?_
        have hprintable : ∀ more, (isPrintable c || (true && startsWithLineEnd (c :: more))) =
            true := by
          intro more
          rcases hc with hplain | rfl | rfl
          · rw [isPrintable_of_not_isControl hplain, Bool.true_or]
          · rfl
          · rfl
        rw [List.cons_append, readLiteral_char hquote (hprintable _)]
        exact congrArg (push c) (@ih 0 htext hpart')

/-! ## Strings in all their notations -/

theorem readString_basic {rest : Text} (h : ['"', '"'].isPrefixOf rest = false) :
    readString ('"' :: rest) = readBasic false (.plain false) rest := by
  rw [readString]
  rintro more rfl
  simp at h

theorem readString_literal {rest : Text} (h : ['\'', '\''].isPrefixOf rest = false) :
    readString ('\'' :: rest) = readLiteral false rest := by
  rw [readString]
  rintro more rfl
  simp at h

theorem readString_tripled_basic (rest : Text) :
    readString (tripled '"' ++ rest) = readBasic true (.plain false) (dropLineEnd rest) := rfl

theorem readString_tripled_literal (rest : Text) :
    readString (tripled '\'' ++ rest) = readLiteral true (dropLineEnd rest) := rfl

theorem dropLineEnd_eq {body : Text} (hfeed : body.head? ≠ some '\n')
    (hreturn : body.head? ≠ some '\r') : dropLineEnd body = body := by
  rw [dropLineEnd]
  · rintro rest rfl
    exact hfeed rfl
  · rintro rest rfl
    exact hreturn rfl

theorem readString_escaped {rest : Text} (hrest : rest.head? ≠ some '"') (text : Text) :
    readString (['"'] ++ text.flatMap escapedChar ++ ['"'] ++ rest) = some (text, rest) := by
  have hprefix : ['"', '"'].isPrefixOf (text.flatMap escapedChar ++ '"' :: rest) = false := by
    cases text with
    | nil =>
        show ['"', '"'].isPrefixOf ('"' :: rest) = false
        rw [List.isPrefixOf_cons_cons, isPrefixOf_eq_false hrest, Bool.and_false]
    | cons c text =>
        rw [List.flatMap_cons, List.append_assoc]
        exact isPrefixOf_eq_false (head?_append_escapedChar_ne c _) _
  rw [List.append_assoc, List.append_assoc]
  exact (readString_basic hprefix).trans (readBasic_escaped text rest)

/-- The line feed that is put in front of a string of several lines is dropped, and where
none is put nothing is dropped. -/
theorem dropLineEnd_manyLines {text body : Text}
    (hbody : '\n' ∉ text → body.head? ≠ some '\n' ∧ body.head? ≠ some '\r') :
    dropLineEnd ((if text.contains '\n' then ['\n'] else []) ++ body) = body := by
  by_cases hlines : '\n' ∈ text
  · rw [if_pos (List.contains_iff_mem.2 hlines)]
    rfl
  · rw [if_neg fun h => hlines (List.contains_iff_mem.1 h)]
    exact dropLineEnd_eq (hbody hlines).1 (hbody hlines).2

theorem readString_manyLines_escaped {rest : Text} (hrest : rest.head? ≠ some '"')
    (text : Text) :
    readString (manyLines '"' text (escapedLines 0 text) ++ rest) = some (text, rest) := by
  have hbody : '\n' ∉ text →
      (escapedLines 0 text ++ (tripled '"' ++ rest)).head? ≠ some '\n' ∧
        (escapedLines 0 text ++ (tripled '"' ++ rest)).head? ≠ some '\r' := by
    intro hlines
    cases text with
    | nil => exact ⟨by simp [escapedLines, tripled], by simp [escapedLines, tripled]⟩
    | cons c text =>
        rw [List.mem_cons, not_or] at hlines
        rw [escapedLines]
        by_cases hquote : c = '"'
        · simp [hquote]
        · rw [if_neg hquote, if_neg (Ne.symm hlines.1), List.append_assoc, List.head?_append]
          rcases head?_escapedChar c with hslash | ⟨hplain, -, hhead⟩
          · simp [hslash]
          · rw [hhead]
            have hne : c ≠ '\r' := by
              rintro rfl
              cases hplain
            simpa using ⟨Ne.symm hlines.1, hne⟩
  rw [manyLines, List.append_assoc, List.append_assoc, List.append_assoc,
    readString_tripled_basic, dropLineEnd_manyLines hbody]
  exact readBasic_escapedLines hrest text (Nat.zero_le 2)

theorem readString_manyLines_literal {rest : Text} (hrest : rest.head? ≠ some '\'')
    {text : Text} (hmany : isManyLines text = true) (hpart : ¬ tripled '\'' <:+: text) :
    readString (manyLines '\'' text text ++ rest) = some (text, rest) := by
  have hbody : '\n' ∉ text → (text ++ (tripled '\'' ++ rest)).head? ≠ some '\n' ∧
      (text ++ (tripled '\'' ++ rest)).head? ≠ some '\r' := by
    intro hlines
    cases text with
    | nil => exact ⟨by simp [tripled], by simp [tripled]⟩
    | cons c text =>
        rw [List.mem_cons, not_or] at hlines
        have hne : c ≠ '\r' := by
          rintro rfl
          rcases (isManyLines_cons hmany).1 with h | h | h <;> cases h
        simpa using ⟨Ne.symm hlines.1, hne⟩
  rw [manyLines, List.append_assoc, List.append_assoc, List.append_assoc,
    readString_tripled_literal, dropLineEnd_manyLines hbody]
  exact @readLiteral_tripled rest hrest text 0 hmany hpart

/-- A string is read back as it was, unless a quote follows that could be taken for a part
of it. -/
theorem readString_writeString {rest : Text} (hdouble : rest.head? ≠ some '"')
    (hsingle : rest.head? ≠ some '\'') (text : Text) :
    readString (writeString text ++ rest) = some (text, rest) := by
  rw [writeString]
  split
  · exact readString_escaped hdouble text
  · split
    · rename_i hbasic hliteral
      simp only [Bool.and_eq_true, Bool.not_eq_true', List.contains_eq_mem,
        decide_eq_false_iff_not] at hbasic hliteral
      have hprefix : ['\'', '\''].isPrefixOf (text ++ '\'' :: rest) = false := by
        cases text with
        | nil => simp [isOneLine] at hbasic
        | cons c text =>
            refine isPrefixOf_eq_false (fun hhead => hliteral.2 ?_) _
            exact Option.some.inj hhead ▸ List.mem_cons_self
      rw [List.append_assoc, List.append_assoc]
      exact (readString_literal hprefix).trans (readLiteral_oneLine hliteral.1 hliteral.2 rest)
    · split
      · exact readString_manyLines_escaped hdouble text
      · split
        · rename_i hliteral
          simp only [Bool.and_eq_true, Bool.not_eq_true'] at hliteral
          refine readString_manyLines_literal hsingle hliteral.1 fun hpart => ?_
          rw [Text.hasPart_iff.2 hpart] at hliteral
          cases hliteral.2
        · split
          · exact readString_manyLines_escaped hdouble text
          · exact readString_escaped hdouble text

end RubyBlocks.Settings
