import Mathlib.Data.List.Chain
import Mathlib.Data.List.TakeWhile
import RubyBlocks.Text.Classes

/-!
# Blanks between and around words

Folding a block squeezes every run of blanks to one space, and unfolding trims the
body. Both leave a text alone that has single spaces inside and no blanks at its
ends, and that is all the round trips need: a squeezed text is read piece by piece,
each piece either such a text (`squeeze_append`) or a run of blanks
(`squeeze_blanks_append`), and the seams are fine as long as no two blanks meet
there.

Blanks also never belong to a word, in the whole of Unicode. This is the only place
where the tables behind the two classes are compared.
-/

namespace RubyBlocks

/-- Whoever is found in a table lies in one of its runs. -/
theorem Ranges.exists_of_contains {ranges : Ranges} {n : Nat}
    (h : ranges.contains n = true) : ∃ run ∈ ranges, run.1 ≤ n ∧ n ≤ run.2 := by
  induction ranges with
  | nil => exact absurd h (by simp [Ranges.contains])
  | cons run ranges ih =>
      rw [Ranges.contains] at h
      split at h <;> rename_i hn
      · exact absurd h (by simp)
      · rw [Bool.or_eq_true, decide_eq_true_eq] at h
        rcases h with h | h
        · exact ⟨run, by simp, by omega, h⟩
        · obtain ⟨r, hr, hle⟩ := ih h
          exact ⟨r, List.mem_cons_of_mem _ hr, hle⟩

namespace Text

/-- Nothing but blanks. -/
def Blanks (text : Text) : Prop := ∀ c ∈ text, isBlank c = true

instance (text : Text) : Decidable (Blanks text) :=
  List.decidableBAll (fun c => isBlank c = true) text

/-- No blank at either end. -/
def Trimmed (text : Text) : Prop :=
  text.head?.any isBlank = false ∧ text.getLast?.any isBlank = false

instance (text : Text) : Decidable (Trimmed text) :=
  inferInstanceAs (Decidable (_ ∧ _))

/-- Every blank is a space, and no two of them are neighbours. -/
def SingleSpaced (text : Text) : Prop :=
  (∀ c ∈ text, isBlank c = true → c = ' ') ∧
    text.IsChain fun c d => ¬ (isBlank c = true ∧ isBlank d = true)

instance (text : Text) : Decidable (SingleSpaced text) :=
  have := List.decidableBAll (fun c => isBlank c = true → c = ' ') text
  inferInstanceAs (Decidable (_ ∧ _))

/-- The runs of blanks are short, so their members can be tried one by one. -/
theorem isWord_of_isBlank {c : Char} (h : isBlank c = true) :
    isWord c = false := by
  have hall : ∀ run ∈ blank, ∀ n ∈ List.range' run.1 (run.2 + 1 - run.1),
      (alphabetic.contains n || mark.contains n || decimalDigit.contains n ||
        connector.contains n) = false := by
    decide +kernel
  obtain ⟨run, hrun, hle⟩ := Ranges.exists_of_contains h
  have hmem : c.toNat ∈ List.range' run.1 (run.2 + 1 - run.1) :=
    List.mem_range'_1.2 (by omega)
  rw [isWord, hall run hrun c.toNat hmem, Bool.false_and]

/-! The characters that delimit blocks, their arguments and lines are looked up once. -/

@[simp] theorem isBlank_space : isBlank ' ' = true := by decide

@[simp] theorem isBlank_lineFeed : isBlank '\n' = true := by decide

@[simp] theorem isBlank_carriageReturn : isBlank '\r' = true := by decide

@[simp] theorem isBlank_bar : isBlank '|' = false := by decide

@[simp] theorem isBlank_openingBrace : isBlank '{' = false := by decide

@[simp] theorem isBlank_closingBrace : isBlank '}' = false := by decide

@[simp] theorem isWord_space : isWord ' ' = false :=
  isWord_of_isBlank isBlank_space

@[simp] theorem isWord_openingBrace : isWord '{' = false := by decide

@[simp] theorem isWord_closingBrace : isWord '}' = false := by decide

theorem blanks_space : Blanks [' '] := by simp [Blanks]

theorem Blanks.append {v w : Text} (hv : Blanks v) (hw : Blanks w) :
    Blanks (v ++ w) := by
  intro c hc
  rcases List.mem_append.1 hc with h | h
  · exact hv c h
  · exact hw c h

/-! ## Single spaces -/

theorem SingleSpaced.tail {c : Char} {text : Text}
    (h : SingleSpaced (c :: text)) : SingleSpaced text :=
  ⟨fun d hd => h.1 d (List.mem_cons_of_mem _ hd), h.2.tail⟩

/-- The pieces fit together as soon as no two blanks meet. -/
theorem SingleSpaced.append {left right : Text} (hl : SingleSpaced left)
    (hr : SingleSpaced right)
    (hseam : left.getLast?.any isBlank = false ∨
      right.head?.any isBlank = false) : SingleSpaced (left ++ right) := by
  constructor
  · intro c hc
    rcases List.mem_append.1 hc with h | h
    · exact hl.1 c h
    · exact hr.1 c h
  · refine List.isChain_append.2 ⟨hl.2, hr.2, fun c hc d hd hblank => ?_⟩
    rw [Option.mem_def] at hc hd
    rw [hc, hd] at hseam
    simp [hblank.1, hblank.2] at hseam

theorem SingleSpaced.concat {text : Text} {c : Char} (ht : SingleSpaced text)
    (hc : isBlank c = false) : SingleSpaced (text ++ [c]) := by
  have hone : SingleSpaced [c] := by
    refine ⟨fun d hd hb => ?_, List.isChain_singleton c⟩
    rw [List.mem_singleton.1 hd, hc] at hb
    exact absurd hb (by simp)
  exact ht.append hone (Or.inr (by simpa using hc))

theorem SingleSpaced.not_mem {text : Text} {c : Char} (ht : SingleSpaced text)
    (hc : isBlank c = true) (hne : c ≠ ' ') : c ∉ text :=
  fun hmem => hne (ht.1 c hmem hc)

theorem squeezeFrom_of_head {inRun : Bool} {text : Text}
    (h : text.head?.any isBlank = false) :
    squeezeFrom inRun text = squeeze text := by
  cases text with
  | nil => rfl
  | cons c text =>
      have hc : isBlank c = false := by simpa using h
      simp [squeeze, squeezeFrom, hc]

theorem squeezeFrom_true_append {blanks rest : Text} (hb : Blanks blanks) :
    squeezeFrom true (blanks ++ rest) = squeezeFrom true rest := by
  induction blanks with
  | nil => rfl
  | cons c blanks ih =>
      rw [List.cons_append, squeezeFrom, if_pos (hb c (by simp)), if_pos rfl]
      exact ih fun d hd => hb d (List.mem_cons_of_mem _ hd)

/-- A run of blanks becomes one space. -/
theorem squeeze_blanks_append {blanks rest : Text} (hb : Blanks blanks)
    (hne : blanks ≠ []) (hrest : rest.head?.any isBlank = false) :
    squeeze (blanks ++ rest) = ' ' :: squeeze rest := by
  cases blanks with
  | nil => exact absurd rfl hne
  | cons c blanks =>
      have hrun : squeezeFrom true (blanks ++ rest) = squeezeFrom true rest :=
        squeezeFrom_true_append fun d hd => hb d (List.mem_cons_of_mem _ hd)
      rw [List.cons_append, squeeze, squeezeFrom, if_pos (hb c (by simp)),
        if_neg (by simp), hrun, squeezeFrom_of_head hrest]

/-- A text with single spaces stays as it is. -/
theorem squeeze_append {text rest : Text} (hs : SingleSpaced text)
    (hlast : text.getLast?.any isBlank = false) :
    squeeze (text ++ rest) = text ++ squeeze rest := by
  induction text with
  | nil => rfl
  | cons c text ih =>
      have htail : text.getLast?.any isBlank = false := by
        cases text with
        | nil => rfl
        | cons d text => rwa [List.getLast?_cons_cons] at hlast
      by_cases hc : isBlank c = true
      · -- A space is not the last character, and no blank follows it.
        cases text with
        | nil => simp [hc] at hlast
        | cons d text =>
            have hd : isBlank d = false := by
              have := (List.isChain_cons_cons.1 hs.2).1
              simpa [hc] using this
            rw [List.cons_append, squeeze, squeezeFrom, if_pos hc,
              if_neg (by simp), squeezeFrom_of_head (by simpa using hd),
              ih hs.tail htail, hs.1 c (by simp) hc]
            rfl
      · rw [List.cons_append, squeeze, squeezeFrom, if_neg hc,
          ← squeeze, ih hs.tail htail, List.cons_append]

/-! ## Ends -/

theorem dropWhile_of_head {p : Char → Bool} {text : Text}
    (h : text.head?.any p = false) : text.dropWhile p = text := by
  cases text with
  | nil => rfl
  | cons c text => exact List.dropWhile_cons_of_neg (by simpa using h)

theorem head?_dropWhile (p : Char → Bool) (text : Text) :
    (text.dropWhile p).head?.any p = false := by
  have hhead := List.head?_dropWhile_not p text
  cases h : (text.dropWhile p).head? with
  | none => rfl
  | some c => rw [h] at hhead; exact hhead

theorem dropTrailing_append_left {p : Char → Bool} {front : Text} (back : Text)
    (hlast : front.getLast?.any p = false) :
    dropTrailing p (front ++ back) = front ++ dropTrailing p back := by
  rw [← List.head?_reverse] at hlast
  rw [dropTrailing, List.reverse_append, List.dropWhile_append, dropTrailing]
  split <;> rename_i hempty
  · rw [dropWhile_of_head hlast, List.isEmpty_iff.1 hempty]
    simp
  · rw [List.reverse_append, List.reverse_reverse]

theorem dropTrailing_eq_nil {p : Char → Bool} {text : Text}
    (h : ∀ c ∈ text, p c = true) : dropTrailing p text = [] := by
  rw [dropTrailing, List.reverse_eq_nil_iff, List.dropWhile_eq_nil_iff]
  exact fun c hc => h c (List.mem_reverse.1 hc)

theorem dropTrailing_append {p : Char → Bool} {text tail : Text}
    (htail : ∀ c ∈ tail, p c = true) (hlast : text.getLast?.any p = false) :
    dropTrailing p (text ++ tail) = text := by
  rw [dropTrailing_append_left tail hlast, dropTrailing_eq_nil htail, List.append_nil]

theorem getLast?_append_ne {front back : Text} {c : Char} (hne : back ≠ [])
    (h : c ∉ back) : (front ++ back).getLast? ≠ some c := by
  rw [List.getLast?_append, Option.or_of_isSome (List.getLast?_isSome.2 hne)]
  exact fun hl => h (List.mem_of_getLast? hl)

/-- Blanks in front of a piece that starts and ends in none are trimmed, and the piece
stays. -/
theorem trim_blanks_append {blanks front : Text} (back : Text) (hb : Blanks blanks)
    (hne : front ≠ []) (hfront : Trimmed front) :
    trim (blanks ++ (front ++ back)) = front ++ dropTrailing isBlank back := by
  have hhead : (front ++ back).head?.any isBlank = false := by
    rw [List.head?_append_of_ne_nil front hne]
    exact hfront.1
  rw [trim, List.dropWhile_append_of_pos hb, dropWhile_of_head hhead,
    dropTrailing_append_left back hfront.2]

/-- Trimming takes the blanks around a trimmed text away. -/
theorem trim_blanks {left text right : Text} (hl : Blanks left)
    (ht : Trimmed text) (hr : Blanks right) :
    trim (left ++ (text ++ right)) = text := by
  cases text with
  | nil =>
      have hnone : (left ++ right).dropWhile isBlank = [] :=
        List.dropWhile_eq_nil_iff.2 (hl.append hr)
      rw [List.nil_append, trim, hnone]
      rfl
  | cons c text =>
      rw [trim_blanks_append right hl (List.cons_ne_nil c text) ht,
        dropTrailing_eq_nil hr, List.append_nil]

/-- Blanks in front are gone after squeezing and dropping them. -/
theorem dropWhile_squeeze_append {blanks rest : Text} (hb : Blanks blanks)
    (hrest : rest.head?.any isBlank = false) :
    (squeeze (blanks ++ rest)).dropWhile isBlank = squeeze rest := by
  have hstart : (squeeze rest).head?.any isBlank = false := by
    cases rest with
    | nil => rfl
    | cons c rest =>
        have hc : isBlank c = false := by simpa using hrest
        rw [squeeze, squeezeFrom, if_neg (by simp [hc])]
        simpa using hc
  by_cases hnil : blanks = []
  · rw [hnil, List.nil_append, dropWhile_of_head hstart]
  · rw [squeeze_blanks_append hb hnil hrest,
      List.dropWhile_cons_of_pos isBlank_space, dropWhile_of_head hstart]

theorem blanks_takeWhile (text : Text) : Blanks (text.takeWhile isBlank) :=
  List.all_eq_true.1 List.all_takeWhile

theorem indentation_append {blanks rest : Text} (hb : Blanks blanks)
    (hrest : rest.head?.any isBlank = false) :
    indentation (blanks ++ rest) = blanks := by
  have hstop : rest.takeWhile isBlank = [] := by
    cases rest with
    | nil => rfl
    | cons c rest => exact List.takeWhile_cons_of_neg (by simpa using hrest)
  rw [indentation, List.takeWhile_append_of_pos hb, hstop, List.append_nil]

end Text

end RubyBlocks
