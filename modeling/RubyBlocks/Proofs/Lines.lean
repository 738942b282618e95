import RubyBlocks.Document.LineEnding

/-!
# Cutting a text into lines and putting it together again

A text is cut behind every line feed. The inductions below follow the lines and not
the characters: a text is either its own last line, without a line feed, or a line,
a line feed and a shorter text (`lineInduction`).

`terminate` goes the other way. It writes lines out as raw lines, all with the same
ending and the last one possibly with none, and a text that uses one line ending
throughout is cut into raw lines of just this form (`eq_terminate`). What a toggle
writes is of this form as well, which is why a text that has been toggled can be
cut again without looking at its characters.
-/

namespace RubyBlocks

namespace Text

/-! ## Raw lines -/

theorem rawLines_of_not_mem {line : Text} (h : '\n' ∉ line) :
    rawLines line = [line] := by
  induction line with
  | nil => rfl
  | cons c line ih =>
      rw [List.mem_cons, not_or] at h
      rw [rawLines, if_neg (Ne.symm h.1), ih h.2]

theorem rawLines_line_append {line rest : Text} (h : '\n' ∉ line) :
    rawLines (line ++ '\n' :: rest) = (line ++ ['\n']) :: rawLines rest := by
  induction line with
  | nil => rw [List.nil_append, rawLines, if_pos rfl, List.nil_append]
  | cons c line ih =>
      rw [List.mem_cons, not_or] at h
      rw [List.cons_append, rawLines, if_neg (Ne.symm h.1), ih h.2]
      rfl

theorem lineInduction {motive : Text → Prop}
    (last : ∀ line, '\n' ∉ line → motive line)
    (line : ∀ line rest, '\n' ∉ line → motive rest →
      motive (line ++ '\n' :: rest)) : ∀ text, motive text := by
  have hlength : ∀ n (text : Text), text.length = n → motive text := by
    intro n
    induction n using Nat.strongRecOn with
    | ind n ih =>
        intro text hn
        by_cases hmem : '\n' ∈ text
        · obtain ⟨front, back, rfl, hfront⟩ := List.eq_append_cons_of_mem hmem
          rw [List.length_append, List.length_cons] at hn
          exact line front back hfront (ih back.length (by omega) back rfl)
        · exact last text hmem
  exact fun text => hlength text.length text rfl

theorem flatten_rawLines (text : Text) : (rawLines text).flatten = text := by
  induction text using lineInduction with
  | last line h => rw [rawLines_of_not_mem h, List.flatten_singleton]
  | line line rest h ih =>
      rw [rawLines_line_append h, List.flatten_cons, ih, List.append_assoc]
      rfl

/-- A text has a last raw line, be it empty. -/
theorem rawLines_ne_nil (text : Text) : rawLines text ≠ [] := by
  induction text using lineInduction with
  | last line h => rw [rawLines_of_not_mem h]; exact List.cons_ne_nil _ _
  | line line rest h _ =>
      rw [rawLines_line_append h]; exact List.cons_ne_nil _ _

/-- A raw line that has its line feed. -/
def Terminated (raw : Text) : Prop := ∃ line, '\n' ∉ line ∧ raw = line ++ ['\n']

/-- Complete raw lines in front of a text are cut off one by one. -/
theorem rawLines_append {raws : List Text} {rest : Text}
    (h : ∀ raw ∈ raws, Terminated raw) :
    rawLines (raws.flatten ++ rest) = raws ++ rawLines rest := by
  induction raws with
  | nil => rfl
  | cons raw raws ih =>
      obtain ⟨line, hline, rfl⟩ := h raw (by simp)
      rw [List.flatten_cons, List.append_assoc, List.append_assoc,
        List.singleton_append, rawLines_line_append hline,
        ih fun r hr => h r (List.mem_cons_of_mem _ hr), List.cons_append]

theorem terminated_of_mem_dropLast {raw : Text} (text : Text) :
    raw ∈ (rawLines text).dropLast → Terminated raw := by
  induction text using lineInduction with
  | last line h =>
      intro hmem
      rw [rawLines_of_not_mem h] at hmem
      exact absurd hmem (by simp)
  | line line rest h ih =>
      intro hmem
      rw [rawLines_line_append h,
        List.dropLast_cons_of_ne_nil (rawLines_ne_nil rest)] at hmem
      rcases List.mem_cons.1 hmem with rfl | hmem
      · exact ⟨line, h, rfl⟩
      · exact ih hmem

/-- The last raw line has no line feed. -/
theorem not_mem_of_getLast? {raw : Text} (text : Text) :
    (rawLines text).getLast? = some raw → '\n' ∉ raw := by
  induction text using lineInduction with
  | last line h =>
      intro hlast
      rw [rawLines_of_not_mem h, List.getLast?_singleton] at hlast
      injection hlast with hlast
      rwa [← hlast]
  | line line rest h ih =>
      intro hlast
      rw [rawLines_line_append h, List.getLast?_cons] at hlast
      cases hrest : (rawLines rest).getLast? with
      | none => exact absurd (List.getLast?_eq_none_iff.1 hrest) (rawLines_ne_nil rest)
      | some r =>
          rw [hrest] at hlast
          exact ih (hrest.trans hlast)

/-- Cutting starts afresh behind any line. -/
theorem rawLines_flatten_drop (text : Text) :
    ∀ {n : Nat}, n < (rawLines text).length →
      rawLines ((rawLines text).drop n).flatten = (rawLines text).drop n := by
  induction text using lineInduction with
  | last line h =>
      intro n hn
      rw [rawLines_of_not_mem h] at hn ⊢
      obtain rfl : n = 0 := by simpa using hn
      rw [List.drop_zero, List.flatten_singleton, rawLines_of_not_mem h]
  | line line rest h ih =>
      intro n hn
      cases n with
      | zero => rw [List.drop_zero, flatten_rawLines]
      | succ n =>
          rw [rawLines_line_append h, List.length_cons] at hn
          rw [rawLines_line_append h, List.drop_succ_cons]
          exact ih (by omega)

/-! ## Endings -/

theorem dropFinal_concat {text : Text} {c : Char} :
    dropFinal c (text ++ [c]) = text := by
  rw [dropFinal, if_pos List.getLast?_concat, List.dropLast_concat]

theorem dropFinal_of_ne {text : Text} {c : Char} (h : text.getLast? ≠ some c) :
    dropFinal c text = text := if_neg h

theorem withoutEnding_of_not_mem {line : Text} (h : '\n' ∉ line)
    (hr : line.getLast? ≠ some '\r') : withoutEnding line = line := by
  have hn : line.getLast? ≠ some '\n' :=
    fun hlast => h (List.mem_of_getLast? hlast)
  rw [withoutEnding, dropFinal_of_ne hn, dropFinal_of_ne hr]

/-- A line is read back from what was written of it. Behind a carriage return a
line feed alone would be taken for the longer ending. -/
theorem withoutEnding_append {line : Text} {ending : LineEnding}
    (h : ending = .lf → line.getLast? ≠ some '\r') :
    withoutEnding (line ++ ending.text) = line := by
  cases ending with
  | lf =>
      rw [LineEnding.text, withoutEnding, dropFinal_concat,
        dropFinal_of_ne (h rfl)]
  | crlf =>
      have hsplit : line ++ LineEnding.crlf.text = (line ++ ['\r']) ++ ['\n'] := by
        rw [List.append_assoc]; rfl
      rw [hsplit, withoutEnding, dropFinal_concat, dropFinal_concat]

theorem mem_of_mem_dropFinal {text : Text} {c d : Char}
    (h : d ∈ dropFinal c text) : d ∈ text := by
  rw [dropFinal] at h
  split at h
  · exact List.dropLast_subset text h
  · exact h

/-- A line has no line feed. -/
theorem not_mem_withoutEnding {text raw : Text} (h : raw ∈ rawLines text) :
    '\n' ∉ withoutEnding raw := by
  rw [← List.dropLast_concat_getLast (rawLines_ne_nil text)] at h
  rcases List.mem_append.1 h with h | h
  · obtain ⟨line, hline, rfl⟩ := terminated_of_mem_dropLast text h
    rw [withoutEnding, dropFinal_concat]
    exact fun hmem => hline (mem_of_mem_dropFinal hmem)
  · have hlast : '\n' ∉ raw := by
      refine not_mem_of_getLast? text ?_
      rw [List.getLast?_eq_some_getLast (rawLines_ne_nil text),
        ← List.mem_singleton.1 h]
    exact fun hmem => hlast (mem_of_mem_dropFinal (mem_of_mem_dropFinal hmem))

/-- Every line feed of the text belongs to the given ending: it stands behind a
carriage return, or it does not. -/
def UsesEnding (ending : LineEnding) (text : Text) : Prop :=
  ∀ k < text.length, text[k]? = some '\n' →
    ((text.take k).getLast? = some '\r' ↔ ending = .crlf)

instance (ending : LineEnding) (text : Text) :
    Decidable (UsesEnding ending text) :=
  inferInstanceAs (Decidable (∀ k < text.length, _))

theorem usesEnding_iff {ending : LineEnding} {text : Text} :
    UsesEnding ending text ↔ ∀ front back, text = front ++ '\n' :: back →
      (front.getLast? = some '\r' ↔ ending = .crlf) := by
  constructor
  · rintro h front back rfl
    have := h front.length (by simp) (by simp)
    rwa [List.take_left] at this
  · intro h k hk hget
    refine h (text.take k) (text.drop (k + 1)) ?_
    have hk' := (List.getElem?_eq_some_iff.1 hget).2
    rw [← hk', ← List.drop_eq_getElem_cons hk, List.take_append_drop]

theorem usesEnding_of_not_mem {ending : LineEnding} {line : Text}
    (h : '\n' ∉ line) : UsesEnding ending line := by
  refine usesEnding_iff.2 ?_
  rintro front back rfl
  exact absurd (by simp) h

theorem usesEnding_line_append {ending : LineEnding} {line rest : Text}
    (h : '\n' ∉ line) :
    UsesEnding ending (line ++ '\n' :: rest) ↔
      (line.getLast? = some '\r' ↔ ending = .crlf) ∧ UsesEnding ending rest := by
  -- In front of a later line feed stands the end of its own line, or a line feed.
  have hlast : ∀ t : Text, (line ++ '\n' :: t).getLast? = some '\r' ↔
      t.getLast? = some '\r' := by
    intro t
    rw [List.getLast?_append, List.getLast?_cons]
    cases t.getLast? <;> simp
  constructor
  · intro hu
    refine ⟨usesEnding_iff.1 hu line rest rfl, usesEnding_iff.2 ?_⟩
    rintro front back rfl
    have := usesEnding_iff.1 hu (line ++ '\n' :: front) back (by simp)
    rwa [hlast] at this
  · rintro ⟨hline, hrest⟩
    refine usesEnding_iff.2 fun front back heq => ?_
    rcases List.append_eq_append_iff.1 heq with ⟨t, rfl, ht⟩ | ⟨t, rfl, ht⟩
    · cases t with
      | nil => rw [List.append_nil]; exact hline
      | cons c t =>
          obtain ⟨rfl, rfl⟩ := List.cons.inj ht
          rw [hlast]
          exact usesEnding_iff.1 hrest t back rfl
    · cases t with
      | nil => rw [List.append_nil] at hline; exact hline
      | cons c t =>
          obtain ⟨rfl, -⟩ := List.cons.inj ht
          exact absurd (by simp) h

theorem terminated_eq_append_iff {ending : LineEnding} {line : Text} :
    line ++ ['\n'] = withoutEnding (line ++ ['\n']) ++ ending.text ↔
      (line.getLast? = some '\r' ↔ ending = .crlf) := by
  rw [withoutEnding, dropFinal_concat]
  by_cases hr : line.getLast? = some '\r'
  · obtain ⟨front, rfl⟩ := List.getLast?_eq_some_iff.1 hr
    rw [dropFinal_concat, List.append_assoc]
    cases ending <;> simp [LineEnding.text]
  · rw [dropFinal_of_ne hr]
    cases ending <;> simp [LineEnding.text, hr]

/-- The same, said of the raw lines: all but the last are a line and the ending. -/
theorem usesEnding_iff_rawLines {ending : LineEnding} (text : Text) :
    UsesEnding ending text ↔ ∀ raw ∈ (rawLines text).dropLast,
      raw = withoutEnding raw ++ ending.text := by
  induction text using lineInduction with
  | last line h =>
      rw [rawLines_of_not_mem h]
      constructor
      · intro _ raw hraw
        exact absurd hraw (by simp)
      · intro _
        exact usesEnding_of_not_mem h
  | line line rest h ih =>
      have hne : rawLines rest ≠ [] := rawLines_ne_nil rest
      rw [usesEnding_line_append h, ih, rawLines_line_append h,
        List.dropLast_cons_of_ne_nil hne, List.forall_mem_cons,
        terminated_eq_append_iff]

/-! ## Writing lines -/

/-- The lines as raw lines: each with the ending, only the last with `final`
instead. -/
def terminate (ending final : Text) : List Text → List Text
  | [] => []
  | [line] => [line ++ final]
  | line :: rest => (line ++ ending) :: terminate ending final rest

theorem terminate_cons {ending final line : Text} {rest : List Text}
    (h : rest ≠ []) :
    terminate ending final (line :: rest) =
      (line ++ ending) :: terminate ending final rest := by
  cases rest with
  | nil => exact absurd rfl h
  | cons next rest => rw [terminate]; exact List.cons_ne_nil _ _

theorem length_terminate {ending final : Text} :
    ∀ lines : List Text, (terminate ending final lines).length = lines.length
  | [] => rfl
  | [_] => rfl
  | line :: next :: rest => by
      rw [terminate_cons (List.cons_ne_nil _ _), List.length_cons,
        length_terminate (next :: rest)]
      rfl

theorem flatten_terminate {ending final : Text} :
    ∀ {lines : List Text}, lines ≠ [] →
      (terminate ending final lines).flatten =
        List.intercalate ending lines ++ final
  | [], h => absurd rfl h
  | [line], _ => by
      rw [terminate, List.flatten_singleton, List.intercalate_singleton]
  | line :: next :: rest, _ => by
      rw [terminate_cons (List.cons_ne_nil _ _), List.flatten_cons,
        flatten_terminate (List.cons_ne_nil _ _), List.intercalate_cons_cons,
        List.append_assoc, List.append_assoc, List.append_assoc]

/-- Raw lines with one ending are their lines written out. -/
theorem eq_terminate {ending final : Text} :
    ∀ {raws : List Text},
      (∀ raw ∈ raws.dropLast, raw = withoutEnding raw ++ ending) →
      (∀ raw, raws.getLast? = some raw → raw = withoutEnding raw ++ final) →
      raws = terminate ending final (raws.map withoutEnding)
  | [], _, _ => rfl
  | [raw], _, hlast => by
      rw [List.map_singleton, terminate, ← hlast raw rfl]
  | raw :: next :: rest, hinit, hlast => by
      rw [List.dropLast_cons_cons] at hinit
      rw [List.getLast?_cons_cons] at hlast
      have ih := eq_terminate
        (fun r hr => hinit r (List.mem_cons_of_mem _ hr)) hlast
      rw [List.map_cons, terminate_cons (by simp), ← ih, ← hinit raw (by simp)]

theorem terminate_concat {ending final last : Text} :
    ∀ lines : List Text, terminate ending final (lines ++ [last]) =
      lines.map (· ++ ending) ++ [last ++ final]
  | [] => rfl
  | line :: rest => by
      rw [List.cons_append, terminate_cons (by simp), terminate_concat rest,
        List.map_cons, List.cons_append]

/-- Lines written out are read back, and of the last one what is left without its
ending. -/
theorem map_withoutEnding_terminate {ending : LineEnding} {final last : Text}
    {init : List Text}
    (h : ending = .lf → ∀ line ∈ init, line.getLast? ≠ some '\r') :
    (terminate ending.text final (init ++ [last])).map withoutEnding =
      init ++ [withoutEnding (last ++ final)] := by
  have hinit : (init.map (· ++ ending.text)).map withoutEnding = init := by
    rw [List.map_map, List.map_congr_left (g := id), List.map_id]
    intro line hline
    exact withoutEnding_append fun he => h he line hline
  rw [terminate_concat, List.map_append, hinit, List.map_singleton]

theorem terminated_append_ending {ending : LineEnding} {line : Text}
    (h : '\n' ∉ line) : Terminated (line ++ ending.text) := by
  cases ending with
  | lf => exact ⟨line, h, rfl⟩
  | crlf => exact ⟨line ++ ['\r'], by simpa using h, by rw [List.append_assoc]; rfl⟩

/-- Written lines are cut where they were put together, in front of any text if
the last one is ended too. -/
theorem rawLines_terminate_append {ending : LineEnding} {lines : List Text}
    {rest : Text} (hne : lines ≠ []) (hfeed : ∀ line ∈ lines, '\n' ∉ line) :
    rawLines ((terminate ending.text ending.text lines).flatten ++ rest) =
      terminate ending.text ending.text lines ++ rawLines rest := by
  refine rawLines_append fun raw hraw => ?_
  obtain ⟨init, last, rfl⟩ : ∃ init last, lines = init ++ [last] :=
    ⟨_, _, (List.dropLast_concat_getLast hne).symm⟩
  rw [terminate_concat, ← List.map_singleton (f := (· ++ ending.text)),
    ← List.map_append] at hraw
  obtain ⟨line, hline, rfl⟩ := List.mem_map.1 hraw
  exact terminated_append_ending (hfeed line hline)

/-- If the last one has no ending, they are the end of the text. -/
theorem rawLines_terminate {ending : LineEnding} {lines : List Text}
    (hne : lines ≠ []) (hfeed : ∀ line ∈ lines, '\n' ∉ line) :
    rawLines (terminate ending.text [] lines).flatten =
      terminate ending.text [] lines := by
  obtain ⟨init, last, rfl⟩ : ∃ init last, lines = init ++ [last] :=
    ⟨_, _, (List.dropLast_concat_getLast hne).symm⟩
  rw [terminate_concat, List.flatten_append, List.flatten_singleton,
    rawLines_append, List.append_nil, rawLines_of_not_mem (hfeed last (by simp))]
  intro raw hraw
  obtain ⟨line, hline, rfl⟩ := List.mem_map.1 hraw
  exact terminated_append_ending (hfeed line (by simp [hline]))

end Text

end RubyBlocks
