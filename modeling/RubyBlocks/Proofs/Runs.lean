import RubyBlocks.Proofs.Edit

/-!
# Line endings over a run of calls

A document is worked on by calls: blocks are toggled, toggles are looked at without
being applied, something is selected. Some of the toggles fail. `run` makes the calls
of a list one after the other, and since the list is arbitrary, what holds of the
document that is left in the end holds of the document after every single call.

A text whose lines all end the same way keeps this ending. Two things could go wrong.
The ending of new lines is read off the lines they replace, and where these have none
it is the one the document was opened with, which by then need not be found anywhere
in the text: a document may be folded to a single line without an ending and unfolded
again. And a line feed behind a new line that ends in a carriage return would make the
longer ending where the text has the short one. `getLast?_of_converts` says that there
is no such line.

Whether the text ends in a line feed does not change either. The last of the new lines
gets an ending if and only if the last of the replaced ones had one, and it has a
delimiter on it and is not empty, so it does not turn the ending in front of it into
the last character of the text. What is selected plays no part in any of this.
-/

namespace RubyBlocks

namespace Document

/-! ## Calls -/

/-- A call on a document. -/
inductive Action where
  | toggle (line : Nat)
  | preview (line : Nat)
  | select (selection : Span)
deriving Repr, DecidableEq

/-- What a call answers. -/
inductive Answer where
  | toggled (change : Change)
  | previewed (toggled : Toggled)
  | selected
  | failed (error : BlockError)
deriving Repr, DecidableEq

/-- Whether the call was a toggle that succeeded. -/
def Answer.isToggled : Answer → Bool
  | toggled _ => true
  | _ => false

/-- The answer to a call, and the document after it. -/
def perform (doc : Document) : Action → Answer × Document
  | .toggle line =>
    match doc.toggle line with
    | .ok (next, change) => (.toggled change, next)
    | .error error => (.failed error, doc)
  | .preview line =>
    match doc.preview line with
    | .ok toggled => (.previewed toggled, doc)
    | .error error => (.failed error, doc)
  | .select selection => (.selected, doc.select selection)

/-- The answers to one call after the other, and the document after the last. -/
def run (doc : Document) : List Action → List Answer × Document
  | [] => ([], doc)
  | action :: rest =>
    let (answer, next) := doc.perform action
    let (answers, last) := next.run rest
    (answer :: answers, last)

theorem perform_toggle_cases (doc : Document) (line : Nat) :
    (∃ toggled, doc.preview line = .ok toggled ∧ doc.perform (.toggle line) =
        (.toggled (doc.change toggled), doc.apply toggled)) ∨
      ∃ error, doc.perform (.toggle line) = (.failed error, doc) := by
  cases h : doc.preview line with
  | ok toggled => exact Or.inl ⟨toggled, rfl, by simp [perform, toggle, h, Except.map]⟩
  | error error => exact Or.inr ⟨error, by simp [perform, toggle, h, Except.map]⟩

/-! ## One toggle -/

section

variable {doc : Document} {toggled : Toggled} {cursor : Nat}

theorem uniform_of_preview (hu : doc.Uniform)
    (h : doc.preview cursor = .ok toggled) : (doc.apply toggled).Uniform := by
  obtain ⟨block, own, new, hencl, hown, hconv, rfl⟩ := Block.exists_of_toggle h
  have hreplaces := replaces_of_converts hencl hown hconv
  obtain ⟨init, last, hlines⟩ := hreplaces.exists_concat
  obtain rfl : new = init ++ [last] := hlines
  have hlf : doc.lineEnding = .lf → _ := fun he =>
    getLast?_of_converts hencl hown hconv ((endingFor_replaced hu hreplaces).trans he)
  exact uniform_apply hu hreplaces rfl (fun he => (hlf he).1) fun he => (hlf he).2

theorem getLast?_replacement (h : doc.Replaces toggled)
    (hlast : toggled.lines.getLast? ≠ some []) :
    ∃ c, (doc.replacement toggled).getLast? = some c ∧
      (c = '\n' ↔ (doc.replaced toggled).getLast? = some '\n') := by
  simp only [replacement]
  by_cases hfeed : (doc.replaced toggled).getLast? = some '\n'
  · refine ⟨'\n', ?_, by simp [hfeed]⟩
    rw [if_pos hfeed, List.getLast?_append]
    cases doc.endingFor (doc.replaced toggled) <;> rfl
  · obtain ⟨init, last, hlines⟩ := h.exists_concat
    rw [hlines, List.getLast?_concat] at hlast
    obtain ⟨c, hc⟩ : ∃ c, last.getLast? = some c := by
      cases hl : last.getLast? with
      | none => exact absurd (congrArg some (List.getLast?_eq_none_iff.1 hl)) hlast
      | some c => exact ⟨c, rfl⟩
    have hne : c ≠ '\n' := by
      rintro rfl
      exact h.no_feed last (by rw [hlines]; simp) (List.mem_of_getLast? hc)
    refine ⟨c, ?_, by simp [hfeed, hne]⟩
    rw [if_neg hfeed, ← Text.flatten_terminate h.lines_ne, hlines, Text.terminate_concat,
      List.flatten_append, List.flatten_singleton, List.append_nil, List.getLast?_append,
      hc, Option.some_or]

theorem getLast?_apply (h : doc.Replaces toggled)
    (hlast : toggled.lines.getLast? ≠ some []) :
    (doc.apply toggled).text.getLast? = some '\n' ↔ doc.text.getLast? = some '\n' := by
  have htext := doc.text_eq_append h.start_le
  obtain ⟨raw, -, hne, -, hraw⟩ := exists_rawReplaced_eq h
  obtain ⟨c, hc, hiff⟩ := getLast?_replacement h hlast
  rw [List.getLast?_eq_some_getLast hne] at hraw
  show (doc.before toggled ++ doc.replacement toggled ++
    doc.after toggled).getLast? = _ ↔ _
  rw [htext, ← List.append_assoc]
  simp only [List.getLast?_append, hc, hraw, Option.some_or] at hiff ⊢
  cases (doc.after toggled).getLast? with
  | none => simpa using hiff
  | some d => simp

theorem getLast?_of_preview (h : doc.preview cursor = .ok toggled) :
    (doc.apply toggled).text.getLast? = some '\n' ↔ doc.text.getLast? = some '\n' := by
  obtain ⟨block, own, new, hencl, hown, hconv, rfl⟩ := Block.exists_of_toggle h
  obtain ⟨last, hlast, hseen⟩ := hencl.exists_getLast? hown
  exact getLast?_apply (replaces_of_converts hencl hown hconv)
    (hconv.getLast?_ne_nil hlast hseen)

end

/-! ## A run -/

/-- What becomes of a document while calls are made on it that give these answers. -/
structure Keeps (doc last : Document) (answers : List Answer) : Prop where
  lineEnding_eq : last.lineEnding = doc.lineEnding
  uniform : doc.Uniform → last.Uniform
  final_feed : last.text.getLast? = some '\n' ↔ doc.text.getLast? = some '\n'
  version_eq : last.version = doc.version + answers.countP Answer.isToggled

theorem keeps_perform (doc : Document) (action : Action) :
    doc.Keeps (doc.perform action).2 [(doc.perform action).1] := by
  cases action with
  | toggle line =>
      rcases doc.perform_toggle_cases line with ⟨toggled, hpreview, heq⟩ | ⟨error, heq⟩
      · rw [heq]
        exact ⟨rfl, fun hu => uniform_of_preview hu hpreview,
          getLast?_of_preview hpreview, rfl⟩
      · rw [heq]
        exact ⟨rfl, id, Iff.rfl, rfl⟩
  | preview line =>
      simp only [perform]
      cases doc.preview line with
      | ok toggled => exact ⟨rfl, id, Iff.rfl, rfl⟩
      | error error => exact ⟨rfl, id, Iff.rfl, rfl⟩
  | select selection => exact ⟨rfl, id, Iff.rfl, rfl⟩

theorem keeps_run (actions : List Action) :
    ∀ doc : Document, doc.Keeps (doc.run actions).2 (doc.run actions).1 := by
  induction actions with
  | nil => intro doc; exact ⟨rfl, id, Iff.rfl, rfl⟩
  | cons action rest ih =>
      intro doc
      have hstep := doc.keeps_perform action
      have hrest := ih (doc.perform action).2
      refine ⟨hrest.lineEnding_eq.trans hstep.lineEnding_eq,
        fun hu => hrest.uniform (hstep.uniform hu),
        hrest.final_feed.trans hstep.final_feed, ?_⟩
      have hversion := hrest.version_eq
      rw [hstep.version_eq, List.countP_singleton] at hversion
      show ((doc.perform action).2.run rest).2.version = doc.version +
        ((doc.perform action).1 :: ((doc.perform action).2.run rest).1).countP _
      rw [hversion, List.countP_cons]
      omega

theorem length_run (actions : List Action) :
    ∀ doc : Document, (doc.run actions).1.length = actions.length := by
  induction actions with
  | nil => intro doc; rfl
  | cons action rest ih => intro doc; exact congrArg (· + 1) (ih _)

theorem version_ofBytes {bytes : Bytes} {doc : Document} (h : ofBytes bytes = .ok doc) :
    doc.version = 0 := by
  rw [ofBytes] at h
  cases hd : Utf8.decode bytes with
  | error fault => rw [hd] at h; cases h
  | ok text => rw [hd] at h; cases h; rfl

/-- However a document is worked on, a text with one kind of line ending keeps it, and
the version counts the toggles that succeeded. It is at most the number of calls and
does not outgrow 64 bits before they do. -/
theorem run_keeps_ending {bytes : Bytes} {doc : Document} (hopen : ofBytes bytes = .ok doc)
    (hu : doc.Uniform) (actions : List Action) :
    let answers := (doc.run actions).1
    let last := (doc.run actions).2
    Text.UsesEnding doc.lineEnding last.text ∧ last.lineEnding = doc.lineEnding ∧
      (last.text.getLast? = some '\n' ↔ doc.text.getLast? = some '\n') ∧
      last.version = answers.countP Answer.isToggled ∧
      last.version ≤ actions.length ∧
      ∀ line error, (last.perform (.toggle line)).1 = .failed error →
        (last.perform (.toggle line)).2 = last := by
  intro answers last
  have hrun := keeps_run actions doc
  have huniform := hrun.uniform hu
  rw [Uniform, hrun.lineEnding_eq] at huniform
  have hversion : last.version = answers.countP Answer.isToggled := by
    rw [hrun.version_eq, version_ofBytes hopen, Nat.zero_add]
  refine ⟨huniform, hrun.lineEnding_eq, hrun.final_feed, hversion, ?_, ?_⟩
  · rw [hversion, ← length_run actions doc]
    exact List.countP_le_length
  · intro line error hfailed
    rcases last.perform_toggle_cases line with ⟨toggled, -, heq⟩ | ⟨error', heq⟩
    · rw [heq] at hfailed
      cases hfailed
    · rw [heq]

/-- The document is folded to one line without an ending, and unfolded again. -/
theorem run_keeps_ending_crlf :
    let text : Text := ['f', ' ', 'd', 'o', '\r', '\n', 'x', '\r', '\n', 'e', 'n', 'd']
    let actions : List Action :=
      [.toggle 1, .toggle 7, .select ⟨0, 1⟩, .preview 0, .toggle 0]
    let last := ((ofText text).run actions).2
    last.text = ['f', ' ', 'd', 'o', '\r', '\n', ' ', ' ', 'x', '\r', '\n', 'e', 'n',
        'd'] ∧
      Text.UsesEnding .crlf last.text ∧ last.version = 2 := by
  intro text actions last
  have hopen : ofBytes (Utf8.encode text) = .ok (ofText text) := by decide +kernel
  have h := run_keeps_ending hopen (by decide +kernel) actions
  exact ⟨by decide +kernel, h.1, h.2.2.2.1.trans (by decide +kernel)⟩

end Document

end RubyBlocks
