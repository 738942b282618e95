import RubyBlocks.Proofs.Encoding
import RubyBlocks.Proofs.Files
import RubyBlocks.Proofs.Quotation
import RubyBlocks.Settings.Storage

/-!
# Loading undoes saving

A file that was just written is there and holds what was written, so loading comes down to
reading the document that the settings were written as. The strings in it are followed by
a comma, a bracket or a line feed, never by a quote, and so they are read back as they
were. Around them it is enough to look at one entry: the key is a bare one, the value does
not begin with a blank, and what is behind it ends the line.

What comes back is not always what was saved. Patterns that cannot be compiled can be
saved, and the first of them is what loading complains about. The path of the backup
directory is expanded; it stays as it is if that fails, or if there is nothing in it to
expand.
-/

namespace RubyBlocks.Settings

/-! ## Lists -/

theorem skipBlanks_eq {c : Char} (hfeed : c ≠ '\n') (hreturn : c ≠ '\r')
    (hspace : isSpace c = false) (hcomment : c ≠ '#') (rest : Text) :
    skipBlanks false (c :: rest) = some (c :: rest) := by
  rw [skipBlanks]
  simp [hfeed, hreturn, hspace, hcomment]

theorem exists_writeString_eq (text : Text) :
    ∃ quote body, (quote = '"' ∨ quote = '\'') ∧ writeString text = quote :: body := by
  rw [writeString]
  repeat' split
  · exact ⟨'"', _, Or.inl rfl, rfl⟩
  · exact ⟨'\'', _, Or.inr rfl, rfl⟩
  · exact ⟨'"', _, Or.inl rfl, rfl⟩
  · exact ⟨'\'', _, Or.inr rfl, rfl⟩
  · exact ⟨'"', _, Or.inl rfl, rfl⟩
  · exact ⟨'"', _, Or.inl rfl, rfl⟩

theorem skipBlanks_writeString (text rest : Text) :
    skipBlanks false (writeString text ++ rest) = some (writeString text ++ rest) := by
  obtain ⟨quote, body, rfl | rfl, heq⟩ := exists_writeString_eq text
  · rw [heq]
    exact skipBlanks_eq (by decide) (by decide) rfl (by decide) _
  · rw [heq]
    exact skipBlanks_eq (by decide) (by decide) rfl (by decide) _

theorem readItems_close {limit : Nat} {text rest : Text}
    (hblanks : skipBlanks false text = some (']' :: rest)) :
    readItems (limit + 1) text = some ([], rest) := by
  rw [readItems, hblanks]
  rfl

/-- An item is read, and what follows it decides whether there are more. -/
theorem readItems_item {limit : Nat} {text item rest : Text}
    (hdouble : rest.head? ≠ some '"') (hsingle : rest.head? ≠ some '\'')
    (hblanks : skipBlanks false text = some (writeString item ++ rest)) :
    readItems (limit + 1) text = (do
      match ← skipBlanks false rest with
      | ',' :: rest =>
        let (items, rest) ← readItems limit rest
        return (item :: items, rest)
      | ']' :: rest => return ([item], rest)
      | _ => none) := by
  have hread := readString_writeString hdouble hsingle item
  obtain ⟨quote, body, hquote, heq⟩ := exists_writeString_eq item
  rw [heq, List.cons_append] at hblanks hread
  rw [readItems, hblanks]
  rcases hquote with rfl | rfl
  · show (readString _ >>= _) = _
    rw [hread]
    rfl
  · show (readString _ >>= _) = _
    rw [hread]
    rfl

theorem readItems_lines (texts : List Text) (rest : Text) :
    ∀ {limit : Nat}, texts.length < limit →
      readItems limit (texts.flatMap (fun text => "\n    ".toList ++ writeString text ++ [',']) ++
        '\n' :: ']' :: rest) = some (texts, rest) := by
  induction texts with
  | nil =>
      intro limit hlimit
      obtain ⟨limit, rfl⟩ := Nat.exists_eq_add_one.2 hlimit
      exact readItems_close rfl
  | cons text texts ih =>
      intro limit hlimit
      obtain ⟨limit, rfl⟩ := Nat.exists_eq_add_one.2 (Nat.zero_lt_of_lt hlimit)
      have hnext := ih (Nat.lt_of_succ_lt_succ hlimit)
      rw [List.flatMap_cons, List.append_assoc, List.append_assoc, List.append_assoc]
      generalize (texts.flatMap fun text => "\n    ".toList ++ writeString text ++ [',']) ++
        '\n' :: ']' :: rest = more at hnext ⊢
      have hblanks : skipBlanks false ("\n    ".toList ++ (writeString text ++ ([','] ++ more))) =
          some (writeString text ++ ',' :: more) := skipBlanks_writeString text (',' :: more)
      rw [readItems_item (by simp) (by simp) hblanks]
      show (readItems limit more >>= _) = _
      rw [hnext]
      rfl

theorem length_le_flatMap {f : Text → Text} (hf : ∀ text, f text ≠ []) (texts : List Text) :
    texts.length ≤ (texts.flatMap f).length := by
  induction texts with
  | nil => exact Nat.zero_le _
  | cons text texts ih =>
      have hpos := List.length_pos_iff.2 (hf text)
      rw [List.flatMap_cons, List.length_append, List.length_cons]
      omega

theorem readStrings_writeStrings (texts : List Text) (rest : Text) :
    readStrings (writeStrings texts ++ rest) = some (texts, rest) := by
  match texts with
  | [] => exact readItems_close rfl
  | [text] =>
      rw [writeStrings, List.append_assoc, List.append_assoc]
      have hblanks := skipBlanks_writeString text (']' :: rest)
      exact (readItems_item (by simp) (by simp) hblanks).trans rfl
  | first :: second :: texts =>
      have heq : writeStrings (first :: second :: texts) ++ rest =
          '[' :: ((first :: second :: texts).flatMap (fun text =>
            "\n    ".toList ++ writeString text ++ [',']) ++ '\n' :: ']' :: rest) := by
        simp [writeStrings]
      rw [heq]
      refine readItems_lines (first :: second :: texts) rest (Nat.lt_succ_of_le ?_)
      rw [List.length_append]
      exact Nat.le_add_right_of_le (length_le_flatMap (by simp) _)

/-! ## Documents -/

theorem readKey_bare {key : Text} (hkey : key ≠ []) (hbare : key.all isBareKeyChar = true)
    {c : Char} (hc : isBareKeyChar c = false) (rest : Text) :
    readKey (key ++ c :: rest) = some (key, c :: rest) := by
  rw [List.all_eq_true] at hbare
  have htake : (key ++ c :: rest).takeWhile isBareKeyChar = key := by
    rw [List.takeWhile_append_of_pos hbare, List.takeWhile_cons_of_neg (by simp [hc]),
      List.append_nil]
  have hdrop : (key ++ c :: rest).dropWhile isBareKeyChar = c :: rest := by
    rw [List.dropWhile_append_of_pos hbare, List.dropWhile_cons_of_neg (by simp [hc])]
  have hquote : ∀ quote more, key ++ c :: rest = quote :: more → isBareKeyChar quote = true := by
    intro quote more heq
    cases key with
    | nil => exact absurd rfl hkey
    | cons first key => exact (List.cons.inj heq).1 ▸ hbare first List.mem_cons_self
  rw [readKey, htake, hdrop]
  · rw [if_neg]
    simpa using hkey
  · intro more heq
    cases hquote _ _ heq
  · intro more heq
    cases hquote _ _ heq

theorem skipBlanks_bare {c : Char} (hc : isBareKeyChar c = true) (rest : Text) :
    skipBlanks false (c :: rest) = some (c :: rest) := by
  have hne : ∀ d, isBareKeyChar d = false → c ≠ d := by
    rintro d hd rfl
    rw [hc] at hd
    cases hd
  refine skipBlanks_eq (hne _ rfl) (hne _ rfl) ?_ (hne _ rfl) rest
  rw [isSpace, beq_false_of_ne (hne ' ' rfl), beq_false_of_ne (hne '\t' rfl), Bool.false_or]

theorem readEntries_lineFeed (keys : Nat) (draft : Draft) (rest : Text) :
    readEntries keys draft ('\n' :: rest) = readEntries keys draft rest := by
  rw [readEntries.eq_def, readEntries.eq_def keys draft rest]
  rfl

theorem readEntries_nil (keys : Nat) (draft : Draft) :
    readEntries keys draft [] = some draft := by
  rw [readEntries.eq_def]
  rfl

/-- A line of the document sets its key, and the rest is read with what is set. -/
theorem readEntries_entry {keys : Nat} {draft draft' : Draft} {key value rest : Text}
    (hkey : key ≠ []) (hbare : key.all isBareKeyChar = true)
    (hvalue : skipSpaces value = value)
    (hread : readValue draft key value = some (draft', '\n' :: rest)) :
    readEntries (keys + 1) draft (key ++ (" = ".toList ++ value)) =
      readEntries keys draft' rest := by
  have hentry : readEntry draft (key ++ (" = ".toList ++ value)) = some (draft', '\n' :: rest) := by
    rw [readEntry]
    show (readKey (key ++ ' ' :: '=' :: ' ' :: value) >>= _) = _
    rw [readKey_bare hkey hbare rfl]
    show (readValue draft key (skipSpaces value) >>= _) = _
    rw [hvalue, hread]
    rfl
  obtain ⟨first, more, rfl⟩ := List.exists_cons_of_ne_nil hkey
  rw [List.cons_append] at hentry ⊢
  rw [readEntries.eq_def, skipBlanks_bare (List.all_eq_true.1 hbare first List.mem_cons_self)]
  show (readEntry draft _ >>= _) = _
  rw [hentry]
  exact readEntries_lineFeed keys draft' rest

theorem readValue_inPlace (value : Bool) (rest : Text) :
    readValue .empty "in_place".toList ((if value then "true" else "false").toList ++ rest) =
      some (⟨some value, none, none⟩, rest) := by
  cases value <;> rfl

theorem readValue_filePatterns (inPlace : Bool) (texts : List Text) (rest : Text) :
    readValue ⟨some inPlace, none, none⟩ "file_patterns".toList (writeStrings texts ++ rest) =
      some (⟨some inPlace, some texts, none⟩, rest) := by
  show (readStrings (writeStrings texts ++ rest)).map _ = _
  rw [readStrings_writeStrings]
  rfl

theorem readValue_backupDir (inPlace : Bool) (texts : List Text) (dir rest : Text) :
    readValue ⟨some inPlace, some texts, none⟩ "backup_dir".toList
        (writeString dir ++ '\n' :: rest) =
      some (⟨some inPlace, some texts, some dir⟩, '\n' :: rest) := by
  show (readString (writeString dir ++ '\n' :: rest)).map _ = _
  rw [readString_writeString (by simp) (by simp)]
  rfl

theorem skipSpaces_writeStrings (texts : List Text) (rest : Text) :
    skipSpaces (writeStrings texts ++ rest) = writeStrings texts ++ rest := by
  match texts with
  | [] => rfl
  | [_] => rfl
  | _ :: _ :: _ => rfl

theorem skipSpaces_writeString (text rest : Text) :
    skipSpaces (writeString text ++ rest) = writeString text ++ rest := by
  obtain ⟨quote, body, rfl | rfl, heq⟩ := exists_writeString_eq text
  · rw [heq]
    rfl
  · rw [heq]
    rfl

theorem skipSpaces_bool (value : Bool) (rest : Text) :
    skipSpaces ((if value then "true" else "false").toList ++ rest) =
      (if value then "true" else "false").toList ++ rest := by
  cases value <;> rfl

/-- The lines of a document. -/
theorem write_eq (settings : Settings) :
    settings.write = "in_place".toList ++ (" = ".toList ++
      ((if settings.inPlace then "true" else "false").toList ++ '\n' ::
        ("file_patterns".toList ++ (" = ".toList ++ (writeStrings settings.filePatterns ++ '\n' ::
          (settings.backupDir.elim [] fun dir =>
            "backup_dir".toList ++ (" = ".toList ++ (writeString dir ++ ['\n'])))))))) := by
  have hinPlace : "in_place = ".toList = "in_place".toList ++ " = ".toList := rfl
  have hpatterns : "file_patterns = ".toList = "file_patterns".toList ++ " = ".toList := rfl
  have hdir : "backup_dir = ".toList = "backup_dir".toList ++ " = ".toList := rfl
  -- The equation of `write` is out of reach: deriving it evaluates the strings.
  delta write
  rw [hinPlace, hpatterns]
  cases settings.backupDir with
  | none => simp only [List.append_assoc, List.cons_append, List.nil_append, Option.elim]
  | some dir =>
      simp only [List.append_assoc, List.cons_append, List.nil_append, Option.elim, hdir]

theorem readEntries_backupDir (inPlace : Bool) (texts : List Text) (backupDir : Option Text) :
    readEntries 1 ⟨some inPlace, some texts, none⟩
        (backupDir.elim [] fun dir =>
          "backup_dir".toList ++ (" = ".toList ++ (writeString dir ++ ['\n']))) =
      some ⟨some inPlace, some texts, backupDir⟩ := by
  cases backupDir with
  | none => exact readEntries_nil _ _
  | some dir =>
      exact (readEntries_entry (by decide) rfl (skipSpaces_writeString dir _)
        (readValue_backupDir inPlace texts dir [])).trans (readEntries_nil _ _)

theorem read_write (settings : Settings) : read settings.write = some settings := by
  obtain ⟨inPlace, filePatterns, backupDir⟩ := settings
  have hentries : readEntries 3 .empty (write ⟨inPlace, filePatterns, backupDir⟩) =
      some ⟨some inPlace, some filePatterns, backupDir⟩ := by
    rw [write_eq, readEntries_entry (by decide) rfl (skipSpaces_bool inPlace _)
      (readValue_inPlace inPlace _), readEntries_entry (by decide) rfl
      (skipSpaces_writeStrings filePatterns _) (readValue_filePatterns inPlace filePatterns _),
      readEntries_backupDir]
  have hmark : read (write ⟨inPlace, filePatterns, backupDir⟩) =
      (readEntries 3 .empty (write ⟨inPlace, filePatterns, backupDir⟩)).map Draft.toSettings := by
    rw [write_eq]
    rfl
  rw [hmark, hentries]
  rfl

/-! ## Expansion and patterns -/

theorem fill_pieces (environment : Environment) {path : Text} (h : '$' ∉ path) :
    Expansion.fill environment (Expansion.pieces path) = some path := by
  induction path with
  | nil =>
      rw [Expansion.pieces]
      rfl
  | cons c path ih =>
      rw [List.mem_cons, not_or] at h
      rw [Expansion.pieces.eq_def]
      simp only [if_pos (Ne.symm h.1), Expansion.fill, ih h.2]
      rfl

theorem expand?_eq_self (environment : Environment) {path : Text} (hdollar : '$' ∉ path)
    (htilde : path.head? ≠ some '~') : Expansion.expand? environment path = some path := by
  have hhome : Expansion.expandHome environment path = path := by
    rw [Expansion.expandHome]
    rintro rest home rfl
    exact absurd rfl htilde
  rw [Expansion.expand?, fill_pieces environment hdollar, Option.map_some, hhome, ite_self]

theorem expanded_eq_self (environment : Environment) {settings : Settings}
    (h : ∀ dir, settings.backupDir = some dir → '$' ∉ dir ∧ dir.head? ≠ some '~') :
    settings.expanded environment = settings := by
  obtain ⟨inPlace, filePatterns, backupDir⟩ := settings
  cases backupDir with
  | none => rfl
  | some dir =>
      obtain ⟨hdollar, htilde⟩ := h dir rfl
      rw [expanded, Option.map_some, expand?_eq_self environment hdollar htilde, Option.getD_some]

theorem firstBadPattern?_eq_none {settings : Settings}
    (h : ∀ pattern ∈ settings.filePatterns, ∃ glob, Glob.compile pattern = .ok glob) :
    settings.firstBadPattern? = none := by
  rw [firstBadPattern?, List.findSome?_eq_none_iff]
  intro pattern hpattern
  obtain ⟨glob, hglob⟩ := h pattern hpattern
  rw [hglob]

theorem firstBadPattern?_eq_some {settings : Settings} {good rest : List Text} {bad : Text}
    {fault : Glob.Fault} (hpatterns : settings.filePatterns = good ++ bad :: rest)
    (hgood : ∀ pattern ∈ good, ∃ glob, Glob.compile pattern = .ok glob)
    (hbad : Glob.compile bad = .error fault) :
    settings.firstBadPattern? = some (bad, fault) := by
  have hnone := @firstBadPattern?_eq_none ⟨false, good, none⟩ hgood
  rw [firstBadPattern?] at hnone ⊢
  rw [hpatterns, List.findSome?_append, hnone, List.findSome?_cons, hbad]
  rfl

/-! ## Saving and loading -/

open Workspace

theorem read_of_write {path : Text} {content : Bytes} {workspace : Workspace}
    (h : ((Host.write path content : InWorkspace _).run workspace).1 = .ok ()) :
    let after := ((Host.write path content : InWorkspace _).run workspace).2
    after.files.read path = .ok content ∧ after.environment = workspace.environment := by
  rw [run_write] at h ⊢
  cases hwrite : workspace.files.write path content with
  | error e =>
      rw [run_update_error hwrite] at h
      cases h
  | ok after =>
      rw [run_update_ok hwrite]
      obtain ⟨location, hlocate, hputs⟩ := FileTree.putsAt_of_write hwrite
      refine ⟨FileTree.read_eq_ok_iff.2 ⟨location, ?_, hputs.node?_self⟩, rfl⟩
      exact hputs.locate_eq_ok_iff.2 hlocate

theorem read_of_save {settings : Settings} {path : Text} {workspace : Workspace}
    (h : ((settings.save path : InWorkspace _).run workspace).1 = .ok ()) :
    let after := ((settings.save path : InWorkspace _).run workspace).2
    after.files.read path = .ok (Utf8.encode settings.write) ∧
      after.environment = workspace.environment := by
  rw [save, run_bind] at h ⊢
  cases hparent : Path.parent? path with
  | none =>
      rw [hparent] at h
      exact read_of_write h
  | some parent =>
      have hgrows := growsTo_createFolders parent workspace
      rw [hparent] at h
      simp only at h ⊢
      generalize (Host.createFolders parent : InWorkspace _).run workspace = made at h hgrows ⊢
      obtain ⟨answer, grown⟩ := made
      cases answer with
      | error e => cases h
      | ok _ =>
          obtain ⟨hread, henvironment⟩ := read_of_write h
          exact ⟨hread, henvironment.trans hgrows.environment_eq⟩

theorem run_load {path document : Text} {workspace : Workspace}
    (hread : workspace.files.read path = .ok (Utf8.encode document)) :
    (load path : InWorkspace _).run workspace =
      ((ofDocument path document).map fun settings =>
        some (settings.expanded workspace.environment), workspace) := by
  have hexists : workspace.files.pathExists path = true := by
    obtain ⟨location, hlocate, hnode⟩ := FileTree.read_eq_ok_iff.1 hread
    rw [FileTree.pathExists, hlocate]
    simp only [hnode, Option.isSome_some]
  have hthere : (Host.pathExists path : InWorkspace _).run workspace = (true, workspace) := by
    rw [← hexists]
    rfl
  rw [load, run_bind, hthere]
  simp only [Bool.not_true, Bool.false_eq_true, if_false]
  rw [run_bind, run_read, hread]
  simp only [Utf8.decode_encode]
  cases ofDocument path document with
  | error e => rfl
  | ok settings => rfl

/-- Settings that were saved are loaded again, with the backup directory expanded. A pattern
that cannot be compiled is reported, the first if there are several. -/
theorem load_save {settings : Settings} {path : Text} {workspace : Workspace}
    (hsave : ((settings.save path : InWorkspace _).run workspace).1 = .ok ()) :
    let after := ((settings.save path : InWorkspace _).run workspace).2
    let answer := ((load path : InWorkspace _).run after).1
    (∀ good bad rest fault, settings.filePatterns = good ++ bad :: rest →
      (∀ pattern ∈ good, ∃ glob, Glob.compile pattern = .ok glob) →
      Glob.compile bad = .error fault → answer = .error (.badPattern path bad fault)) ∧
    ((∀ pattern ∈ settings.filePatterns, ∃ glob, Glob.compile pattern = .ok glob) →
      answer = .ok (some ⟨settings.inPlace, settings.filePatterns,
        settings.backupDir.map fun dir =>
          (Expansion.expand? workspace.environment dir).getD dir⟩) ∧
      ((∀ dir, settings.backupDir = some dir → '$' ∉ dir ∧ dir.head? ≠ some '~') →
        answer = .ok (some settings))) := by
  intro after answer
  obtain ⟨hread, henvironment⟩ := read_of_save hsave
  have hanswer : answer = (ofDocument path settings.write).map fun settings =>
      some (settings.expanded workspace.environment) := by
    rw [← henvironment]
    exact congrArg Prod.fst (run_load hread)
  rw [ofDocument, read_write] at hanswer
  refine ⟨fun good bad rest fault hpatterns hgood hbad => ?_, fun hgood => ?_⟩
  · rw [hanswer]
    simp only [firstBadPattern?_eq_some hpatterns hgood hbad]
    rfl
  · simp only [firstBadPattern?_eq_none hgood] at hanswer
    refine ⟨hanswer, fun hplain => ?_⟩
    rw [hanswer, Except.map, expanded_eq_self _ hplain]

/-- The patterns need tripled quotes and escapes, the directory has a variable, and the
folder of the file is still to be made. Of two bad patterns the first is reported. -/
theorem load_save_quotes :
    ((do
      let _ ← save ⟨true, [['*', '"', '\''], ['?', '\n', '"', '"', '"', '\\', '\x01']],
        some ['~', '/', '$', 'A']⟩ ['d', '/', 'c']
      load ['d', '/', 'c'] : InWorkspace _).run
        (.ofFiles ⟨[], []⟩ [(['A'], ['~']), (['H', 'O', 'M', 'E'], ['/', 'h'])])).1 =
      .ok (some ⟨true, [['*', '"', '\''], ['?', '\n', '"', '"', '"', '\\', '\x01']],
        some ['/', 'h', '/', '~']⟩) ∧
    ((do
      let _ ← save ⟨true, [['a'], ['['], ['*', '*', '*']], none⟩ ['c']
      load ['c'] : InWorkspace _).run (.ofFiles ⟨[], []⟩ [])).1 =
      .error (.badPattern ['c'] ['['] ⟨0, .unclosedClass⟩) := by
  have hdir : Expansion.expand? [(['A'], ['~']), (['H', 'O', 'M', 'E'], ['/', 'h'])]
      ['~', '/', '$', 'A'] = some ['/', 'h', '/', '~'] := by decide +kernel
  rw [run_bind, run_bind]
  constructor
  · refine ((load_save rfl).2 ?_).1.trans ?_
    · simp [Glob.compile, Glob.compileFrom, Except.map]
    · simp only [ofFiles, Option.map_some, hdir, Option.getD_some]
  · refine (load_save rfl).1 [['a']] ['['] [['*', '*', '*']] ⟨0, .unclosedClass⟩ rfl ?_ rfl
    simp [Glob.compile, Glob.compileFrom, Except.map]

end RubyBlocks.Settings
