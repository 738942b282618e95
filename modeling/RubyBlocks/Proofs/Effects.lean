import RubyBlocks.Command.Run
import RubyBlocks.Proofs.Difference
import RubyBlocks.Proofs.Encoding
import RubyBlocks.Proofs.Files

/-!
# What a run does to files

A run that fails may have made directories, and that is all. It writes a file in two
places only, when it makes the copy and when it overwrites the file. Neither happens
before the new text is there, and once the copy is made, nothing can fail any more: the
file could be read, so there is a name at the end of its path and a directory in front
of it, and neither the new directories nor the copy take the file away.

A run that succeeds leaves the file alone or overwrites it (`run_cases`), and then the
tree has changed in two places (`Overwrites`): there is the new text in the place of the
old one, and the old one where the copy was put. The two places need not be different, and
in a tree without links they are when, and only when, the paths lead to two locations.
A backup directory that is the directory of the file, however it is spelled, makes the
copy go to the file itself. It empties the file, then copies nothing, and the new text
is all that is left. A toggle never gives back the text it was given, so in this case
the old one is lost.
-/

namespace RubyBlocks

namespace FileTree

/-- What overwriting a file does to a tree. With a backup directory, directories are made
first, then the file is copied. -/
inductive Overwrites (tree : FileTree) (file : Text) (content : Bytes) :
    Option Text → FileTree → Prop where
  | plain {location : Location} {after : FileTree} (locate_eq : tree.locate file = .ok location)
      (puts : tree.PutsAt location content after) : Overwrites tree file content none after
  | copied {directory name : Text} {origin target : Location} {original : Bytes}
      {grown copy after : FileTree} (grows : tree.GrowsTo grown)
      (name_eq : Path.fileName? file = some name) (origin_eq : tree.locate file = .ok origin)
      (node?_eq : tree.node? origin = some (.file original))
      (target_eq : grown.locate (Path.join directory name) = .ok target)
      (copies : grown.PutsAt target (if target = origin then [] else original) copy)
      (puts : copy.PutsAt origin content after) :
      Overwrites tree file content (some directory) after

namespace Overwrites

variable {tree after : FileTree} {file : Text} {content : Bytes}

/-- Writing the copy and the file moves neither. -/
theorem locate_eq_ok {grown copy : FileTree} {origin target : Location} {copied : Bytes}
    (hcopies : grown.PutsAt target copied copy) (hputs : copy.PutsAt origin content after)
    {path : Text} {location : Location} (h : grown.locate path = .ok location) :
    after.locate path = .ok location :=
  hputs.locate_eq_ok_iff.2 (hcopies.locate_eq_ok_iff.2 h)

theorem read_eq {backupDir : Option Text} (h : tree.Overwrites file content backupDir after) :
    after.read file = .ok content := by
  rw [read_eq_ok_iff]
  cases h with
  | plain hlocate hputs => exact ⟨_, hputs.locate_eq_ok_iff.2 hlocate, hputs.node?_self⟩
  | copied hgrows _ horigin _ _ hcopies hputs =>
      have hlocate := locate_mono hgrows.keepsFolders horigin
      exact ⟨_, locate_eq_ok hcopies hputs hlocate, hputs.node?_self⟩

/-- Only the file and the copy change. -/
theorem content?_eq {backupDir : Option Text} {location : Location}
    (h : tree.Overwrites file content backupDir after)
    (hfile : after.locate file ≠ .ok location)
    (hbackup : ∀ directory name, backupDir = some directory →
      Path.fileName? file = some name →
        after.locate (Path.join directory name) ≠ .ok location) :
    after.content? location = tree.content? location := by
  cases h with
  | plain hlocate hputs =>
      have hne : location ≠ _ := fun heq =>
        hfile (heq ▸ hputs.locate_eq_ok_iff.2 hlocate)
      rw [hputs.content?_eq, if_neg hne]
  | copied hgrows hname horigin _ htarget hcopies hputs =>
      have hlocate := locate_mono hgrows.keepsFolders horigin
      have hne : location ≠ _ := fun heq =>
        hfile (heq ▸ locate_eq_ok hcopies hputs hlocate)
      have hne' : location ≠ _ := fun heq =>
        hbackup _ _ rfl hname (heq ▸ locate_eq_ok hcopies hputs htarget)
      rw [hputs.content?_eq, if_neg hne, hcopies.content?_eq, if_neg hne', hgrows.content?_eq]

/-- The copy holds what the file held, unless it is the file. -/
theorem read_backup {directory : Text}
    (h : tree.Overwrites file content (some directory) after) :
    ∃ name original, Path.fileName? file = some name ∧ tree.read file = .ok original ∧
      (after.locate (Path.join directory name) ≠ after.locate file →
        after.read (Path.join directory name) = .ok original) ∧
      (after.locate (Path.join directory name) = after.locate file →
        after.read (Path.join directory name) = .ok content) := by
  have hread := h.read_eq
  cases h with
  | @copied _ name origin target original _ _ _ hgrows hname horigin hfile htarget hcopies hputs =>
      have hlocate := locate_eq_ok hcopies hputs (locate_mono hgrows.keepsFolders horigin)
      have htarget' := locate_eq_ok hcopies hputs htarget
      refine ⟨name, original, hname, read_eq_ok_iff.2 ⟨origin, horigin, hfile⟩, ?_, ?_⟩
      · intro hne
        have htne : target ≠ origin := by
          rintro rfl
          exact hne (htarget'.trans hlocate.symm)
        refine read_eq_ok_iff.2 ⟨target, htarget', ?_⟩
        rw [hputs.node?_eq, if_neg htne, hcopies.node?_self, if_neg htne]
      · intro hsame
        rw [read_eq_ok_iff] at hread ⊢
        rwa [hsame]

end Overwrites

end FileTree

namespace Command

open Workspace

/-! ## The steps of a run -/

section

variable {file : Text} {workspace : Workspace}

/-- A backup fails without having touched a file, or makes a copy. -/
theorem backUp_cases (directory : Text) {origin : Location} {original : Bytes}
    (horigin : workspace.files.locate file = .ok origin)
    (hfile : workspace.files.node? origin = some (.file original)) :
    let result := (backUp file directory : InWorkspace _).run workspace
    (∃ e, result.1 = .error e ∧ workspace.files.GrowsTo result.2.files) ∨
      (result.1 = .ok () ∧ ∃ grown name target, workspace.files.GrowsTo grown ∧
        Path.fileName? file = some name ∧
        grown.locate (Path.join directory name) = .ok target ∧
        grown.PutsAt target (if target = origin then [] else original) result.2.files) := by
  have hgrows := (growsTo_createFolders directory workspace).files
  rw [backUp, run_bind]
  generalize (Host.createFolders directory : InWorkspace _).run workspace = made at hgrows ⊢
  obtain ⟨answer, grown⟩ := made
  cases answer with
  | error e => exact Or.inl ⟨_, rfl, hgrows⟩
  | ok _ =>
      cases hname : Path.fileName? file with
      | none => exact Or.inl ⟨_, rfl, hgrows⟩
      | some name =>
          simp only [run_bind, run_copy]
          rcases grown.files.copy_cases file (Path.join directory name) with
            ⟨e, hcopy, -⟩ |
            ⟨origin', target, content, after, hcopy, horigin', hfile', htarget, hputs⟩
          · rw [run_update_error hcopy]
            exact Or.inl ⟨_, rfl, hgrows⟩
          · have heq : origin' = origin := Except.ok.inj
              (horigin'.symm.trans (FileTree.locate_mono hgrows.keepsFolders horigin))
            subst heq
            have hcontent := hfile'.symm.trans (hgrows.node?_eq_some hfile)
            injection hcontent with hcontent
            injection hcontent with hcontent
            subst hcontent
            rw [run_update_ok hcopy]
            exact Or.inr ⟨rfl, grown.files, name, target, hgrows, rfl, htarget, hputs⟩

/-- Once the copy is made, the file can be written: it could be read, and is still there. -/
theorem writeBack_cases (settings : Settings) (text : Text) {original : Bytes}
    (hread : workspace.files.read file = .ok original) :
    let result := (writeBack file settings text : InWorkspace _).run workspace
    (∃ e, result.1 = .error e ∧ workspace.files.GrowsTo result.2.files) ∨
      (result.1 = .ok () ∧ workspace.files.Overwrites file (Utf8.encode text)
        settings.backupDir result.2.files) := by
  obtain ⟨origin, horigin, hfile⟩ := FileTree.read_eq_ok_iff.1 hread
  rw [writeBack, run_bind]
  cases settings.backupDir with
  | none =>
      simp only [run_pure, run_bind, run_write]
      cases hwrite : workspace.files.write file (Utf8.encode text) with
      | error e =>
          rw [run_update_error hwrite]
          exact Or.inl ⟨_, rfl, FileTree.GrowsTo.refl _⟩
      | ok after =>
          obtain ⟨location, hlocation, hputs⟩ := FileTree.putsAt_of_write hwrite
          rw [run_update_ok hwrite]
          exact Or.inr ⟨rfl, .plain hlocation hputs⟩
  | some directory =>
      simp only
      have hcases := backUp_cases directory horigin hfile
      generalize (backUp file directory : InWorkspace _).run workspace = backup at hcases ⊢
      obtain ⟨answer, copied⟩ := backup
      rcases hcases with
        ⟨e, heq, hgrows⟩ | ⟨heq, grown, name, target, hgrows, hname, htarget, hputs⟩
      · simp only at heq
        subst heq
        exact Or.inl ⟨_, rfl, hgrows⟩
      · simp only at heq
        subst heq
        obtain ⟨parent, henters⟩ := FileTree.enters_of_read hread hname
        have heq : parent ++ [name] = origin := Except.ok.inj (henters.locate_eq.symm.trans horigin)
        have hnode : copied.files.node? (parent ++ [name]) ≠ some .folder := by
          rw [heq, hputs.node?_eq]
          split
          · simp
          · simp [hgrows.node?_eq_some hfile]
        have hwrite : copied.files.write file (Utf8.encode text) = .ok _ :=
          FileTree.write_eq_ok_iff.2 ⟨parent, name,
            (henters.mono hgrows.keepsFolders).mono hputs.keepsFolders, hnode, rfl⟩
        simp only [run_bind, run_write]
        rw [run_update_ok hwrite]
        refine Or.inr ⟨rfl, .copied hgrows hname horigin hfile htarget hputs ?_⟩
        rw [← heq]
        exact FileTree.PutsAt.insert_file hnode

end

theorem openDocument_cases (arguments : Arguments) (settings : Settings)
    (workspace : Workspace) :
    let result := (openDocument arguments settings : InWorkspace _).run workspace
    result.2 = workspace ∧ ((∃ e, result.1 = .error e) ∨
      ∃ original doc, workspace.files.read arguments.file = .ok original ∧
        Document.ofBytes original = .ok doc ∧ result.1 = .ok doc) := by
  simp only [openDocument]
  split
  · exact ⟨rfl, Or.inl ⟨_, rfl⟩⟩
  · simp only [run_bind, run_read]
    cases workspace.files.read arguments.file with
    | error e => exact ⟨rfl, Or.inl ⟨_, rfl⟩⟩
    | ok original =>
        refine ⟨rfl, ?_⟩
        simp only [run_pure]
        cases hdoc : Document.ofBytes original with
        | error e => exact Or.inl ⟨_, rfl⟩
        | ok doc => exact Or.inr ⟨original, doc, rfl, hdoc, rfl⟩

/-- A run fails without having touched a file, or toggles a block of the text that it read
and then overwrites the file or leaves everything as it is. -/
theorem run_cases (arguments : Arguments) (settings : Settings) (workspace : Workspace) :
    let result := (run arguments settings : InWorkspace _).run workspace
    (∃ e, result.1 = .error e ∧ workspace.files.GrowsTo result.2.files) ∨
      ∃ original doc edited change, workspace.files.read arguments.file = .ok original ∧
        Document.ofBytes original = .ok doc ∧
        doc.toggle arguments.cursorLine = .ok (edited, change) ∧
        result.1 = .ok ⟨edited.text, writesBack arguments.destination settings,
          cursorAfter arguments.cursorLine change.toggled⟩ ∧
        if writesBack arguments.destination settings then
          workspace.files.Overwrites arguments.file (Utf8.encode edited.text)
            settings.backupDir result.2.files
        else result.2.files = workspace.files := by
  obtain ⟨hsame, hopen⟩ := openDocument_cases arguments settings workspace
  rw [run, run_bind]
  generalize (openDocument arguments settings : InWorkspace _).run workspace = opened
    at hsame hopen ⊢
  obtain ⟨answer, after⟩ := opened
  simp only at hsame hopen
  subst hsame
  rcases hopen with ⟨e, rfl⟩ | ⟨original, doc, hread, hdoc, rfl⟩
  · exact Or.inl ⟨_, rfl, FileTree.GrowsTo.refl _⟩
  · have hfiles := files_recordAll (Journal.ofDocument doc arguments.cursorLine) after
    simp only [run_bind]
    generalize ((Host.recordAll (Journal.ofDocument doc arguments.cursorLine) :
      InWorkspace _).run after).2 = noted at hfiles ⊢
    rw [← hfiles] at hread ⊢
    cases htoggle : doc.toggle arguments.cursorLine with
    | error e => exact Or.inl ⟨_, rfl, FileTree.GrowsTo.refl _⟩
    | ok result =>
        obtain ⟨edited, change⟩ := result
        simp only [run_bind]
        generalize hrecord : (Host.record (.linesReplaced change.toggled.startLine
          change.toggled.endLine change.toggled.lines.length) : InWorkspace _).run noted =
            recorded
        have hfiles : recorded.2.files = noted.files := by rw [← hrecord]; rfl
        rw [← hfiles] at hread ⊢
        cases hwrites : writesBack arguments.destination settings with
        | false =>
            exact Or.inr ⟨original, doc, edited, change, hread, hdoc, htoggle, rfl, rfl⟩
        | true =>
            simp only [Bool.not_true, Bool.false_eq_true, if_false, run_bind]
            have hcases := writeBack_cases settings edited.text hread
            generalize (writeBack arguments.file settings edited.text : InWorkspace _).run
              recorded.2 = back at hcases ⊢
            obtain ⟨answer, after⟩ := back
            rcases hcases with ⟨e, heq, hgrows⟩ | ⟨heq, hover⟩
            · simp only at heq
              subst heq
              exact Or.inl ⟨_, rfl, hgrows⟩
            · simp only at heq
              subst heq
              exact Or.inr ⟨original, doc, edited, change, hread, hdoc, htoggle, rfl, hover⟩

theorem growsTo_of_run_eq_error {arguments : Arguments} {settings : Settings}
    {workspace : Workspace} {error : RunError}
    (h : ((run arguments settings : InWorkspace _).run workspace).1 = .error error) :
    workspace.files.GrowsTo
      ((run arguments settings : InWorkspace _).run workspace).2.files := by
  rcases run_cases arguments settings workspace with
    ⟨e, -, hgrows⟩ | ⟨original, doc, edited, change, -, -, -, hok, -⟩
  · exact hgrows
  · rw [hok] at h
    cases h

theorem exists_of_run_eq_ok {arguments : Arguments} {settings : Settings}
    {workspace : Workspace} {outcome : Outcome}
    (h : ((run arguments settings : InWorkspace _).run workspace).1 = .ok outcome) :
    ∃ original doc edited change, workspace.files.read arguments.file = .ok original ∧
      Document.ofBytes original = .ok doc ∧
      doc.toggle arguments.cursorLine = .ok (edited, change) ∧
      outcome.text = edited.text ∧
      outcome.cursorLine = cursorAfter arguments.cursorLine change.toggled ∧
      if outcome.written then
        workspace.files.Overwrites arguments.file (Utf8.encode edited.text) settings.backupDir
          ((run arguments settings : InWorkspace _).run workspace).2.files
      else ((run arguments settings : InWorkspace _).run workspace).2.files =
        workspace.files := by
  rcases run_cases arguments settings workspace with
    ⟨e, herror, -⟩ | ⟨original, doc, edited, change, hread, hdoc, htoggle, hok, hfiles⟩
  · rw [herror] at h
    cases h
  · rw [hok] at h
    injection h with h
    subst h
    exact ⟨original, doc, edited, change, hread, hdoc, htoggle, rfl, rfl, hfiles⟩

/-! ## Main results -/

/-- What a run may change. -/
theorem run_changes (arguments : Arguments) (settings : Settings) (workspace : Workspace) :
    let result := (run arguments settings : InWorkspace _).run workspace
    let files := workspace.files
    let after := result.2.files
    (∀ error, result.1 = .error error →
      (∀ location, after.content? location = files.content? location) ∧
        ∀ location, files.node? location = some .folder →
          after.node? location = some .folder) ∧
    (∀ outcome, result.1 = .ok outcome → outcome.written = false → after = files) ∧
    (∀ outcome, result.1 = .ok outcome → outcome.written = true →
      after.read arguments.file = .ok (Utf8.encode outcome.text) ∧
      ∀ location, after.locate arguments.file ≠ .ok location →
        (∀ directory name, settings.backupDir = some directory →
          Path.fileName? arguments.file = some name →
            after.locate (Path.join directory name) ≠ .ok location) →
          after.content? location = files.content? location) ∧
    ∀ (arguments' : Arguments) (settings' : Settings) (workspace' : Workspace) outcome outcome',
      arguments'.file = arguments.file → arguments'.cursorLine = arguments.cursorLine →
        workspace'.files = files → result.1 = .ok outcome →
          ((run arguments' settings' : InWorkspace _).run workspace').1 = .ok outcome' →
            outcome'.text = outcome.text ∧ outcome'.cursorLine = outcome.cursorLine := by
  intro result files after
  refine ⟨?_, ?_, ?_, ?_⟩
  · intro error herror
    have hgrows := growsTo_of_run_eq_error herror
    exact ⟨hgrows.content?_eq, fun _ => hgrows.node?_eq_some⟩
  · intro outcome hok hwritten
    obtain ⟨_, _, _, _, -, -, -, -, -, hfiles⟩ := exists_of_run_eq_ok hok
    rw [hwritten] at hfiles
    exact hfiles
  · intro outcome hok hwritten
    obtain ⟨_, _, edited, _, -, -, -, htext, -, hover⟩ := exists_of_run_eq_ok hok
    rw [hwritten, ← htext] at hover
    exact ⟨hover.read_eq, fun _ => hover.content?_eq⟩
  · intro arguments' settings' workspace' outcome outcome' hfile hline hfiles hok hok'
    obtain ⟨original, doc, edited, change, hread, hdoc, htoggle, htext, hcursor, -⟩ :=
      exists_of_run_eq_ok hok
    obtain ⟨_, _, _, _, hread', hdoc', htoggle', htext', hcursor', -⟩ :=
      exists_of_run_eq_ok hok'
    -- Both runs read the same bytes, and everything else follows from these.
    rw [hfile, hfiles, hread] at hread'
    cases hread'
    rw [hdoc] at hdoc'
    cases hdoc'
    rw [hline, htoggle] at htoggle'
    cases htoggle'
    rw [htext', htext, hcursor', hcursor, hline]
    exact ⟨rfl, rfl⟩

/-- The copy holds what the file held exactly when it is not the file. -/
theorem backup_kept_iff {arguments : Arguments} {settings : Settings} {workspace : Workspace}
    {directory : Text} {outcome : Outcome} (hdirectory : settings.backupDir = some directory)
    (hrun : ((run arguments settings : InWorkspace _).run workspace).1 = .ok outcome)
    (hwritten : outcome.written = true) :
    let after := ((run arguments settings : InWorkspace _).run workspace).2.files
    ∃ name original, Path.fileName? arguments.file = some name ∧
      workspace.files.read arguments.file = .ok original ∧
      (after.read (Path.join directory name) = .ok original ↔
        after.locate (Path.join directory name) ≠ after.locate arguments.file) := by
  intro after
  obtain ⟨original, doc, edited, change, hread, hdoc, htoggle, -, -, hover⟩ :=
    exists_of_run_eq_ok hrun
  rw [hwritten, if_pos rfl, hdirectory] at hover
  obtain ⟨name, original', hname, hread', hapart, hsame⟩ := hover.read_backup
  rw [hread] at hread'
  cases hread'
  refine ⟨name, original, hname, hread, fun hkept heq => ?_, hapart⟩
  have hbytes : Utf8.encode edited.text = original :=
    Except.ok.inj ((hsame heq).symm.trans hkept)
  obtain ⟨toggled, hpreview, rfl, -⟩ := Document.exists_of_toggle htoggle
  rw [← hbytes, Document.ofBytes, Utf8.decode_encode] at hdoc
  have hopened : Document.ofText (doc.apply toggled).text = doc := Except.ok.inj hdoc
  have htext := congrArg Document.text hopened
  exact Document.text_apply_ne hpreview htext

/-- A backup directory that is still to be made. -/
theorem backup_kept_apart :
    ∃ after : FileTree,
      ((run ⟨['a'], 0, .file, true⟩ ⟨false, [], some ['b']⟩ : InWorkspace _).run
        (.ofFiles ⟨[], [([['a']], .file [102, 123, 125])]⟩ [])).2.files = after ∧
      after.read (Path.join ['b'] ['a']) = .ok [102, 123, 125] ∧
      after.read ['a'] =
        .ok (Utf8.encode ['f', 'd', 'o', '\n', ' ', ' ', '\n', 'e', 'n', 'd']) := by
  obtain ⟨name, original, hname, hread, hiff⟩ := @backup_kept_iff ⟨['a'], 0, .file, true⟩
    ⟨false, [], some ['b']⟩ (.ofFiles ⟨[], [([['a']], .file [102, 123, 125])]⟩ []) ['b']
    ⟨['f', 'd', 'o', '\n', ' ', ' ', '\n', 'e', 'n', 'd'], true, 1⟩
    rfl (by decide +kernel) rfl
  have hname' : Path.fileName? ['a'] = some ['a'] := by decide +kernel
  have hread' : FileTree.read ⟨[], [([['a']], .file [102, 123, 125])]⟩ ['a'] =
      .ok [102, 123, 125] := by decide +kernel
  rw [Option.some.inj (hname.symm.trans hname'),
    Except.ok.inj (hread.symm.trans hread')] at hiff
  exact ⟨_, rfl, hiff.2 (by decide +kernel), by decide +kernel⟩

/-- A file is backed up into its own directory, which is spelled another way. -/
theorem not_forall_backup_kept :
    ¬ ∀ (arguments : Arguments) (settings : Settings) (workspace : Workspace)
      (directory name : Text) (outcome : Outcome) (original : Bytes),
      settings.backupDir = some directory →
        Path.fileName? arguments.file = some name →
        workspace.files.read arguments.file = .ok original →
        ((run arguments settings : InWorkspace _).run workspace).1 = .ok outcome →
        outcome.written = true →
        ((run arguments settings : InWorkspace _).run workspace).2.files.read
          (Path.join directory name) = .ok original := by
  intro h
  have hkept := h ⟨['a'], 0, .file, true⟩ ⟨false, [], some ['.', '/']⟩
    (Workspace.ofFiles ⟨[], [([['a']], .file [102, 123, 125])]⟩ []) ['.', '/'] ['a']
    ⟨['f', 'd', 'o', '\n', ' ', ' ', '\n', 'e', 'n', 'd'], true, 1⟩ [102, 123, 125]
    rfl (by decide +kernel) (by decide +kernel) (by decide +kernel) rfl
  revert hkept
  decide +kernel

end Command

end RubyBlocks
