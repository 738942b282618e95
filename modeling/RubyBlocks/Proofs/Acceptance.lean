import RubyBlocks.Proofs.Patterns
import RubyBlocks.Proofs.Storage

/-!
# Which files are accepted

A file is accepted for its name alone. The name is the last part of the path, so what
stands in front of it and what says nothing behind it may be anything
(`fileName?_in_folder`), and a pattern that speaks of directories finds none in it.

Patterns are looked at twice. Loading goes through them to find one that cannot be
compiled, and accepting compiles them and passes over those that cannot be. The two never
disagree, because both ask the same question of each pattern by itself: loaded settings
have nothing to pass over, and in others what is passed over may as well not be there.
-/

namespace RubyBlocks

namespace Path

/-! ## The name of a file -/

/-- The text can be the name of a file. -/
structure IsName (name : Text) : Prop where
  ne_nil : name ≠ []
  not_mem : '/' ∉ name
  ne_here : name ≠ here
  ne_up : name ≠ up

theorem fileName?_of_pieces {path name : Text} {front silent : List Text}
    (hname : IsName name) (hpieces : pieces path = front ++ name :: silent)
    (hsilent : ∀ piece ∈ silent, isTelling piece = false) : fileName? path = some name := by
  have htelling : isTelling name = true := by
    simp [isTelling, hname.ne_nil, hname.ne_here]
  rw [fileName?, getLast?_parts hpieces htelling hsilent, Option.filter_some, if_pos]
  simp [hname.ne_here, hname.ne_up]

theorem fileName?_self {name : Text} (hname : IsName name) : fileName? name = some name := by
  have hpieces : pieces name = [] ++ name :: [] := List.splitOn_eq_singleton hname.not_mem
  exact fileName?_of_pieces hname hpieces (by simp)

/-- The name stays the same in any directory, with a slash behind it and with a dot behind
that. -/
theorem fileName?_in_folder {name : Text} (hname : IsName name) (folder : Text) :
    fileName? (folder ++ '/' :: name) = some name ∧
      fileName? (folder ++ '/' :: (name ++ ['/'])) = some name ∧
      fileName? (folder ++ '/' :: (name ++ ['/', '.'])) = some name := by
  have hcut : ∀ rest, pieces (folder ++ '/' :: rest) = pieces folder ++ pieces rest :=
    fun rest => List.splitOn_append_cons_self folder rest
  have hslash : ∀ rest, pieces (name ++ '/' :: rest) = name :: pieces rest :=
    fun rest => List.splitOn_append_cons_self_of_not_mem hname.not_mem rest
  have hself : pieces name = [name] := List.splitOn_eq_singleton hname.not_mem
  refine ⟨?_, ?_, ?_⟩
  · have hpieces : pieces (folder ++ '/' :: name) = pieces folder ++ name :: [] := by
      rw [hcut, hself]
    exact fileName?_of_pieces hname hpieces (by simp)
  · have hpieces : pieces (folder ++ '/' :: (name ++ ['/'])) =
        pieces folder ++ name :: [[]] := by
      rw [hcut, hslash]
      rfl
    exact fileName?_of_pieces hname hpieces (by decide)
  · have hpieces : pieces (folder ++ '/' :: (name ++ ['/', '.'])) =
        pieces folder ++ name :: [here] := by
      rw [hcut, hslash]
      rfl
    exact fileName?_of_pieces hname hpieces (by decide)

end Path

namespace Settings

/-! ## Patterns that can be compiled -/

/-- The patterns that can be compiled, in their order. -/
def usablePatterns (settings : Settings) : List Text :=
  settings.filePatterns.filter fun pattern => (Glob.compile pattern).toOption.isSome

/-- The name is one that a pattern matches. -/
def HasPatternFor (settings : Settings) (name : Text) : Prop :=
  ∃ pattern ∈ settings.filePatterns, ∃ glob, Glob.compile pattern = .ok glob ∧
    Glob.Matches glob.items name

theorem fileFilter_congr {settings other : Settings}
    (h : other.usablePatterns = settings.usablePatterns) :
    other.fileFilter = settings.fileFilter := by
  have hglobs : ∀ settings : Settings, settings.fileFilter =
      ⟨settings.usablePatterns.filterMap fun pattern =>
        (Glob.compile pattern).toOption⟩ := by
    intro settings
    rw [fileFilter, usablePatterns, List.filterMap_filter]
    congr 2
    funext pattern
    cases (Glob.compile pattern).toOption <;> rfl
  rw [hglobs, hglobs, h]

theorem toOption_compile_eq_some_iff {pattern : Text} {glob : Glob} :
    (Glob.compile pattern).toOption = some glob ↔ Glob.compile pattern = .ok glob := by
  cases Glob.compile pattern <;> simp [Except.toOption]

theorem any_globs_iff {settings : Settings} {name : Text} :
    settings.fileFilter.globs.any (·.accepts name) = true ↔ settings.HasPatternFor name := by
  rw [List.any_eq_true]
  simp only [fileFilter, List.mem_filterMap, toOption_compile_eq_some_iff, Glob.accepts_iff]
  constructor
  · rintro ⟨glob, ⟨pattern, hpattern, hcompile⟩, hmatches⟩
    exact ⟨pattern, hpattern, glob, hcompile, hmatches⟩
  · rintro ⟨pattern, hpattern, glob, hcompile, hmatches⟩
    exact ⟨glob, ⟨pattern, hpattern, hcompile⟩, hmatches⟩

theorem accepts_name_iff {settings : Settings} {path : Text} :
    settings.accepts path = true ↔
      ∃ name, Path.fileName? path = some name ∧ settings.HasPatternFor name := by
  rw [accepts, FileFilter.accepts]
  cases Path.fileName? path with
  | none => simp
  | some name =>
      rw [Option.any_some, any_globs_iff]
      simp only [Option.some.injEq, exists_eq_left']

theorem compiles_of_firstBadPattern? {settings : Settings}
    (h : settings.firstBadPattern? = none) :
    ∀ pattern ∈ settings.filePatterns, ∃ glob, Glob.compile pattern = .ok glob := by
  intro pattern hpattern
  rw [firstBadPattern?, List.findSome?_eq_none_iff] at h
  have hnone := h pattern hpattern
  cases hcompile : Glob.compile pattern with
  | ok glob => exact ⟨glob, rfl⟩
  | error fault =>
      rw [hcompile] at hnone
      cases hnone

theorem compiles_of_ofDocument {path document : Text} {settings : Settings}
    (h : ofDocument path document = .ok settings) :
    ∀ pattern ∈ settings.filePatterns, ∃ glob, Glob.compile pattern = .ok glob := by
  rw [ofDocument] at h
  split at h
  · cases h
  · split at h <;> rename_i hbad
    · cases h
    · cases h
      exact compiles_of_firstBadPattern? hbad

open Workspace

/-- Loaded settings were in a document, apart from the expansion. -/
theorem exists_of_load {path : Text} {workspace : Workspace} {settings : Settings}
    (h : ((load path : InWorkspace _).run workspace).1 = .ok (some settings)) :
    ∃ document unexpanded, ofDocument path document = .ok unexpanded ∧
      settings = unexpanded.expanded workspace.environment := by
  have hexists : (Host.pathExists path : InWorkspace _).run workspace =
      (workspace.files.pathExists path, workspace) := rfl
  rw [load, run_bind, hexists] at h
  cases hpath : workspace.files.pathExists path with
  | false =>
      rw [hpath] at h
      cases h
  | true =>
      rw [hpath] at h
      simp only [Bool.not_true, Bool.false_eq_true, if_false] at h
      rw [run_bind, run_read] at h
      cases hread : workspace.files.read path with
      | error e =>
          rw [hread] at h
          cases h
      | ok bytes =>
          rw [hread] at h
          simp only at h
          split at h
          · cases h
          · rename_i document hdecode
            split at h
            · cases h
            · rename_i unexpanded hdocument
              cases h
              exact ⟨document, unexpanded, hdocument, rfl⟩

/-! ## What is accepted -/

/-- A file is accepted if one of the patterns that can be compiled matches its name, and
loaded settings have no other patterns. Those that cannot be compiled may be added and
removed, and so may the directories of the path. -/
theorem accepts_by_name (settings : Settings) :
    (∀ path workspace,
      ((load path : InWorkspace _).run workspace).1 = .ok (some settings) →
        ∀ pattern ∈ settings.filePatterns, ∃ glob, Glob.compile pattern = .ok glob) ∧
    (∀ file, settings.accepts file = true ↔
      ∃ name, Path.fileName? file = some name ∧ settings.HasPatternFor name) ∧
    (∀ file, settings.fileFilter.accepts file = settings.accepts file) ∧
    (∀ other : Settings, other.usablePatterns = settings.usablePatterns →
      ∀ file, other.accepts file = settings.accepts file ∧
        other.fileFilter.accepts file = settings.fileFilter.accepts file) ∧
    ∀ folder name, Path.IsName name →
      settings.accepts (folder ++ '/' :: name) = settings.accepts name ∧
      settings.accepts (folder ++ '/' :: (name ++ ['/'])) = settings.accepts name ∧
      settings.accepts (folder ++ '/' :: (name ++ ['/', '.'])) = settings.accepts name := by
  refine ⟨fun path workspace hload => ?_, fun file => accepts_name_iff, fun file => rfl,
    fun other husable file => ?_, fun folder name hname => ?_⟩
  · obtain ⟨document, unexpanded, hdocument, rfl⟩ := exists_of_load hload
    -- The patterns are not expanded.
    show ∀ pattern ∈ unexpanded.filePatterns, _
    exact compiles_of_ofDocument hdocument
  · rw [accepts, accepts, fileFilter_congr husable]
    exact ⟨rfl, rfl⟩
  · obtain ⟨hplain, hslash, hdot⟩ := Path.fileName?_in_folder hname folder
    simp only [accepts, FileFilter.accepts, hplain, hslash, hdot, Path.fileName?_self hname,
      and_self]

/-- The settings are loaded, and a pattern that cannot be compiled is put on either side of
theirs. -/
theorem accepts_by_name_loaded :
    let document := "file_patterns = ['?_*.rb']".toList
    let settings : Settings := ⟨false, ["?_*.rb".toList], none⟩
    let other : Settings := ⟨true, ["[a".toList, "?_*.rb".toList, "a**".toList], some []⟩
    let name := "é_a.rb".toList
    ((load ['c'] : InWorkspace _).run
      (.ofFiles ⟨[], [([['c']], .file (Utf8.encode document))]⟩ [])).1 =
        .ok (some settings) ∧
    (∀ pattern ∈ settings.filePatterns, ∃ glob, Glob.compile pattern = .ok glob) ∧
    other.usablePatterns = settings.usablePatterns ∧
    (∀ file, other.accepts file = settings.accepts file) ∧
    Path.IsName name ∧ settings.HasPatternFor name ∧
    settings.accepts ("..//b".toList ++ '/' :: (name ++ ['/', '.'])) = true := by
  intro document settings other name
  have hread : read document = some settings := by decide +kernel
  have hload : ((load ['c'] : InWorkspace _).run
      (.ofFiles ⟨[], [([['c']], .file (Utf8.encode document))]⟩ [])).1 =
        .ok (some settings) := by
    have hgood : settings.firstBadPattern? = none := by decide +kernel
    rw [run_load rfl, ofDocument, hread]
    simp only [hgood]
    rfl
  have husable : other.usablePatterns = settings.usablePatterns := by decide +kernel
  have hname : Path.IsName name := ⟨by decide, by decide, by decide, by decide⟩
  have haccepts : settings.accepts name = true := by decide +kernel
  obtain ⟨hcompile, hiff, -, hother, hfolder⟩ := accepts_by_name settings
  obtain ⟨_, hself, hpattern⟩ := (hiff name).1 haccepts
  rw [Path.fileName?_self hname, Option.some.injEq] at hself
  refine ⟨hload, hcompile _ _ hload, husable, fun file => (hother other husable file).1,
    hname, hself ▸ hpattern, ?_⟩
  rw [(hfolder _ name hname).2.2, haccepts]

/-- Without settings, the files are those whose names Ruby files have. -/
theorem standard_accepts_iff (path : Text) :
    standard.accepts path = true ↔ ∃ name, Path.fileName? path = some name ∧
      ((∃ ending ∈ [".rb", ".rake", ".gemspec", ".ru"], ending.toList <:+ name) ∨
        name = "Gemfile".toList ∨ name = "Rakefile".toList) := by
  have hpatterns : standard.filePatterns =
      ['*' :: ".rb".toList, '*' :: ".rake".toList, '*' :: ".gemspec".toList,
        '*' :: ".ru".toList, "Gemfile".toList, "Rakefile".toList] := by decide
  rw [accepts_name_iff]
  refine exists_congr fun name => and_congr_right fun _ => ?_
  rw [HasPatternFor, hpatterns]
  simp only [List.mem_cons, List.not_mem_nil, or_false, exists_eq_or_imp, exists_eq_left,
    or_assoc]
  rw [Glob.matches_ending_iff (by decide), Glob.matches_ending_iff (by decide),
    Glob.matches_ending_iff (by decide), Glob.matches_ending_iff (by decide),
    Glob.matches_plain_iff (by decide), Glob.matches_plain_iff (by decide)]

end Settings

end RubyBlocks
