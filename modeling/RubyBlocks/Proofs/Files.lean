import RubyBlocks.Files.Tree

/-!
# What the operations on a file tree do

Paths are followed through directories only, so where a path leads is settled by the
directories of a tree. An operation that takes no directory away keeps every path that
led somewhere (`locate_mono`), and one that leaves the directories as they are changes
no path at all.

There are two kinds of change. Making directories turns places where there was nothing
into directories (`GrowsTo`), and the files stay. Writing a file puts a content at one
location, where there was none or another one (`PutsAt`), and nothing else happens. A
copy is a change of the second kind: it writes twice, to the same place. What it writes
in the end is the content of the source as it is after the first of these writes, and
that one is empty if the two paths lead to the same file.
-/

namespace RubyBlocks

namespace Path

/-- Pieces at the end that say nothing do not count. -/
theorem getLast?_parts {path last : Text} {front silent : List Text}
    (hpieces : pieces path = front ++ last :: silent) (htelling : isTelling last = true)
    (hsilent : ∀ piece ∈ silent, isTelling piece = false) :
    (parts path).getLast? = some last := by
  have hfilter : silent.filter isTelling = [] :=
    List.filter_eq_nil_iff.2 fun piece hpiece => by simp [hsilent piece hpiece]
  rw [parts, hpieces]
  cases front with
  | nil =>
      have hne : last ≠ here := by
        rintro rfl
        simp [isTelling] at htelling
      simp [hne, htelling, hfilter]
  | cons first front =>
      simp only [List.cons_append, List.filter_append, List.filter_cons, htelling, hfilter,
        if_true]
      split
      · rw [← List.cons_append, List.getLast?_concat]
      · split
        · rw [← List.cons_append, List.getLast?_concat]
        · rw [List.getLast?_concat]

end Path

namespace FileTree

/-! ## Locations -/

theorem node?_nil (tree : FileTree) : tree.node? [] = some .folder := if_pos rfl

theorem ne_nil_of_node? {tree : FileTree} {location : Location}
    (h : tree.node? location ≠ some .folder) : location ≠ [] := by
  rintro rfl
  exact h tree.node?_nil

theorem lookup_filter_ne {location other : Location} (hne : other ≠ location) :
    ∀ nodes : List (Location × Node),
      (nodes.filter fun entry => entry.1 != location).lookup other = nodes.lookup other
  | [] => rfl
  | (known, node) :: nodes => by
      have ih := lookup_filter_ne hne nodes
      by_cases hknown : known = location
      · rw [List.filter_cons_of_neg (by simp [hknown]), ih, List.lookup_cons,
          beq_false_of_ne (hknown ▸ hne)]
      · rw [List.filter_cons_of_pos (by simp [hknown]), List.lookup_cons, List.lookup_cons, ih]

theorem node?_insert (tree : FileTree) {location : Location} (hne : location ≠ [])
    (node : Node) (other : Location) :
    (tree.insert location node).node? other =
      if other = location then some node else tree.node? other := by
  by_cases hother : other = location
  · rw [if_pos hother, hother, node?, if_neg hne, insert, List.lookup_cons_self]
  · rw [if_neg hother, node?, node?, insert, List.lookup_cons, beq_false_of_ne hother,
      lookup_filter_ne hother]

/-! ## Following paths -/

/-- Every directory of the tree is one afterwards. -/
structure KeepsFolders (tree after : FileTree) : Prop where
  workingDirectory_eq : after.workingDirectory = tree.workingDirectory
  folder : ∀ location, tree.node? location = some .folder →
    after.node? location = some .folder

theorem walk_cons_eq_ok {tree : FileTree} {location last : Location} {piece : Text}
    {pieces : List Text} (h : tree.walk location (piece :: pieces) = .ok last) :
    tree.node? location = some .folder := by
  rw [walk] at h
  split at h
  · cases h
  · cases h
  · assumption

theorem walk_append (tree : FileTree) (pieces rest : List Text) :
    ∀ location, tree.walk location (pieces ++ rest) =
      (tree.walk location pieces).bind (tree.walk · rest) := by
  induction pieces with
  | nil => intro location; rfl
  | cons piece pieces ih =>
      intro location
      rw [List.cons_append, walk, walk]
      split
      · rfl
      · rfl
      · split
        · exact ih location
        · split
          · exact ih location.dropLast
          · split
            · rfl
            · exact ih (location ++ [piece])

theorem walk_mono {tree after : FileTree} (h : tree.KeepsFolders after) {last : Location}
    (pieces : List Text) :
    ∀ location, tree.walk location pieces = .ok last →
      after.walk location pieces = .ok last := by
  induction pieces with
  | nil => intro location hwalk; exact hwalk
  | cons piece pieces ih =>
      intro location hwalk
      have hfolder := walk_cons_eq_ok hwalk
      rw [walk, hfolder] at hwalk
      rw [walk, h.folder location hfolder]
      by_cases hhere : (piece = [] || piece = Path.here) = true
      · simp only [if_pos hhere] at hwalk ⊢
        exact ih _ hwalk
      · by_cases hup : piece = Path.up
        · simp only [if_neg hhere, if_pos hup] at hwalk ⊢
          exact ih _ hwalk
        · by_cases hlong : isTooLong piece = true
          · simp only [if_neg hhere, if_neg hup, if_pos hlong] at hwalk
            cases hwalk
          · simp only [if_neg hhere, if_neg hup, if_neg hlong] at hwalk ⊢
            exact ih _ hwalk

theorem origin_eq {tree after : FileTree} (h : tree.KeepsFolders after) (path : Text) :
    after.origin path = tree.origin path := by
  rw [origin, origin, h.workingDirectory_eq]

theorem locate_eq_ok_iff {tree : FileTree} {path : Text} {location : Location} :
    tree.locate path = .ok location ↔ checkPath path = .ok () ∧
      tree.walk (tree.origin path) (Path.pieces path) = .ok location := by
  rw [locate]
  cases checkPath path with
  | error e => simp [bind, Except.bind]
  | ok _ => simp [bind, Except.bind]

theorem locate_mono {tree after : FileTree} (h : tree.KeepsFolders after) {path : Text}
    {location : Location} (hlocate : tree.locate path = .ok location) :
    after.locate path = .ok location := by
  rw [locate_eq_ok_iff] at hlocate ⊢
  rw [origin_eq h]
  exact ⟨hlocate.1, walk_mono h _ _ hlocate.2⟩

/-- The path ends in the name of an entry of a directory that is there. -/
structure Enters (tree : FileTree) (path : Text) (parent : Location) (name : Text) :
    Prop where
  check : checkPath path = .ok ()
  name_ne : name ≠ [] ∧ name ≠ Path.here ∧ name ≠ Path.up
  not_long : isTooLong name = false
  folder : tree.node? parent = some .folder
  walk_eq : ∃ front, Path.pieces path = front ++ [name] ∧
    tree.walk (tree.origin path) front = .ok parent

theorem Enters.mono {tree after : FileTree} (h : tree.KeepsFolders after) {path : Text}
    {parent : Location} {name : Text} (henters : tree.Enters path parent name) :
    after.Enters path parent name := by
  obtain ⟨hcheck, hname, hlong, hfolder, front, hpieces, hwalk⟩ := henters
  refine ⟨hcheck, hname, hlong, h.folder _ hfolder, front, hpieces, ?_⟩
  rw [origin_eq h]
  exact walk_mono h _ _ hwalk

theorem Enters.locate_eq {tree : FileTree} {path : Text} {parent : Location} {name : Text}
    (h : tree.Enters path parent name) : tree.locate path = .ok (parent ++ [name]) := by
  obtain ⟨hcheck, ⟨hnil, hhere, hup⟩, hlong, hfolder, front, hpieces, hwalk⟩ := h
  rw [locate_eq_ok_iff]
  refine ⟨hcheck, ?_⟩
  rw [hpieces, walk_append, hwalk]
  show tree.walk parent [name] = _
  rw [walk, hfolder]
  simp [hnil, hhere, hup, hlong, walk]

/-- A walk that ends in a dot or in nothing ends in a directory. -/
theorem node?_of_walk_concat {tree : FileTree} {location last : Location}
    {front : List Text} {piece : Text} (hpiece : piece = [] ∨ piece = Path.here)
    (h : tree.walk location (front ++ [piece]) = .ok last) :
    tree.walk location front = .ok last ∧ tree.node? last = some .folder := by
  rw [walk_append] at h
  cases hfront : tree.walk location front with
  | error e => rw [hfront] at h; cases h
  | ok parent =>
      rw [hfront] at h
      have hfolder := walk_cons_eq_ok h
      have hsame : tree.walk parent [piece] = .ok parent := by
        rw [walk, hfolder]
        simp [hpiece, walk]
      have hlast : parent = last := Except.ok.inj (hsame.symm.trans h)
      rw [← hlast]
      exact ⟨rfl, hfolder⟩

/-- The pieces of a path without the empty ones at its end. -/
theorem exists_pieces_eq (path : Text) :
    ∃ blanks, Path.pieces path =
      ((Path.pieces path).reverse.dropWhile (· == [])).reverse ++ blanks := by
  have h := congrArg List.reverse
    (List.takeWhile_append_dropWhile (p := (· == [])) (l := (Path.pieces path).reverse))
  rw [List.reverse_append, List.reverse_reverse] at h
  exact ⟨_, h.symm⟩

theorem target_eq_entry {tree : FileTree} {path : Text} {location : Location} {slash : Bool}
    (h : tree.target path = .ok (.entry location slash)) :
    checkPath path = .ok () ∧ ∃ parent name front, location = parent ++ [name] ∧
      (name ≠ [] ∧ name ≠ Path.here ∧ name ≠ Path.up) ∧
      tree.node? parent = some .folder ∧ tree.walk (tree.origin path) front = .ok parent ∧
      (slash = false → Path.pieces path = front ++ [name]) := by
  obtain ⟨blanks, hpieces⟩ := exists_pieces_eq path
  have hhead := List.head?_dropWhile_not (· == []) (Path.pieces path).reverse
  simp only [target, bind, Except.bind, pure, Except.pure] at h
  generalize hnamed : (Path.pieces path).reverse.dropWhile (· == []) = named at *
  cases hcheck : checkPath path with
  | error e => rw [hcheck] at h; cases h
  | ok _ =>
      rw [hcheck] at h
      simp only [List.getLast?_reverse] at h
      split at h
      · cases h
      · rename_i name hname
        obtain ⟨front, rfl⟩ := List.head?_eq_some_iff.1 hname
        rw [hname] at hhead
        by_cases hplain : (name = Path.here || name = Path.up) = true
        · rw [if_pos hplain] at h
          split at h <;> cases h
        · rw [if_neg hplain, List.reverse_cons, List.dropLast_concat] at h
          split at h
          · cases h
          · rename_i parent hwalk
            obtain ⟨hfront, hfolder⟩ := node?_of_walk_concat (Or.inr rfl) hwalk
            injection h with h
            injection h with hlocation hslash
            refine ⟨rfl, parent, name, front.reverse, hlocation.symm, ?_, hfolder, hfront, ?_⟩
            · simpa using And.intro hhead hplain
            · intro hfalse
              have hlen := congrArg List.length hpieces
              rw [List.reverse_cons] at hpieces
              rw [hfalse, decide_eq_false_iff_not] at hslash
              obtain rfl : blanks = [] := by
                rw [List.length_append, List.reverse_cons] at hlen
                exact List.eq_nil_of_length_eq_zero (by omega)
              rw [hpieces, List.append_nil]

/-! ## Changes -/

/-- Directories were made where there was nothing. -/
structure GrowsTo (tree after : FileTree) : Prop where
  workingDirectory_eq : after.workingDirectory = tree.workingDirectory
  node?_eq : ∀ location, after.node? location = tree.node? location ∨
    tree.node? location = none ∧ after.node? location = some .folder

/-- A file was written, or written anew, and that was all. -/
structure PutsAt (tree : FileTree) (location : Location) (content : Bytes)
    (after : FileTree) : Prop where
  workingDirectory_eq : after.workingDirectory = tree.workingDirectory
  not_folder : tree.node? location ≠ some .folder
  node?_eq : ∀ other, after.node? other =
    if other = location then some (.file content) else tree.node? other

namespace GrowsTo

theorem refl (tree : FileTree) : tree.GrowsTo tree := ⟨rfl, fun _ => Or.inl rfl⟩

theorem trans {tree middle after : FileTree} (h : tree.GrowsTo middle)
    (h' : middle.GrowsTo after) : tree.GrowsTo after := by
  refine ⟨h'.workingDirectory_eq.trans h.workingDirectory_eq, fun location => ?_⟩
  rcases h.node?_eq location with hsame | ⟨hnone, hmade⟩
  · rw [← hsame]
    exact h'.node?_eq location
  · rcases h'.node?_eq location with hsame' | ⟨hnone', -⟩
    · exact Or.inr ⟨hnone, hsame'.trans hmade⟩
    · rw [hmade] at hnone'
      cases hnone'

theorem insert_folder {tree : FileTree} {location : Location}
    (h : tree.node? location = none) : tree.GrowsTo (tree.insert location .folder) := by
  have hne : location ≠ [] := ne_nil_of_node? (show tree.node? _ ≠ _ by simp [h])
  refine ⟨rfl, fun other => ?_⟩
  rw [node?_insert tree hne]
  by_cases hother : other = location
  · rw [if_pos hother, hother]
    exact Or.inr ⟨h, rfl⟩
  · exact Or.inl (if_neg hother)

theorem node?_eq_some {tree after : FileTree} (h : tree.GrowsTo after) {location : Location}
    {node : Node} (hnode : tree.node? location = some node) :
    after.node? location = some node := by
  rcases h.node?_eq location with hsame | ⟨hnone, -⟩
  · rw [hsame, hnode]
  · rw [hnode] at hnone
    cases hnone

theorem keepsFolders {tree after : FileTree} (h : tree.GrowsTo after) :
    tree.KeepsFolders after :=
  ⟨h.workingDirectory_eq, fun _ => h.node?_eq_some⟩

theorem content?_eq {tree after : FileTree} (h : tree.GrowsTo after) (location : Location) :
    after.content? location = tree.content? location := by
  rw [content?, content?]
  rcases h.node?_eq location with hsame | ⟨hnone, hmade⟩
  · rw [hsame]
  · rw [hnone, hmade]

end GrowsTo

namespace PutsAt

variable {tree middle after : FileTree} {location : Location} {content : Bytes}

theorem insert_file (h : tree.node? location ≠ some .folder) :
    tree.PutsAt location content (tree.insert location (.file content)) :=
  ⟨rfl, h, tree.node?_insert (ne_nil_of_node? h) _⟩

theorem node?_self (h : tree.PutsAt location content after) :
    after.node? location = some (.file content) := by
  rw [h.node?_eq, if_pos rfl]

/-- Of two contents for one place the second stays. -/
theorem trans {content' : Bytes} (h : tree.PutsAt location content middle)
    (h' : middle.PutsAt location content' after) : tree.PutsAt location content' after := by
  refine ⟨h'.workingDirectory_eq.trans h.workingDirectory_eq, h.not_folder, fun other => ?_⟩
  rw [h'.node?_eq, h.node?_eq]
  split <;> rfl

theorem keepsFolders (h : tree.PutsAt location content after) :
    tree.KeepsFolders after := by
  refine ⟨h.workingDirectory_eq, fun other hother => ?_⟩
  have hne : other ≠ location := fun heq => h.not_folder (heq ▸ hother)
  rw [h.node?_eq, if_neg hne, hother]

theorem keepsFolders_back (h : tree.PutsAt location content after) :
    after.KeepsFolders tree := by
  refine ⟨h.workingDirectory_eq.symm, fun other hother => ?_⟩
  rw [h.node?_eq] at hother
  split at hother
  · cases hother
  · exact hother

theorem locate_eq_ok_iff (h : tree.PutsAt location content after) {path : Text}
    {other : Location} : after.locate path = .ok other ↔ tree.locate path = .ok other :=
  ⟨locate_mono h.keepsFolders_back, locate_mono h.keepsFolders⟩

theorem content?_eq (h : tree.PutsAt location content after) (other : Location) :
    after.content? other = if other = location then some content else tree.content? other := by
  rw [FileTree.content?, FileTree.content?, h.node?_eq]
  by_cases hother : other = location
  · rw [if_pos hother, if_pos hother]
  · rw [if_neg hother, if_neg hother]

end PutsAt

/-! ## Operations -/

theorem read_eq_ok_iff {tree : FileTree} {path : Text} {content : Bytes} :
    tree.read path = .ok content ↔ ∃ location, tree.locate path = .ok location ∧
      tree.node? location = some (.file content) := by
  simp only [read, bind, Except.bind, pure, Except.pure, throw, throwThe, MonadExceptOf.throw]
  cases tree.locate path with
  | error e => simp
  | ok location =>
      simp only [Except.ok.injEq, exists_eq_left']
      split <;> simp_all

theorem entryNode?_eq_ok_iff {tree : FileTree} {location : Location} {node : Option Node} :
    tree.entryNode? location = .ok node ↔
      location.getLast?.any isTooLong = false ∧ tree.node? location = node := by
  rw [entryNode?]
  cases location.getLast?.any isTooLong <;> simp

theorem growsTo_of_createFolder {tree after : FileTree} {path : Text}
    (h : tree.createFolder path = .ok after) : tree.GrowsTo after := by
  simp only [createFolder, bind, Except.bind, pure, Except.pure, throw, throwThe,
    MonadExceptOf.throw] at h
  split at h
  · cases h
  · split at h
    · cases h
    · split at h
      · cases h
      · rename_i node hentry
        have hnode := (entryNode?_eq_ok_iff.1 hentry).2
        cases node with
        | some node => cases h
        | none =>
            cases h
            exact GrowsTo.insert_folder hnode

theorem Enters.target_eq {tree : FileTree} {path : Text} {parent : Location} {name : Text}
    (h : tree.Enters path parent name) :
    tree.target path = .ok (.entry (parent ++ [name]) false) := by
  obtain ⟨hcheck, ⟨hnil, hhere, hup⟩, -, hfolder, front, hpieces, hwalk⟩ := h
  have hnamed : ((Path.pieces path).reverse.dropWhile (· == [])).reverse =
      front ++ [name] := by
    rw [hpieces, List.reverse_concat, List.dropWhile_cons_of_neg (by simpa using hnil),
      List.reverse_cons, List.reverse_reverse]
  have hparent : tree.walk (tree.origin path) (front ++ [Path.here]) = .ok parent := by
    rw [walk_append, hwalk]
    show tree.walk parent [Path.here] = _
    rw [walk, hfolder]
    simp [walk]
  simp only [target, hcheck, hnamed, bind, Except.bind, List.getLast?_concat,
    List.dropLast_concat, hparent, pure, Except.pure]
  simp [hhere, hup, hpieces]

theorem write_eq_ok_iff {tree after : FileTree} {path : Text} {content : Bytes} :
    tree.write path content = .ok after ↔ ∃ parent name, tree.Enters path parent name ∧
      tree.node? (parent ++ [name]) ≠ some .folder ∧
      after = tree.insert (parent ++ [name]) (.file content) := by
  constructor
  · intro h
    simp only [write, bind, Except.bind, pure, Except.pure, throw, throwThe,
      MonadExceptOf.throw] at h
    split at h
    · cases h
    · rename_i target htarget
      cases target with
      | folder => cases h
      | entry location slash =>
          cases slash with
          | true => cases h
          | false =>
              obtain ⟨hcheck, parent, name, front, rfl, hname, hfolder, hwalk, hpieces⟩ :=
                target_eq_entry htarget
              simp only [Bool.false_eq_true, if_false] at h
              split at h
              · cases h
              · rename_i node hentry
                obtain ⟨hlong, hnode⟩ := entryNode?_eq_ok_iff.1 hentry
                rw [List.getLast?_concat, Option.any_some] at hlong
                split at h
                · cases h
                · rename_i hne
                  cases h
                  refine ⟨parent, name, ⟨hcheck, hname, hlong, hfolder, front, hpieces rfl, hwalk⟩,
                    ?_, rfl⟩
                  rw [hnode]
                  simpa using hne
  · rintro ⟨parent, name, henters, hnode, rfl⟩
    have hentry : tree.entryNode? (parent ++ [name]) = .ok (tree.node? (parent ++ [name])) := by
      rw [entryNode?_eq_ok_iff, List.getLast?_concat, Option.any_some]
      exact ⟨henters.not_long, rfl⟩
    simp [write, henters.target_eq, hentry, hnode, bind, Except.bind, pure, Except.pure]

theorem putsAt_of_write {tree after : FileTree} {path : Text} {content : Bytes}
    (h : tree.write path content = .ok after) :
    ∃ location, tree.locate path = .ok location ∧ tree.PutsAt location content after := by
  obtain ⟨parent, name, henters, hnode, rfl⟩ := write_eq_ok_iff.1 h
  exact ⟨_, henters.locate_eq, PutsAt.insert_file hnode⟩

/-- What was written can be written again. -/
theorem exists_write_again {tree middle : FileTree} {path : Text} {content : Bytes}
    (h : tree.write path content = .ok middle) (content' : Bytes) :
    ∃ after, middle.write path content' = .ok after := by
  obtain ⟨parent, name, henters, hnode, rfl⟩ := write_eq_ok_iff.1 h
  have hputs : tree.PutsAt _ content _ := PutsAt.insert_file hnode
  refine ⟨_, write_eq_ok_iff.2 ⟨parent, name, henters.mono hputs.keepsFolders, ?_, rfl⟩⟩
  rw [hputs.node?_self]
  simp

/-- A copy fails before it has written anything, or it puts the content of the source at
the destination. If that is the source, there is no content any more. -/
theorem copy_cases (tree : FileTree) (source destination : Text) :
    (∃ e, tree.copy source destination = .error e ∧
        (tree.read source = .error e ∨ tree.write destination [] = .error e)) ∨
      ∃ origin target content after, tree.copy source destination = .ok after ∧
        tree.locate source = .ok origin ∧ tree.node? origin = some (.file content) ∧
        tree.locate destination = .ok target ∧
        tree.PutsAt target (if target = origin then [] else content) after := by
  simp only [copy, bind, Except.bind]
  cases hread : tree.read source with
  | error e => exact Or.inl ⟨e, rfl, Or.inl rfl⟩
  | ok content =>
      cases hwrite : tree.write destination [] with
      | error e => exact Or.inl ⟨e, rfl, Or.inr rfl⟩
      | ok emptied =>
          right
          obtain ⟨origin, horigin, hfile⟩ := read_eq_ok_iff.1 hread
          obtain ⟨target, htarget, hputs⟩ := putsAt_of_write hwrite
          have hagain : emptied.read source =
              .ok (if target = origin then [] else content) := by
            refine read_eq_ok_iff.2 ⟨origin, hputs.locate_eq_ok_iff.2 horigin, ?_⟩
            rw [hputs.node?_eq]
            by_cases hsame : target = origin
            · rw [if_pos hsame.symm, if_pos hsame]
            · rw [if_neg (Ne.symm hsame), if_neg hsame, hfile]
          obtain ⟨after, hafter⟩ := exists_write_again hwrite
            (if target = origin then [] else content)
          obtain ⟨target', htarget', hputs'⟩ := putsAt_of_write hafter
          have heq : target' = target :=
            Except.ok.inj ((hputs.locate_eq_ok_iff.1 htarget').symm.trans htarget)
          subst heq
          refine ⟨origin, target', content, after, ?_, horigin, hfile, htarget,
            hputs.trans hputs'⟩
          simp only [hagain, hafter]

/-- A path that leads to a file and has a name at its end ends in this name. -/
theorem enters_of_read {tree : FileTree} {path name : Text} {content : Bytes}
    (hread : tree.read path = .ok content) (hname : Path.fileName? path = some name) :
    ∃ parent, tree.Enters path parent name := by
  obtain ⟨location, hlocate, hfile⟩ := read_eq_ok_iff.1 hread
  obtain ⟨hcheck, hwalk⟩ := locate_eq_ok_iff.1 hlocate
  obtain ⟨front, last, hpieces⟩ : ∃ front last, Path.pieces path = front ++ [last] :=
    ⟨_, _, (List.dropLast_concat_getLast (List.splitOn_ne_nil '/' path)).symm⟩
  rw [hpieces] at hwalk
  by_cases hsilent : last = [] ∨ last = Path.here
  · rw [(node?_of_walk_concat hsilent hwalk).2] at hfile
    cases hfile
  · rw [not_or] at hsilent
    have htelling : Path.isTelling last = true := by
      simpa [Path.isTelling] using hsilent
    rw [Path.fileName?, Path.getLast?_parts hpieces htelling (by simp)] at hname
    obtain ⟨hlast, hplain⟩ := Option.filter_eq_some_iff.1 hname
    injection hlast with hlast
    subst hlast
    have hup : last ≠ Path.up := by
      rintro rfl
      simp at hplain
    rw [walk_append] at hwalk
    cases hfront : tree.walk (tree.origin path) front with
    | error e => rw [hfront] at hwalk; cases hwalk
    | ok parent =>
        rw [hfront] at hwalk
        have hfolder := walk_cons_eq_ok hwalk
        refine ⟨parent, hcheck, ⟨hsilent.1, hsilent.2, hup⟩, ?_, hfolder, front, hpieces, hfront⟩
        rw [Except.bind, walk, hfolder] at hwalk
        cases hlong : isTooLong last with
        | false => rfl
        | true => simp [hsilent, hup, hlong] at hwalk

end FileTree

/-! ## Computations in a workspace

The equations take a computation apart into its steps. -/

namespace Workspace

variable {α β : Type}

theorem run_bind (action : InWorkspace α) (next : α → InWorkspace β) (workspace : Workspace) :
    (action >>= next).run workspace =
      (next (action.run workspace).1).run (action.run workspace).2 := rfl

theorem run_pure (answer : α) (workspace : Workspace) :
    (pure answer : InWorkspace α).run workspace = (answer, workspace) := rfl

theorem run_read (path : Text) (workspace : Workspace) :
    (Host.read path : InWorkspace _).run workspace =
      (workspace.files.read path, workspace) := rfl

theorem run_createFolder (path : Text) (workspace : Workspace) :
    (Host.createFolder path : InWorkspace _).run workspace =
      (update (·.createFolder path)).run workspace := rfl

theorem run_write (path : Text) (content : Bytes) (workspace : Workspace) :
    (Host.write path content : InWorkspace _).run workspace =
      (update (·.write path content)).run workspace := rfl

theorem run_copy (source destination : Text) (workspace : Workspace) :
    (Host.copy source destination : InWorkspace _).run workspace =
      (update (·.copy source destination)).run workspace := rfl

theorem run_update_ok {operation : FileTree → Except FileError FileTree}
    {workspace : Workspace} {files : FileTree} (h : operation workspace.files = .ok files) :
    (update operation).run workspace = (.ok (), { workspace with files }) := by
  show update operation workspace = _
  rw [update, h]

theorem run_update_error {operation : FileTree → Except FileError FileTree}
    {workspace : Workspace} {e : FileError} (h : operation workspace.files = .error e) :
    (update operation).run workspace = (.error e, workspace) := by
  show update operation workspace = _
  rw [update, h]

/-- Directories were made, and the environment is the same. -/
structure GrowsTo (workspace after : Workspace) : Prop where
  files : workspace.files.GrowsTo after.files
  environment_eq : after.environment = workspace.environment

theorem GrowsTo.refl (workspace : Workspace) : workspace.GrowsTo workspace :=
  ⟨FileTree.GrowsTo.refl _, rfl⟩

theorem GrowsTo.trans {workspace middle after : Workspace} (h : workspace.GrowsTo middle)
    (h' : middle.GrowsTo after) : workspace.GrowsTo after :=
  ⟨h.files.trans h'.files, h'.environment_eq.trans h.environment_eq⟩

theorem growsTo_createFolder (path : Text) (workspace : Workspace) :
    workspace.GrowsTo ((Host.createFolder path : InWorkspace _).run workspace).2 := by
  rw [run_createFolder]
  cases h : workspace.files.createFolder path with
  | ok files =>
      rw [run_update_ok h]
      exact ⟨FileTree.growsTo_of_createFolder h, rfl⟩
  | error e =>
      rw [run_update_error h]
      exact GrowsTo.refl workspace

theorem growsTo_createFolderWithin (paths : List Text) :
    ∀ workspace : Workspace, workspace.GrowsTo
      ((Host.createFolderWithin paths : InWorkspace _).run workspace).2 := by
  induction paths with
  | nil => exact GrowsTo.refl
  | cons path parents ih =>
      intro workspace
      have hfirst := growsTo_createFolder path workspace
      rw [Host.createFolderWithin, run_bind]
      generalize (Host.createFolder path : InWorkspace _).run workspace = first at hfirst ⊢
      obtain ⟨answer, middle⟩ := first
      cases answer with
      | ok _ => exact hfirst
      | error e =>
          cases e with
          | notFound =>
              have hparents := hfirst.trans (ih middle)
              simp only [run_bind]
              generalize (Host.createFolderWithin parents : InWorkspace _).run middle = second
                at hparents ⊢
              obtain ⟨answer, made⟩ := second
              cases answer with
              | error e => exact hparents
              | ok _ =>
                  have hagain := hparents.trans (growsTo_createFolder path made)
                  simp only [run_bind]
                  generalize (Host.createFolder path : InWorkspace _).run made = third
                    at hagain ⊢
                  obtain ⟨answer, after⟩ := third
                  cases answer <;> exact hagain
          | _ => exact hfirst

theorem growsTo_createFolders (path : Text) (workspace : Workspace) :
    workspace.GrowsTo ((Host.createFolders path : InWorkspace _).run workspace).2 :=
  growsTo_createFolderWithin (Path.ancestors path) workspace

theorem files_recordAll (events : List Event) :
    ∀ workspace : Workspace,
      ((Host.recordAll events : InWorkspace _).run workspace).2.files = workspace.files := by
  induction events with
  | nil => exact fun _ => rfl
  | cons event events ih =>
      intro workspace
      rw [Host.recordAll, run_bind, ih]
      rfl

end Workspace

end RubyBlocks
