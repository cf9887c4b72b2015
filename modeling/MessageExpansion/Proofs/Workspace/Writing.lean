import MessageExpansion.Command.Source
import MessageExpansion.Proofs.Catalog
import MessageExpansion.Proofs.Workspace

/-!
# What writing changes in a tree

Writing a file changes the file at one place.  Directories may be made for it, but whatever was in
the tree stays there, and a directory stays one, so a path that led somewhere still leads to that
place.
-/

namespace MessageExpansion

open MessageExpansion.Path (IsEntryName)

namespace FileTree

/-- There is a directory at a place. -/
def IsDirectoryAt (tree : FileTree) (place : Place) : Prop :=
  ∃ entries, tree.get? place = some (.directory entries)

/-- What becomes of a tree when files are written at some places. -/
structure WrittenAt (before after : FileTree) (places : Place → Prop) : Prop where
  directories : ∀ place, before.IsDirectoryAt place → after.IsDirectoryAt place
  present : ∀ place, (before.get? place).isSome → (after.get? place).isSome
  files : ∀ place text, after.get? place = some (.file text) →
    before.get? place = some (.file text) ∨ places place

variable {tree before middle after new : FileTree} {place : Place}
  {places others : Place → Prop}

theorem WrittenAt.refl
    (tree : FileTree)
    (places : Place → Prop) :
    tree.WrittenAt tree places :=
  ⟨fun _ => id, fun _ => id, fun _ _ => .inl⟩

theorem WrittenAt.trans
    (first : before.WrittenAt middle places)
    (second : middle.WrittenAt after places) :
    before.WrittenAt after places :=
  ⟨fun place there => second.directories place (first.directories place there),
    fun place there => second.present place (first.present place there),
    fun place text there =>
      (second.files place text there).elim (fun old => first.files place text old) .inr⟩

theorem WrittenAt.mono
    (written : before.WrittenAt after places)
    (more : ∀ place, places place → others place) :
    before.WrittenAt after others :=
  ⟨written.directories, written.present,
    fun place text there => (written.files place text there).imp_right (more place)⟩

theorem child?_directory_insertEntry
    (name wanted : String)
    (child : FileTree)
    (entries : List (String × FileTree)) :
    (FileTree.directory (SortedMap.insertEntry name child entries)).child? wanted =
      if wanted = name then some child else (FileTree.directory entries).child? wanted := by
  unfold child?
  simp only [FileTree.entries]
  rw [SortedMap.find?_insertEntry]
  split <;> rfl

/-- What is put at a place is there, with all that is below it. -/
theorem get?_put?_append
    (put : put? new place tree = some after)
    (rest : Place) :
    after.get? (place ++ rest) = new.get? rest := by
  fun_induction put? new place tree generalizing after with
  | case1 =>
      cases put
      rfl
  | case2 => cases put
  | case3 name entries =>
      cases put
      rw [List.singleton_append, get?, child?_directory_insertEntry, if_pos rfl]
      rfl
  | case4 => cases put
  | case5 name next others entries child isChild inductionHypothesis =>
      obtain ⟨inner, putBelow, rfl⟩ := Option.map_eq_some_iff.mp put
      rw [List.cons_append, get?, child?_directory_insertEntry, if_pos rfl]
      exact inductionHypothesis putBelow

/-- Elsewhere nothing changes, except that a directory on the way to the place gets an entry. -/
theorem get?_put?_of_not_prefix
    (put : put? new place tree = some after)
    {other : Place}
    (elsewhere : ¬ place <+: other) :
    after.get? other = tree.get? other ∨
      tree.IsDirectoryAt other ∧ after.IsDirectoryAt other := by
  fun_induction put? new place tree generalizing after other with
  | case1 => exact absurd List.nil_prefix elsewhere
  | case2 => cases put
  | case3 name entries =>
      cases put
      cases other with
      | nil => exact .inr ⟨⟨_, rfl⟩, ⟨_, rfl⟩⟩
      | cons first rest =>
          have different : first ≠ name := by
            rintro rfl
            exact elsewhere (List.prefix_append [first] rest)
          rw [get?, child?_directory_insertEntry, if_neg different]
          exact .inl rfl
  | case4 => cases put
  | case5 name next others entries child isChild inductionHypothesis =>
      obtain ⟨inner, putBelow, rfl⟩ := Option.map_eq_some_iff.mp put
      cases other with
      | nil => exact .inr ⟨⟨_, rfl⟩, ⟨_, rfl⟩⟩
      | cons first rest =>
          unfold IsDirectoryAt
          rw [get?, get?, child?_directory_insertEntry]
          by_cases same : first = name
          · subst same
            rw [if_pos rfl, isChild]
            exact inductionHypothesis putBelow fun isPrefix =>
              elsewhere ((List.prefix_cons_inj first).mpr isPrefix)
          · rw [if_neg same]
            exact .inl rfl

/-- Something can be put into a directory only. -/
theorem isDirectoryAt_of_put?
    {name : String}
    (put : put? new (place ++ [name]) tree = some after) :
    tree.IsDirectoryAt place := by
  induction place generalizing tree after with
  | nil =>
      cases tree with
      | file text => cases put
      | directory entries => exact ⟨entries, rfl⟩
  | cons first rest inductionHypothesis =>
      obtain ⟨next, more, onward⟩ :=
        List.exists_cons_of_ne_nil (show rest ++ [name] ≠ [] by simp)
      rw [List.cons_append, onward] at put
      cases tree with
      | file text => cases put
      | directory entries =>
          rw [put?] at put
          split at put
          · cases put
          · next child isChild =>
              obtain ⟨inner, putBelow, -⟩ := Option.map_eq_some_iff.mp put
              rw [← onward] at putBelow
              obtain ⟨childEntries, there⟩ := inductionHypothesis putBelow
              exact ⟨childEntries, by rw [get?, isChild]; exact there⟩

/-- Below a place without a directory there is nothing. -/
theorem get?_append_of_not_isDirectoryAt
    (noDirectory : ¬ tree.IsDirectoryAt place)
    (name : String)
    (rest : Place) :
    tree.get? (place ++ name :: rest) = none := by
  rw [get?_append]
  cases there : tree.get? place with
  | none => rfl
  | some found =>
      cases found with
      | file text => rfl
      | directory entries => exact absurd ⟨entries, there⟩ noDirectory

/-- A file or an empty directory that is put where no directory is hides nothing. -/
theorem writtenAt_put?
    (plain : new.entries = [])
    (noDirectory : ¬ tree.IsDirectoryAt place)
    (put : put? new place tree = some after) :
    tree.WrittenAt after fun other => other = place ∧ new.isFile = true := by
  have below (name : String) (rest : Place) : new.get? (name :: rest) = none := by
    rw [get?, child?, plain]
    rfl
  refine ⟨fun other there => ?_, fun other there => ?_, fun other text there => ?_⟩
  all_goals by_cases isPrefix : place <+: other
  · obtain ⟨rest, rfl⟩ := isPrefix
    cases rest with
    | nil => exact absurd (List.append_nil place ▸ there) noDirectory
    | cons name rest =>
        obtain ⟨entries, there⟩ := there
        rw [get?_append_of_not_isDirectoryAt noDirectory] at there
        cases there
  · rcases get?_put?_of_not_prefix put isPrefix with same | ⟨-, directory⟩
    · exact there.imp fun entries there => same.trans there
    · exact directory
  · obtain ⟨rest, rfl⟩ := isPrefix
    cases rest with
    | nil =>
        rw [get?_put?_append put]
        rfl
    | cons name rest =>
        rw [get?_append_of_not_isDirectoryAt noDirectory] at there
        cases there
  · rcases get?_put?_of_not_prefix put isPrefix with same | ⟨-, entries, directory⟩
    · rwa [same]
    · rw [directory]
      rfl
  · obtain ⟨rest, rfl⟩ := isPrefix
    rw [get?_put?_append put] at there
    cases rest with
    | nil =>
        cases there
        exact .inr ⟨List.append_nil place, rfl⟩
    | cons name rest =>
        rw [below] at there
        cases there
  · rcases get?_put?_of_not_prefix put isPrefix with same | ⟨-, entries, directory⟩
    · exact .inl (same ▸ there)
    · rw [directory] at there
      cases there

/-- A directory has an entry of some name if there is something at the place of the entry. -/
theorem any_entries_eq
    {entries : List (String × FileTree)}
    (there : tree.get? place = some (.directory entries))
    (name : String) :
    (entries.any fun entry => entry.1 == name) = (tree.get? (place ++ [name])).isSome := by
  rw [get?_append, there, Option.bind_some, get?, child?]
  simp only [FileTree.entries]
  cases found : entries.find? (·.1 == name) with
  | none =>
      have nothing : ∀ entry ∈ entries, (entry.1 == name) = false := by
        simpa using List.find?_eq_none.mp found
      rw [List.any_eq_false.mpr fun entry present => by simp [nothing entry present]]
      rfl
  | some entry =>
      rw [List.any_eq_true.mpr ⟨entry, List.mem_of_find?_eq_some found,
        List.find?_some found⟩]
      rfl

end FileTree

namespace Workspace

open FileTree (WrittenAt IsDirectoryAt)

variable {workspace before after : Workspace} {place final : Place} {places : Place → Prop}

/-! ### Following paths -/

/-- A piece leads on from a directory only. -/
theorem isDirectoryAt_of_step?
    {piece : List Char}
    (step : workspace.step? place piece = some final) :
    workspace.root.IsDirectoryAt place := by
  unfold step? at step
  split at step
  · cases step
  · cases step
  · next entries there => exact ⟨entries, there⟩

/-- A piece that leads nowhere stays in a directory. -/
theorem step?_of_isIdle
    {piece : List Char}
    (idle : Path.isIdle piece = true)
    (directory : workspace.root.IsDirectoryAt place) :
    workspace.step? place piece = some place := by
  obtain ⟨entries, there⟩ := directory
  simp [step?, there, Path.componentOf, idle]

/-- A piece that leads on still does so when files have been written. -/
theorem step?_of_writtenAt
    (written : before.root.WrittenAt after.root places)
    {piece : List Char}
    (step : before.step? place piece = some final) :
    after.step? place piece = some final := by
  obtain ⟨entries, there⟩ := isDirectoryAt_of_step? step
  obtain ⟨others, afterThere⟩ := written.directories place ⟨entries, there⟩
  simp only [step?, there] at step
  simp only [step?, afterThere]
  split at step
  · next name leads =>
      rw [FileTree.any_entries_eq there] at step
      rw [FileTree.any_entries_eq afterThere]
      split at step
      · next present => rwa [if_pos (written.present _ present)]
      · cases step
  · exact step
  · exact step

theorem foldlM_step?_of_writtenAt
    (written : before.root.WrittenAt after.root places)
    {pieces : List (List Char)}
    (followed : pieces.foldlM before.step? place = some final) :
    pieces.foldlM after.step? place = some final := by
  induction pieces generalizing place with
  | nil => exact followed
  | cons piece rest inductionHypothesis =>
      rw [List.foldlM_cons, Option.bind_eq_bind, Option.bind_eq_some_iff] at followed ⊢
      obtain ⟨next, step, later⟩ := followed
      exact ⟨next, step?_of_writtenAt written step, inductionHypothesis later⟩

/-- The place of the directory that a path stands for; the empty path is for the current one. -/
def directory? (workspace : Workspace) (path : String) : Option Place :=
  if path.isEmpty then some workspace.here else workspace.locate? path

/-- A directory stays at its place when files are written. -/
theorem directory?_of_writtenAt
    (here : after.here = before.here)
    (written : before.root.WrittenAt after.root places)
    {path : String}
    (located : before.directory? path = some place) :
    after.directory? path = some place := by
  unfold directory? at *
  split
  · next empty =>
      rw [if_pos empty] at located
      exact here ▸ located
  · next begun =>
      rw [if_neg begun] at located
      unfold locate? start at *
      rw [if_neg begun] at located ⊢
      rw [here]
      exact foldlM_step?_of_writtenAt written located

/-! ### Making directories and writing files -/

/-- Entering a directory makes no file. -/
theorem writtenAt_of_foldlM_enter?
    {pieces : List (List Char)}
    {state reached : FileTree × Place}
    (entered : pieces.foldlM enter? state = some reached) :
    state.1.WrittenAt reached.1 fun _ => False := by
  induction pieces generalizing state with
  | nil =>
      cases entered
      exact .refl _ _
  | cons piece rest inductionHypothesis =>
      rw [List.foldlM_cons, Option.bind_eq_bind, Option.bind_eq_some_iff] at entered
      obtain ⟨next, step, later⟩ := entered
      refine .trans ?_ (inductionHypothesis later)
      unfold enter? at step
      split at step
      · cases step
      · cases step
      · next entries there =>
          split at step
          · next name leads =>
              dsimp only at step
              split at step
              · cases step
                exact .refl _ _
              · next missing =>
                  obtain ⟨tree, put, rfl⟩ := Option.map_eq_some_iff.mp step
                  rw [FileTree.any_entries_eq there, Option.not_isSome_iff_eq_none] at missing
                  refine (FileTree.writtenAt_put? rfl ?_ put).mono fun _ isFile => by
                    cases isFile.2
                  rintro ⟨others, present⟩
                  rw [missing] at present
                  cases present
          · cases step
            exact .refl _ _
          · cases step
            exact .refl _ _

theorem writtenAt_of_makeDirectories?
    {path : String}
    (made : before.makeDirectories? path = some after) :
    after.here = before.here ∧ before.root.WrittenAt after.root fun _ => False := by
  unfold makeDirectories? at made
  split at made
  · cases made
    exact ⟨rfl, .refl _ _⟩
  · split at made
    · next tree place entered =>
        split at made
        · cases made
          exact ⟨rfl, writtenAt_of_foldlM_enter? entered⟩
        · cases made
    · cases made

/-- A file is written into a directory, at the name that the path to it ends with. -/
theorem exists_writtenAt_of_write?
    {path text : String}
    (wrote : before.write? path text = some after) :
    ∃ place name, (Path.splitSlashes path.toList).dropLast.foldlM before.step? (before.start path) =
        some place ∧
      Path.componentOf ((Path.splitSlashes path.toList).getLast?.getD []) = some (.normal name) ∧
      before.root.IsDirectoryAt place ∧ after.here = before.here ∧
      before.root.WrittenAt after.root (· = place ++ [name]) := by
  unfold write? at wrote
  dsimp only at wrote
  split at wrote
  · next name leads =>
      split at wrote
      · cases wrote
      · next place followed =>
          split at wrote
          · cases wrote
          · next noDirectory =>
              obtain ⟨tree, put, rfl⟩ := Option.map_eq_some_iff.mp wrote
              refine ⟨place, name, followed, leads, FileTree.isDirectoryAt_of_put? put, rfl, ?_⟩
              refine (FileTree.writtenAt_put? rfl ?_ put).mono fun _ there => there.1
              rintro ⟨entries, there⟩
              rw [there] at noDirectory
              exact noDirectory rfl
  · cases wrote

/-- The pieces of names lead on by the names. -/
theorem place_of_names
    {names : List String}
    (areNames : ∀ name ∈ names, IsEntryName name)
    (followed : (names.map String.toList).foldlM workspace.step? place = some final) :
    final = place ++ names := by
  rw [place_of_foldlM_step? followed, Path.filterMap_pieceName?_names areNames]
  intro piece present
  obtain ⟨name, isName, rfl⟩ := List.mem_map.mp present
  rw [(areNames name isName).leads]
  exact fun up => by cases up

/-- A path of names below a directory is followed by way of the directory. -/
theorem directory?_of_join
    {directory : String}
    {names : List String}
    (areNames : ∀ name ∈ names, IsEntryName name)
    (nonempty : names ≠ [])
    (followed : (Path.splitSlashes (Path.join directory
        (String.intercalate "/" names)).toList).dropLast.foldlM workspace.step?
          (workspace.start (Path.join directory (String.intercalate "/" names))) = some final)
    (isDirectory : workspace.root.IsDirectoryAt final) :
    ∃ place, workspace.directory? directory = some place ∧ final = place ++ names.dropLast := by
  have pieces := Path.splitSlashes_intercalate areNames nonempty
  have relative := Path.isAbsolute_intercalate areNames
  have inner : ∀ name ∈ names.dropLast, IsEntryName name :=
    fun name present => areNames name (List.dropLast_subset names present)
  have dropped (front : List (List Char)) : (front ++ names.map String.toList).dropLast =
      front ++ names.dropLast.map String.toList := by
    rw [List.dropLast_append_of_ne_nil (by simpa using nonempty), List.map_dropLast]
  by_cases begun : directory = ""
  · subst begun
    have nothing : Path.join "" (String.intercalate "/" names) = String.intercalate "/" names := by
      simp [Path.join]
    rw [nothing, pieces, ← List.map_dropLast] at followed
    refine ⟨workspace.here, rfl, ?_⟩
    rw [place_of_names inner followed, start, relative]
    rfl
  · have unfolded : workspace.directory? directory =
        (Path.splitSlashes directory.toList).foldlM workspace.step? (workspace.start directory) := by
      have nonempty : directory.isEmpty = false := by simpa using begun
      rw [directory?, nonempty, if_neg (by simp), locate?, nonempty, if_neg (by simp)]
    have start : workspace.start (Path.join directory (String.intercalate "/" names)) =
        workspace.start directory := by
      unfold Workspace.start
      rw [Path.isAbsolute_join begun relative]
    obtain ⟨front, joined, ends⟩ := Path.exists_splitSlashes_join begun relative
    rw [start, joined, pieces, dropped, List.foldlM_append, Option.bind_eq_bind,
      Option.bind_eq_some_iff] at followed
    obtain ⟨place, before, later⟩ := followed
    have reached := place_of_names inner later
    refine ⟨place, unfolded.trans ?_, reached⟩
    rcases ends with ends | ends
    · -- The slash at the end of the path of the directory leads on from a directory to itself.
      have atPlace : workspace.root.IsDirectoryAt place := by
        cases steps : names.dropLast with
        | nil =>
            rw [reached, steps, List.append_nil] at isDirectory
            exact isDirectory
        | cons name rest =>
            rw [steps, List.map_cons, List.foldlM_cons, Option.bind_eq_bind,
              Option.bind_eq_some_iff] at later
            obtain ⟨next, step, -⟩ := later
            exact isDirectoryAt_of_step? step
      rw [ends, List.foldlM_append, before]
      exact (bind_pure _).trans (step?_of_isIdle rfl atPlace)
    · rw [ends, before]

/-- The file for names below a directory is written where they lead to from there. -/
theorem writtenAt_of_save
    {directory text : String}
    {names : List String}
    (areNames : ∀ name ∈ names, IsEntryName name)
    (nonempty : names ≠ [])
    (saved : before.save ⟨Path.join directory (String.intercalate "/" names), text⟩ = .ok after) :
    ∃ place, after.directory? directory = some place ∧ after.here = before.here ∧
      before.root.WrittenAt after.root (· = place ++ names) := by
  unfold save at saved
  dsimp only at saved
  split at saved
  · cases saved
  · next middle made =>
      split at saved
      · cases saved
      · next wrote =>
          cases saved
          obtain ⟨here, directoriesMade⟩ := writtenAt_of_makeDirectories? made
          obtain ⟨inner, name, followed, ends, isDirectory, stays, written⟩ :=
            exists_writtenAt_of_write? wrote
          obtain ⟨place, located, rfl⟩ := directory?_of_join areNames nonempty followed isDirectory
          rw [Path.componentOf_getLast?_join areNames nonempty, Option.some.injEq,
            PathComponent.normal.injEq] at ends
          rw [← ends, List.append_assoc, List.dropLast_concat_getLast nonempty] at written
          exact ⟨place, directory?_of_writtenAt stays written located, stays.trans here,
            (directoriesMade.mono fun _ => False.elim).trans written⟩

end Workspace
end MessageExpansion
