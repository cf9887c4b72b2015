import MessageExpansion.Proofs.Path
import MessageExpansion.Workspace

/-!
# Places in file trees

In a tree whose directories tell their entries apart, what is below a directory is at the place that
its names lead to.  A path that is joined to the path of a directory leads on from there, and a path
that never goes up leads on from where it starts by its names.
-/

namespace MessageExpansion

open MessageExpansion.Path (IsEntryName)

namespace FileTree

/-- Directories tell their entries apart, by names that can be spelled in paths. -/
inductive WellFormed : FileTree → Prop where
  | file (text : Option String) : WellFormed (.file text)
  | directory
      (entries : List (String × FileTree))
      (names : ∀ entry ∈ entries, IsEntryName entry.1)
      (apart : (entries.map (·.1)).Nodup)
      (children : ∀ entry ∈ entries, WellFormed entry.2) :
      WellFormed (.directory entries)

variable {tree child found : FileTree} {name : String} {names place : Place}

/-- An entry is found by its name, if no other one has it. -/
theorem find?_of_mem
    {entries : List (String × FileTree)}
    (apart : (entries.map (·.1)).Nodup)
    (present : (name, child) ∈ entries) :
    entries.find? (·.1 == name) = some (name, child) := by
  obtain ⟨front, back, rfl⟩ := List.append_of_mem present
  have others : ∀ entry ∈ front, ¬ (entry.1 == name) = true := by
    intro entry inFront same
    rw [List.map_append, List.nodup_append] at apart
    exact apart.2.2 entry.1 (List.mem_map_of_mem inFront) name (by simp) (beq_iff_eq.mp same)
  rw [List.find?_append, List.find?_eq_none.mpr others, Option.none_or, List.find?_cons,
    beq_self_eq_true]

/-- The entries of a directory can be named, are found by their names, and are well-formed. -/
theorem WellFormed.entry
    (wellFormed : tree.WellFormed)
    (present : (name, child) ∈ tree.entries) :
    IsEntryName name ∧ tree.child? name = some child ∧ child.WellFormed := by
  cases wellFormed with
  | file text => cases present
  | directory entries names apart children =>
      have listed : (name, child) ∈ entries := present
      have found : (FileTree.directory entries).child? name = some child :=
        congrArg (·.map (·.2)) (find?_of_mem apart listed)
      exact ⟨names _ listed, found, children _ listed⟩

/-- What is below a directory is one of its entries, or below one. -/
theorem exists_entry_of_mem_descendants
    (below : (names, found) ∈ tree.descendants) :
    ∃ name rest child, names = name :: rest ∧ (name, child) ∈ tree.entries ∧
      (rest = [] ∧ found = child ∨ (rest, found) ∈ child.descendants) := by
  cases tree with
  | file text => simp [descendants] at below
  | directory entries =>
      rw [descendants] at below
      induction entries with
      | nil => simp [descendantsOf] at below
      | cons entry others inductionHypothesis =>
          obtain ⟨name, child⟩ := entry
          rw [descendantsOf, List.mem_append, List.mem_cons, List.mem_map] at below
          rcases below with (here | ⟨⟨rest, inside⟩, belowChild, equal⟩) | later
          · obtain ⟨rfl, rfl⟩ := Prod.mk.inj here
            exact ⟨name, [], found, rfl, List.mem_cons_self, .inl ⟨rfl, rfl⟩⟩
          · obtain ⟨rfl, rfl⟩ := Prod.mk.inj equal
            exact ⟨name, rest, child, rfl, List.mem_cons_self, .inr belowChild⟩
          · obtain ⟨other, rest, child, equal, listed, rest⟩ := inductionHypothesis later
            exact ⟨other, _, child, equal, List.mem_cons_of_mem _ listed, rest⟩

theorem get?_append
    (tree : FileTree)
    (front back : Place) :
    tree.get? (front ++ back) = (tree.get? front).bind (·.get? back) := by
  induction front generalizing tree with
  | nil => rfl
  | cons name rest inductionHypothesis =>
      rw [List.cons_append, get?, get?]
      cases tree.child? name with
      | none => rfl
      | some child => exact inductionHypothesis child

/-- Whatever is at a place in a well-formed tree is well-formed. -/
theorem WellFormed.get?
    (wellFormed : tree.WellFormed)
    (there : tree.get? place = some found) :
    found.WellFormed := by
  induction place generalizing tree with
  | nil =>
      cases there
      exact wellFormed
  | cons name rest inductionHypothesis =>
      rw [FileTree.get?, Option.bind_eq_some_iff] at there
      obtain ⟨child, isChild, below⟩ := there
      obtain ⟨⟨other, _⟩, listed, rfl⟩ := Option.map_eq_some_iff.mp isChild
      exact inductionHypothesis (wellFormed.entry (List.mem_of_find?_eq_some listed)).2.2 below

/-- The names that lead to what is below a directory can be spelled in paths. -/
theorem WellFormed.isEntryName_of_mem_descendants
    (wellFormed : tree.WellFormed)
    (below : (names, found) ∈ tree.descendants) :
    ∀ name ∈ names, IsEntryName name := by
  induction names generalizing tree with
  | nil => simp
  | cons first rest inductionHypothesis =>
      obtain ⟨name, others, child, equal, listed, onward⟩ := exists_entry_of_mem_descendants below
      cases equal
      obtain ⟨isName, -, childWellFormed⟩ := wellFormed.entry listed
      rcases onward with ⟨rfl, -⟩ | belowChild
      · simpa using isName
      · exact List.forall_mem_cons.mpr ⟨isName, inductionHypothesis childWellFormed belowChild⟩

end FileTree

namespace Workspace

variable {workspace : Workspace} {place : Place} {path : String}

/-- A path leads somewhere if there is one, and its pieces lead there from where it starts. -/
theorem locate?_eq_some_iff :
    workspace.locate? path = some place ↔
      path ≠ "" ∧ (Path.splitSlashes path.toList).foldlM workspace.step? (workspace.start path) =
        some place := by
  by_cases empty : path = ""
  · simp [locate?, empty]
  · simp [locate?, empty]

/-- A path to a file leads to where there is a file in the tree. -/
theorem exists_file_of_isFile
    (isFile : workspace.isFile path = true) :
    ∃ place content, workspace.locate? path = some place ∧
      workspace.root.get? place = some (.file content) := by
  unfold Workspace.isFile find? at isFile
  cases located : workspace.locate? path with
  | none => simp [located] at isFile
  | some place =>
      rw [located, Option.bind_some] at isFile
      cases there : workspace.root.get? place with
      | none => simp [there] at isFile
      | some tree =>
          rw [there] at isFile
          cases tree with
          | file content => exact ⟨place, content, rfl, there⟩
          | directory entries => cases isFile

/-- A path that goes on with more starts where it did. -/
theorem locate?_of_longer
    {longer : String}
    {more : List Char}
    (begun : path ≠ "")
    (equal : longer.toList = path.toList ++ more) :
    workspace.locate? longer =
      (Path.splitSlashes longer.toList).foldlM workspace.step? (workspace.start path) := by
  obtain ⟨c, rest, text⟩ := List.exists_cons_of_ne_nil (show path.toList ≠ [] by simpa using begun)
  have nonempty : longer.isEmpty = false := by
    simp only [String.isEmpty_eq_false_iff, ne_eq, ← String.toList_inj, equal, text]
    simp
  have start : workspace.start longer = workspace.start path := by
    unfold Workspace.start Path.isAbsolute
    rw [equal, text]
    rfl
  rw [locate?, nonempty, start]
  rfl

/-- A piece that is no step up leads on by the name that it spells, if it spells one. -/
theorem place_of_step?
    {piece : List Char}
    {next : Place}
    (step : workspace.step? place piece = some next)
    (noParent : Path.componentOf piece ≠ some .parent) :
    next = place ++ (Path.pieceName? piece).toList := by
  unfold step? at step
  unfold Path.pieceName?
  split at step
  · cases step
  · cases step
  · split at step
    · next name leads =>
        split at step
        · cases step
          simp [leads, Path.nameOf?]
        · cases step
    · next up => exact absurd up noParent
    · next noName _ =>
        cases step
        have unnamed : (Path.componentOf piece).bind Path.nameOf? = none := by
          rw [Option.bind_eq_none_iff]
          rintro component leads
          cases component with
          | normal name => exact absurd leads (noName name)
          | _ => rfl
        simp [unnamed]

/-- A path that is joined to one that leads somewhere leads on from there. -/
theorem locate?_join
    {next : String}
    (located : workspace.locate? path = some place)
    (relative : Path.isAbsolute next = false) :
    workspace.locate? (Path.join path next) =
      (Path.splitSlashes next.toList).foldlM workspace.step? place := by
  obtain ⟨begun, followed⟩ := locate?_eq_some_iff.mp located
  rcases Path.join_of_relative begun relative with ⟨front, ends, joined⟩ | joined
  · -- The slash at the end of the path is the one in front of what is joined to it.
    rw [ends, Path.splitSlashes_append, List.foldlM_append, Option.bind_eq_bind,
      Option.bind_eq_some_iff] at followed
    obtain ⟨reached, before, last⟩ := followed
    have idle : workspace.step? reached [] = some place := by
      simpa [Path.splitSlashes] using last
    have same : place = reached := by
      simpa [Path.pieceName?, Path.componentOf, Path.isIdle] using place_of_step? idle (by decide)
    have longer : (Path.join path next).toList = path.toList ++ next.toList := by
      simp [joined, ends]
    rw [locate?_of_longer begun longer, joined, Path.splitSlashes_append,
      List.foldlM_append, before, same]
    rfl
  · rw [locate?_of_longer begun joined, joined, Path.splitSlashes_append, List.foldlM_append,
      followed]
    rfl

/-- The name of an entry leads from a directory to the entry. -/
theorem step?_entry
    {tree child : FileTree}
    {name : String}
    (wellFormed : tree.WellFormed)
    (there : workspace.root.get? place = some tree)
    (listed : (name, child) ∈ tree.entries) :
    workspace.step? place name.toList = some (place ++ [name]) := by
  obtain ⟨isName, -, -⟩ := wellFormed.entry listed
  cases tree with
  | file text => cases listed
  | directory entries =>
      have found : entries.any (·.1 == name) = true :=
        List.any_eq_true.mpr ⟨_, listed, beq_self_eq_true name⟩
      simp only [step?, there, isName.leads, found, if_true]

/-- What is below a directory is where its names lead to from there. -/
theorem locate?_of_mem_descendants
    {tree found : FileTree}
    {names : Place}
    (wellFormed : tree.WellFormed)
    (located : workspace.locate? path = some place)
    (there : workspace.root.get? place = some tree)
    (below : (names, found) ∈ tree.descendants) :
    workspace.locate? (names.foldl Path.join path) = some (place ++ names) ∧
      workspace.root.get? (place ++ names) = some found := by
  induction names generalizing tree path place with
  | nil =>
      obtain ⟨_, _, _, equal, _⟩ := FileTree.exists_entry_of_mem_descendants below
      cases equal
  | cons first rest inductionHypothesis =>
      obtain ⟨name, others, child, equal, listed, onward⟩ :=
        FileTree.exists_entry_of_mem_descendants below
      cases equal
      obtain ⟨isName, isChild, childWellFormed⟩ := wellFormed.entry listed
      have pieces : Path.splitSlashes first.toList = [first.toList] := by
        rw [Path.splitSlashes_eq_splitOn]
        exact List.splitOn_eq_singleton isName.plain
      have reached : workspace.locate? (Path.join path first) = some (place ++ [first]) := by
        rw [locate?_join located (Path.isAbsolute_eq_false pieces isName.toList_ne_nil), pieces]
        simpa using step?_entry wellFormed there listed
      have childThere : workspace.root.get? (place ++ [first]) = some child := by
        rw [FileTree.get?_append, there]
        simp [FileTree.get?, isChild]
      rcases onward with ⟨rfl, rfl⟩ | belowChild
      · exact ⟨reached, childThere⟩
      · have later := inductionHypothesis childWellFormed reached childThere belowChild
        rwa [List.append_assoc, List.singleton_append] at later

/-- Without a step up, pieces lead on by the names that they spell. -/
theorem place_of_foldlM_step?
    {pieces : List (List Char)}
    {final : Place}
    (followed : pieces.foldlM workspace.step? place = some final)
    (onward : ∀ piece ∈ pieces, Path.componentOf piece ≠ some .parent) :
    final = place ++ pieces.filterMap Path.pieceName? := by
  induction pieces generalizing place with
  | nil =>
      cases followed
      simp
  | cons piece rest inductionHypothesis =>
      obtain ⟨noParent, others⟩ := List.forall_mem_cons.mp onward
      rw [List.foldlM_cons, Option.bind_eq_bind, Option.bind_eq_some_iff] at followed
      obtain ⟨next, step, later⟩ := followed
      rw [inductionHypothesis later others, place_of_step? step noParent, List.append_assoc,
        List.filterMap_cons]
      cases Path.pieceName? piece <;> rfl

/-- A path that never goes up leads on from where it starts by its names. -/
theorem place_of_locate?
    (located : workspace.locate? path = some place)
    (onward : .parent ∉ Path.components path) :
    place = workspace.start path ++ Path.names path := by
  obtain ⟨begun, followed⟩ := locate?_eq_some_iff.mp located
  rw [Path.names_eq]
  refine place_of_foldlM_step? followed fun piece present up => onward ?_
  rw [Path.components_eq]
  exact List.mem_append_right _ (List.mem_filterMap.mpr ⟨piece, present, up⟩)

end Workspace
end MessageExpansion
