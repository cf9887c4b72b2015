import MessageExpansion.Proofs.Workspace
import MessageExpansion.Scan

/-!
# Where scripts are found

Every script that a scan returns is a file that is named or matches a pattern, or one that was found
below a directory among the inputs.  The output of a script mirrors it: it stands below the output
directory by the names on the path of the script, or by those that lead to it from the directory.
-/

namespace MessageExpansion

open MessageExpansion.Path (IsEntryName)

namespace ScannedFile

/-- The names that lead from an output directory to the output of a script. -/
def mirrored (file : ScannedFile) : List String := Path.names file.subpath

/-- The script is a file that is named by its path. -/
structure IsNamed (workspace : Workspace) (file : ScannedFile) : Prop where
  isFile : workspace.isFile file.path = true
  named : file = named file.path

/-- The script is a file below a directory, by the names that its output has. -/
structure IsBelow (workspace : Workspace) (directory : String) (file : ScannedFile) : Prop where
  isScript : isScript file.path = true
  found : ∃ found, (file.mirrored, found) ∈ workspace.below directory ∧
    file = foundBelow directory file.mirrored

variable {workspace : Workspace} {file : ScannedFile} {directory : String}

/-- What the subpath of a script spells are the names that its output has. -/
theorem mirrored_eq
    {path : String}
    {names : List String}
    (areNames : ∀ name ∈ names, IsEntryName name) :
    mirrored ⟨path, String.intercalate "/" names⟩ = names :=
  Path.names_intercalate areNames

/-- What is found below a directory is found by names of entries. -/
theorem areNames_of_mem_below
    {names : Place}
    {found : FileTree}
    (wellFormed : workspace.root.WellFormed)
    (below : (names, found) ∈ workspace.below directory) :
    directory ≠ "" ∧ names ≠ [] ∧ ∀ name ∈ names, IsEntryName name := by
  unfold Workspace.below Workspace.find? at below
  split at below
  · next tree there =>
      obtain ⟨place, located, there⟩ := Option.bind_eq_some_iff.mp there
      refine ⟨(Workspace.locate?_eq_some_iff.mp located).1, ?_,
        (wellFormed.get? there).isEntryName_of_mem_descendants below⟩
      obtain ⟨_, _, _, rfl, _⟩ := FileTree.exists_entry_of_mem_descendants below
      exact List.cons_ne_nil _ _
  · cases below

/-- The subpath of a file below a directory spells the names that lead to it from there: the
directory stands at the start of its path, however it is spelled. -/
theorem foundBelow_eq
    {names : Place}
    {found : FileTree}
    (wellFormed : workspace.root.WellFormed)
    (below : (names, found) ∈ workspace.below directory) :
    foundBelow directory names =
      ⟨names.foldl Path.join directory, String.intercalate "/" names⟩ := by
  obtain ⟨begun, nonempty, areNames⟩ := areNames_of_mem_below wellFormed below
  rw [foundBelow, ScannedFile.below, Path.behind?_foldl_join begun areNames nonempty,
    Option.getD_some]

/-- A scan keeps some of the files that it finds. -/
theorem mem_of_mem_distinct
    {files : List ScannedFile}
    (kept : file ∈ distinct files) :
    file ∈ files := by
  have among : ∀ (rest before : List ScannedFile), file ∈ rest.foldl
      (fun kept file => if kept.any (samePath file) then kept else kept ++ [file]) before →
        file ∈ before ∨ file ∈ rest := by
    intro rest
    induction rest with
    | nil => exact fun before => .inl
    | cons first rest inductionHypothesis =>
        intro before kept
        rcases inductionHypothesis _ kept with there | later
        · dsimp only at there
          split at there
          · exact .inl there
          · rcases List.mem_append.mp there with there | new
            · exact .inl there
            · exact .inr (List.mem_cons.mpr (.inl (List.mem_singleton.mp new)))
        · exact .inr (List.mem_cons_of_mem _ later)
  rcases among files [] kept with none | present
  · cases none
  · exact present

end ScannedFile

namespace Scan

variable {workspace : Workspace} {inputs ignored : List String} {files : List ScannedFile}

/-- The scripts below a directory are the files there that are found by names of entries. -/
theorem isBelow_of_mem_scriptsBelow
    {ignores : Ignores}
    {directory : String}
    (wellFormed : workspace.root.WellFormed)
    {file : ScannedFile}
    (present : file ∈ scriptsBelow workspace ignores directory) :
    file.IsBelow workspace directory := by
  unfold scriptsBelow at present
  obtain ⟨found, wanted⟩ := List.mem_filter.mp present
  rw [Bool.and_eq_true] at wanted
  obtain ⟨⟨names, tree⟩, isFile, rfl⟩ := List.mem_map.mp found
  have below := (List.mem_filter.mp isFile).1
  have mirrored : (ScannedFile.foundBelow directory names).mirrored = names := by
    rw [ScannedFile.foundBelow_eq wellFormed below]
    exact ScannedFile.mirrored_eq (ScannedFile.areNames_of_mem_below wellFormed below).2.2
  refine ⟨wanted.1, tree, ?_, ?_⟩
  · rw [mirrored]
    exact below
  · rw [mirrored]

theorem isNamed_named
    {path : String}
    (isFile : workspace.isFile path = true) :
    (ScannedFile.named path).IsNamed workspace :=
  ⟨isFile, rfl⟩

/-- What an input names is a file that is named, or one below the input. -/
theorem of_mem_filesOf
    {ignores : Ignores}
    {input : String}
    (wellFormed : workspace.root.WellFormed)
    (scanned : filesOf workspace ignores input = .ok files)
    {file : ScannedFile}
    (present : file ∈ files) :
    file.IsNamed workspace ∨ file.IsBelow workspace input := by
  unfold filesOf at scanned
  split at scanned
  · next isFile =>
      cases scanned
      rw [List.mem_singleton] at present
      exact .inl (present ▸ isNamed_named isFile)
  · split at scanned
    · cases scanned
      exact .inr (isBelow_of_mem_scriptsBelow wellFormed present)
    · split at scanned
      · split at scanned
        · cases scanned
          obtain ⟨path, matched, rfl⟩ := List.mem_map.mp present
          have isFile := (List.mem_filter.mp matched).2
          rw [Bool.and_eq_true] at isFile
          exact .inl (isNamed_named isFile.1)
        · cases scanned
      · cases scanned

/-- What follows something yields a result only if that yields one first. -/
theorem exists_ok_of_bind
    {α β error : Type}
    {first : Except error α}
    {onward : α → Except error β}
    {result : β}
    (succeeds : first >>= onward = .ok result) :
    ∃ value, first = .ok value ∧ onward value = .ok result := by
  cases first with
  | error error => cases succeeds
  | ok value => exact ⟨value, rfl, succeeds⟩

/-- Results that are gathered are results of the steps. -/
theorem exists_of_mem_mapM
    {α β error : Type}
    {step : α → Except error β}
    {steps : List α}
    {results : List β}
    (gathered : steps.mapM step = .ok results)
    {result : β}
    (present : result ∈ results) :
    ∃ argument ∈ steps, step argument = .ok result := by
  induction steps generalizing results with
  | nil =>
      cases gathered
      cases present
  | cons argument rest inductionHypothesis =>
      rw [List.mapM_cons] at gathered
      obtain ⟨value, first, onward⟩ := exists_ok_of_bind gathered
      obtain ⟨values, others, done⟩ := exists_ok_of_bind onward
      cases done
      rcases List.mem_cons.mp present with rfl | later
      · exact ⟨argument, List.mem_cons_self, first⟩
      · obtain ⟨found, inRest, equal⟩ := inductionHypothesis others later
        exact ⟨found, List.mem_cons_of_mem _ inRest, equal⟩

/-- A scan returns what is distinct among the files that its inputs mention. -/
theorem exists_mentions
    (scanned : run workspace inputs ignored = .ok (.files files)) :
    ∃ ignores found, Ignores.parse ignored = .ok ignores ∧
      inputs.mapM (filesOf workspace ignores) = .ok found ∧
      files = ScannedFile.distinct found.flatten := by
  unfold run at scanned
  split at scanned
  · cases scanned
  · obtain ⟨ignores, parsed, onward⟩ := exists_ok_of_bind scanned
    obtain ⟨found, gathered, done⟩ := exists_ok_of_bind onward
    cases done
    exact ⟨ignores, found, parsed, gathered, rfl⟩

/-- What a scan returns are files that are named, and files below directories among the inputs. -/
theorem of_mem_run
    (wellFormed : workspace.root.WellFormed)
    (scanned : run workspace inputs ignored = .ok (.files files))
    {file : ScannedFile}
    (present : file ∈ files) :
    file.IsNamed workspace ∨ ∃ input ∈ inputs, file.IsBelow workspace input := by
  obtain ⟨ignores, found, -, gathered, rfl⟩ := exists_mentions scanned
  obtain ⟨list, inFound, inList⟩ := List.mem_flatten.mp (ScannedFile.mem_of_mem_distinct present)
  obtain ⟨input, inInputs, scannedInput⟩ := exists_of_mem_mapM gathered inFound
  exact (of_mem_filesOf wellFormed scannedInput inList).imp id fun below => ⟨input, inInputs, below⟩

end Scan
end MessageExpansion
