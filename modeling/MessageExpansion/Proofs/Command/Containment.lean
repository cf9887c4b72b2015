import MessageExpansion.Proofs.Command.Mirroring
import MessageExpansion.Proofs.Workspace.Writing

/-!
# Staying inside of an output directory

What inlining writes below an output directory stays inside of it, however the inputs are spelled:
the output of a script is at a path of names alone, at least one of them, that is joined to the path
of the directory.  A named file has a name, and the directory that a file was found in stands at the
start of its path.
-/

namespace MessageExpansion

open MessageExpansion.Path (IsEntryName components)

namespace Workspace

variable {workspace : Workspace} {place final : Place} {path : String}

/-- The directory above one is a directory; the root is above itself. -/
theorem isDirectoryAt_dropLast
    (directory : workspace.root.IsDirectoryAt place) :
    workspace.root.IsDirectoryAt place.dropLast := by
  rcases List.eq_nil_or_concat place with rfl | ⟨front, name, rfl⟩
  · exact directory
  · rw [List.concat_eq_append, List.dropLast_concat]
    rw [List.concat_eq_append] at directory
    by_contra noDirectory
    obtain ⟨entries, there⟩ := directory
    rw [FileTree.get?_append_of_not_isDirectoryAt noDirectory] at there
    cases there

/-- A piece that spells no name leads to a directory. -/
theorem isDirectoryAt_of_unnamed
    {piece : List Char}
    (step : workspace.step? place piece = some final)
    (unnamed : Path.pieceName? piece = none) :
    workspace.root.IsDirectoryAt final := by
  have directory := isDirectoryAt_of_step? step
  obtain ⟨entries, there⟩ := id directory
  simp only [step?, there] at step
  split at step
  · next name leads =>
      rw [Path.pieceName?, leads] at unnamed
      cases unnamed
  · cases step
    exact isDirectoryAt_dropLast directory
  · cases step
    exact directory

/-- A path to a file ends with the name of the file. -/
theorem names_ne_nil_of_isFile
    (isFile : workspace.isFile path = true) :
    Path.names path ≠ [] := by
  intro unnamed
  obtain ⟨place, content, located, isThere⟩ := exists_file_of_isFile isFile
  obtain ⟨-, followed⟩ := locate?_eq_some_iff.mp located
  -- The last piece spells no name, so it leads to a directory.
  obtain ⟨front, last, pieces⟩ :=
    (List.eq_nil_or_concat _).resolve_left (Path.splitSlashes_ne_nil path.toList)
  rw [List.concat_eq_append] at pieces
  rw [Path.names_eq, pieces, List.filterMap_append, List.append_eq_nil_iff] at unnamed
  rw [pieces, List.foldlM_append, Option.bind_eq_bind, Option.bind_eq_some_iff] at followed
  obtain ⟨reached, -, step⟩ := followed
  obtain ⟨entries, there⟩ := isDirectoryAt_of_unnamed ((bind_pure _).symm.trans step)
    (by simpa using unnamed.2)
  rw [there] at isThere
  cases isThere

end Workspace

namespace ScannedFile

variable {workspace : Workspace} {file : ScannedFile} {directory : String}

theorem IsNamed.mirrored_ne_nil
    (isNamed : file.IsNamed workspace) :
    file.mirrored ≠ [] := by
  rw [isNamed.mirrored_eq]
  exact Workspace.names_ne_nil_of_isFile isNamed.isFile

theorem IsBelow.mirrored_ne_nil
    (wellFormed : workspace.root.WellFormed)
    (isBelow : file.IsBelow workspace directory) :
    file.mirrored ≠ [] := by
  obtain ⟨found, below, -⟩ := isBelow.found
  exact (areNames_of_mem_below wellFormed below).2.1

/-- The directory that a file was found in stands at the start of its path. -/
theorem IsBelow.behind?_eq
    (wellFormed : workspace.root.WellFormed)
    (isBelow : file.IsBelow workspace directory) :
    Path.behind? directory file.path = some file.subpath := by
  obtain ⟨found, below, named⟩ := isBelow.found
  obtain ⟨begun, nonempty, areNames⟩ := areNames_of_mem_below wellFormed below
  rw [isBelow.subpath_eq wellFormed,
    show file.path = file.mirrored.foldl Path.join directory from congrArg path named,
    Path.behind?_foldl_join begun areNames nonempty]

end ScannedFile

namespace InlineCommand

/-- A path of names alone, at least one of them, below a directory. -/
def IsInside (directory path : String) : Prop :=
  ∃ names, names ≠ [] ∧ (∀ name ∈ names, IsEntryName name) ∧
    path = Path.join directory (String.intercalate "/" names)

/-- How the subpath of a script comes from its path. -/
structure SubpathTells (workspace : Workspace) (inputs : List String) (file : ScannedFile) : Prop where
  /-- It has names alone, at least one of them. -/
  names : ∃ names, names ≠ [] ∧ components file.subpath = names.map .normal
  /-- It spells the names on the path of a file that is named, or it is what follows the directory
  that the file was found in.  That directory always stands at the start of the path. -/
  origin : file.IsNamed workspace ∧ file.subpath = String.intercalate "/" (Path.names file.path) ∨
    ∃ input ∈ inputs, file.IsBelow workspace input ∧
      Path.behind? input file.path = some file.subpath

/-- What running a command below an output directory leaves behind. -/
structure StaysInside (workspace : Workspace) (directory : String) (execution : Execution) : Prop where
  /-- Every file that was not there before, or not with that text, is inside of the directory. -/
  files : ∀ place text, execution.workspace.root.get? place = some (.file text) →
    workspace.root.get? place = some (.file text) ∨
      ∃ out names, execution.workspace.directory? directory = some out ∧ names ≠ [] ∧
        place = out ++ names
  /-- So are the files that the summary lists. -/
  written : ∀ result replaced generated paths, execution.result = .ok result →
    result.summary = .inline replaced generated paths → ∀ path ∈ paths, IsInside directory path

variable {workspace : Workspace} {inputs ignored : List String} {files : List ScannedFile}
  {file : ScannedFile} {directory : String}

theorem subpathTells
    (wellFormed : workspace.root.WellFormed)
    (scanned : Scan.run workspace inputs ignored = .ok (.files files))
    (present : file ∈ files) :
    SubpathTells workspace inputs file := by
  have spelled (subpath : file.subpath = String.intercalate "/" file.mirrored) :
      components file.subpath = file.mirrored.map .normal := by
    have joined := Path.components_join_intercalate "" file.isEntryName_of_mem_mirrored
    simpa [Path.join, ← subpath, show components "" = [] from rfl] using joined
  rcases Scan.of_mem_run wellFormed scanned present with isNamed | ⟨input, inInputs, isBelow⟩
  · exact ⟨⟨_, isNamed.mirrored_ne_nil, spelled isNamed.subpath_eq⟩,
      .inl ⟨isNamed, isNamed.mirrored_eq ▸ isNamed.subpath_eq⟩⟩
  · exact ⟨⟨_, isBelow.mirrored_ne_nil wellFormed, spelled (isBelow.subpath_eq wellFormed)⟩,
      .inr ⟨input, inInputs, isBelow, isBelow.behind?_eq wellFormed⟩⟩

/-- The output of a script is inside of the directory, and so is its map. -/
theorem isInside_outputPath
    (wellFormed : workspace.root.WellFormed)
    (scanned : Scan.run workspace inputs ignored = .ok (.files files))
    (present : file ∈ files)
    (directory : String) :
    IsInside directory (outputPath directory file) ∧
      IsInside directory (mapPath (outputPath directory file)) := by
  have areNames := file.isEntryName_of_mem_mirrored
  have spelled : file.subpath = String.intercalate "/" file.mirrored ∧ file.mirrored ≠ [] := by
    rcases Scan.of_mem_run wellFormed scanned present with isNamed | ⟨input, -, isBelow⟩
    · exact ⟨isNamed.subpath_eq, isNamed.mirrored_ne_nil⟩
    · exact ⟨isBelow.subpath_eq wellFormed, isBelow.mirrored_ne_nil wellFormed⟩
  have mapNonempty : mapNames file.mirrored ≠ [] := by
    fun_cases mapNames file.mirrored <;> simp
  rw [outputPath, spelled.1, mapPath_join _ areNames]
  exact ⟨⟨_, spelled.2, areNames, rfl⟩,
    ⟨_, mapNonempty, isEntryName_of_mem_mapNames areNames, rfl⟩⟩

/-- Files that are saved inside of a directory are in its tree. -/
theorem writtenAt_of_saveAll
    {before after : Workspace}
    {outputs : List OutputFile}
    {failure : Option CommandError}
    (inside : ∀ output ∈ outputs, IsInside directory output.path)
    (saved : before.saveAll outputs = (after, failure)) :
    after.here = before.here ∧ before.root.WrittenAt after.root fun place =>
      ∃ out names, after.directory? directory = some out ∧ names ≠ [] ∧ place = out ++ names := by
  induction outputs generalizing before with
  | nil =>
      cases saved
      exact ⟨rfl, .refl _ _⟩
  | cons output rest inductionHypothesis =>
      obtain ⟨⟨names, nonempty, areNames, path⟩, others⟩ := List.forall_mem_cons.mp inside
      rw [Workspace.saveAll] at saved
      split at saved
      · next middle savedFirst =>
          have equal : output = ⟨_, output.text⟩ := congrArg (OutputFile.mk · output.text) path
          rw [equal] at savedFirst
          obtain ⟨out, located, stays, first⟩ :=
            Workspace.writtenAt_of_save areNames nonempty savedFirst
          obtain ⟨here, later⟩ := inductionHypothesis others saved
          refine ⟨here.trans stays, (first.mono ?_).trans later⟩
          rintro place rfl
          exact ⟨out, names, Workspace.directory?_of_writtenAt here later located, nonempty, rfl⟩
      · cases saved
        exact ⟨rfl, .refl _ _⟩

/-- Inlined scripts are scripts that were read, with their subpaths. -/
theorem exists_of_mem_succeeded
    {session : Session}
    {inlined : InlinedFile}
    (present : inlined ∈ succeeded ((inlineEach session workspace
      (files.map (ScriptSource.ofFile workspace))).map (·.result))) :
    ∃ file ∈ files, ∃ source, ScriptSource.ofFile workspace file = .ok source ∧
      (inlineSource session workspace 1 source).result = .ok inlined := by
  obtain ⟨result, gathered, succeeds⟩ := List.mem_filterMap.mp present
  obtain ⟨outcome, inlinedAll, rfl⟩ := List.mem_map.mp gathered
  obtain ⟨read, inSources, rfl⟩ := List.mem_map.mp inlinedAll
  obtain ⟨file, inFiles, rfl⟩ := List.mem_map.mp inSources
  cases read : ScriptSource.ofFile workspace file with
  | error failure =>
      rw [read] at succeeds
      cases succeeds
  | ok source =>
      rw [read] at succeeds
      refine ⟨file, inFiles, source, read, ?_⟩
      cases result : (inlineSource session workspace 1 source).result with
      | error failure => simp [result, Except.toOption] at succeeds
      | ok inlined => simpa [result, Except.toOption] using succeeds

/-- The outputs below a directory are inside of it. -/
theorem staysInside_deliver
    {session : Session}
    (wellFormed : workspace.root.WellFormed)
    (scanned : Scan.run workspace inputs ignored = .ok (.files files))
    (maps : MapPlacement)
    (directory : String)
    (warnings : List String) :
    StaysInside workspace directory (deliver workspace maps (.directory directory) warnings
      ((inlineEach session workspace (files.map (ScriptSource.ofFile workspace))).map
        (·.result))) := by
  have path {inlined : InlinedFile} (present : inlined ∈ succeeded ((inlineEach session workspace
      (files.map (ScriptSource.ofFile workspace))).map (·.result))) :
      IsInside directory (pathBelow directory inlined) ∧
        ∀ text, ∀ output ∈ outputFiles maps (pathBelow directory inlined) text,
          IsInside directory output.path := by
    obtain ⟨file, inFiles, source, read, succeeds⟩ := exists_of_mem_succeeded present
    obtain ⟨inside, mapInside⟩ := isInside_outputPath wellFormed scanned inFiles directory
    refine ⟨?_, fun text output written => ?_⟩
    · rwa [pathBelow_eq read succeeds]
    · rcases path_of_mem_outputFiles read succeeds output written with equal | equal
      · rwa [equal]
      · rwa [equal]
  unfold deliver
  dsimp only
  generalize saved : workspace.saveAll _ = outcome
  obtain ⟨after, failure⟩ := outcome
  have inside := writtenAt_of_saveAll (fun output present => by
    obtain ⟨⟨path', text⟩, listed, written⟩ := List.mem_flatMap.mp present
    obtain ⟨inlined, inFiles, equal⟩ := List.mem_map.mp listed
    cases equal
    exact (path inFiles).2 _ output written) saved
  cases failure with
  | some error => exact ⟨inside.2.files, fun _ _ _ _ finished => by cases finished⟩
  | none =>
      refine ⟨inside.2.files, fun result replaced generated paths finished summarized => ?_⟩
      cases finished
      cases summarized
      intro listed present
      obtain ⟨output, isOutput, rfl⟩ := List.mem_map.mp present
      obtain ⟨inlined, inFiles, rfl⟩ := List.mem_map.mp isOutput
      exact (path inFiles).1

/-- The scripts of a prepared command are found by a scan. -/
theorem exists_scanned
    {arguments : CommonArguments}
    {policy : Option LocalizationPolicy}
    {preparation : Preparation}
    (prepared : arguments.prepare workspace policy = .ok preparation) :
    ∃ ignored, Scan.run workspace arguments.inputs ignored = .ok preparation.inputs := by
  unfold CommonArguments.prepare at prepared
  split at prepared
  · cases prepared
  · next loaded configured =>
      split at prepared
      · cases prepared
      · split at prepared
        · cases prepared
        · next scanned =>
            cases prepared
            exact ⟨_, scanned⟩

/--
The subpath of every script that a scan returns has names alone, at least one of them.  So whatever
inlining below an output directory writes, a map as well, is inside of the directory.
-/
theorem stays_inside
    {arguments : InlineArguments}
    (wellFormed : workspace.root.WellFormed)
    (below : target arguments = .directory directory)
    (standardInput : Option String) :
    (∀ inputs ignored files, Scan.run workspace inputs ignored = .ok (.files files) →
      ∀ file ∈ files, SubpathTells workspace inputs file) ∧
    StaysInside workspace directory (run arguments workspace standardInput) := by
  refine ⟨fun inputs ignored files scanned file => subpathTells wellFormed scanned, ?_⟩
  -- A command that gives up writes nothing.
  have refused (error : CommandError) :
      StaysInside workspace directory (.refused workspace error) :=
    ⟨fun _ _ => .inl, fun _ _ _ _ finished => by cases finished⟩
  unfold run
  cases prepared : arguments.common.prepare workspace arguments.policy with
  | error error => exact refused error
  | ok preparation =>
      dsimp only
      unfold runPrepared
      rw [below]
      cases named : preparation.inputs with
      | standardInput => exact refused _
      | files files =>
          obtain ⟨ignored, scanned⟩ := exists_scanned prepared
          rw [named] at scanned
          exact staysInside_deliver wellFormed scanned arguments.maps directory _

/-- A file above the current directory, whose map is written into the directory too. -/
theorem stays_inside_above :
    let workspace : Workspace :=
      ⟨.directory [("a.js", .file (some "format('x')")), ("here", .directory [])], ["here"]⟩
    let arguments : InlineArguments :=
      ⟨⟨[".././a.js"], none, none, none, none, false⟩, none, some "out", .besideOutput, none⟩
    workspace.root.WellFormed ∧ target arguments = .directory "out" ∧
      (∀ inputs ignored files, Scan.run workspace inputs ignored = .ok (.files files) →
        ∀ file ∈ files, SubpathTells workspace inputs file) ∧
      StaysInside workspace "out" (run arguments workspace none) ∧
      ((run arguments workspace none).workspace.root.get? ["here", "out", "a.js.map"]).any
        (·.isFile) = true := by
  intro workspace arguments
  have wellFormed : workspace.root.WellFormed := by
    refine .directory _ (by decide +kernel) (by decide) ?_
    refine List.forall_mem_cons.mpr ⟨.file _, List.forall_mem_cons.mpr ⟨?_, by simp⟩⟩
    exact .directory _ (by simp) (by simp) (by simp)
  have below : target arguments = .directory "out" := rfl
  obtain ⟨subpaths, inside⟩ := stays_inside wellFormed below none
  exact ⟨wellFormed, below, subpaths, inside, by decide +kernel⟩

end InlineCommand
end MessageExpansion
