import MessageExpansion.Command.Inline
import MessageExpansion.Proofs.Expansion.Visit
import MessageExpansion.Proofs.Scan

/-!
# Outputs below a directory

With an output directory every script has an output of its own, at a path that mirrors it, and
perhaps a map next to it.  Nothing is compared, so scripts that are mirrored by the same names have
the same output.  Those are never different files below one directory, or different files that are
named by paths which start at one place and never go up.
-/

namespace MessageExpansion

open MessageExpansion.Path (IsEntryName components)

namespace ScannedFile

variable {workspace : Workspace} {file first second : ScannedFile} {directory : String}

theorem IsNamed.mirrored_eq
    (isNamed : file.IsNamed workspace) :
    file.mirrored = Path.names file.path := by
  rw [isNamed.named]
  exact ScannedFile.mirrored_eq fun _ => Path.isEntryName_of_mem_names

/-- The subpath of a named script spells its names. -/
theorem IsNamed.subpath_eq
    (isNamed : file.IsNamed workspace) :
    file.subpath = String.intercalate "/" file.mirrored := by
  rw [isNamed.mirrored_eq]
  exact congrArg subpath isNamed.named

/-- So does that of a script below a directory. -/
theorem IsBelow.subpath_eq
    (wellFormed : workspace.root.WellFormed)
    (isBelow : file.IsBelow workspace directory) :
    file.subpath = String.intercalate "/" file.mirrored := by
  obtain ⟨_, below, named⟩ := isBelow.found
  rw [foundBelow_eq wellFormed below] at named
  exact congrArg subpath named

theorem isEntryName_of_mem_mirrored
    (file : ScannedFile) :
    ∀ name ∈ file.mirrored, IsEntryName name :=
  fun _ => Path.isEntryName_of_mem_names

/-! ### Places of scripts -/

/-- A script is where the names of its output lead to from some place. -/
def IsAnchored (workspace : Workspace) (anchor : Place) (file : ScannedFile) : Prop :=
  workspace.locate? file.path = some (anchor ++ file.mirrored)

/-- Different files that are anchored at one place are mirrored by different names. -/
theorem IsAnchored.mirrored_ne
    {anchor : Place}
    (firstAnchored : first.IsAnchored workspace anchor)
    (secondAnchored : second.IsAnchored workspace anchor)
    (different : workspace.locate? first.path ≠ workspace.locate? second.path) :
    first.mirrored ≠ second.mirrored := by
  intro same
  exact different (firstAnchored.trans (same ▸ secondAnchored.symm))

/-- Scripts below a directory are anchored there. -/
theorem IsBelow.isAnchored
    (wellFormed : workspace.root.WellFormed)
    (isBelow : file.IsBelow workspace directory) :
    ∃ anchor, workspace.locate? directory = some anchor ∧ file.IsAnchored workspace anchor := by
  obtain ⟨found, below, named⟩ := isBelow.found
  unfold Workspace.below Workspace.find? at below
  split at below
  · next tree there =>
      obtain ⟨anchor, located, there⟩ := Option.bind_eq_some_iff.mp there
      refine ⟨anchor, located, ?_⟩
      have reached :=
        (Workspace.locate?_of_mem_descendants (wellFormed.get? there) located there below).1
      have path : file.path = file.mirrored.foldl Path.join directory :=
        congrArg ScannedFile.path named
      rw [IsAnchored, path]
      exact reached
  · cases below

/-- A script that is named by a path that never goes up is anchored where the path starts. -/
theorem IsNamed.isAnchored
    (isNamed : file.IsNamed workspace)
    (onward : .parent ∉ components file.path) :
    file.IsAnchored workspace (workspace.start file.path) := by
  obtain ⟨place, _, located, _⟩ := Workspace.exists_file_of_isFile isNamed.isFile
  rw [IsAnchored, located, isNamed.mirrored_eq, Workspace.place_of_locate? located onward]

end ScannedFile

namespace InlineCommand

/-- The path of the output of a script below a directory. -/
def outputPath (directory : String) (file : ScannedFile) : String :=
  Path.join directory file.subpath

section

variable {session : Session} {workspace : Workspace} {first : Nat} {file : ScannedFile}
  {source : ScriptSource} {inlined : InlinedFile} {directory : String}

/-- What is inlined of a script goes below a directory to the path of its output. -/
theorem pathBelow_eq
    (read : ScriptSource.ofFile workspace file = .ok source)
    (succeeds : (inlineSource session workspace first source).result = .ok inlined) :
    pathBelow directory inlined = outputPath directory file := by
  unfold ScriptSource.ofFile at read
  split at read
  · cases read
    unfold inlineSource at succeeds
    dsimp only at succeeds
    split at succeeds
    · cases succeeds
      rfl
    · cases succeeds
  · cases read

/-- It is written there, and its map next to that. -/
theorem path_of_mem_outputFiles
    {maps : MapPlacement}
    {text : MappedText}
    (read : ScriptSource.ofFile workspace file = .ok source)
    (succeeds : (inlineSource session workspace first source).result = .ok inlined) :
    ∀ written ∈ outputFiles maps (pathBelow directory inlined) text,
      written.path = outputPath directory file ∨
        written.path = mapPath (outputPath directory file) := by
  intro written present
  rw [pathBelow_eq read succeeds] at present
  unfold outputFiles at present
  cases maps with
  | besideOutput =>
      rcases List.mem_cons.mp present with rfl | present
      · exact .inl rfl
      · exact .inr (List.mem_singleton.mp present ▸ rfl)
  | _ => exact .inl (List.mem_singleton.mp present ▸ rfl)

end

/-! ### Maps next to outputs -/

/-- The names of the map that stands next to a file with some names. -/
def mapNames : List String → List String
  | [] => [".map"]
  | [name] => [name ++ ".map"]
  | name :: next :: rest => name :: mapNames (next :: rest)

/-- A name with the ending of maps is one that an entry can have. -/
theorem isEntryName_map
    {name : String}
    (plain : '/' ∉ name.toList) :
    IsEntryName (name ++ ".map") := by
  have spelled : (name ++ ".map").toList = name.toList ++ ['.', 'm', 'a', 'p'] := by simp
  refine ⟨?_, ?_⟩
  · rw [spelled, List.mem_append, not_or]
    exact ⟨plain, by decide⟩
  · have long (piece : List Char) (short : piece.length < 4) : (name ++ ".map").toList ≠ piece := by
      intro equal
      have lengths := congrArg List.length equal
      rw [spelled, List.length_append] at lengths
      simp only [List.length_cons, List.length_nil] at lengths
      omega
    have busy : Path.isIdle (name ++ ".map").toList = false := by
      rw [Path.isIdle, Bool.or_eq_false_iff, beq_eq_false_iff_ne, beq_eq_false_iff_ne]
      exact ⟨long [] (by decide), long ['.'] (by decide)⟩
    rw [Path.componentOf, busy, if_neg (by decide), if_neg (long ['.', '.'] (by decide)),
      String.ofList_toList]

theorem isEntryName_of_mem_mapNames
    {names : List String}
    (areNames : ∀ name ∈ names, IsEntryName name) :
    ∀ name ∈ mapNames names, IsEntryName name := by
  fun_induction mapNames names with
  | case1 =>
      have ending : IsEntryName ("" ++ ".map") := isEntryName_map (by decide)
      simpa using ending
  | case2 name => simpa using isEntryName_map (areNames name List.mem_cons_self).plain
  | case3 name next rest inductionHypothesis =>
      obtain ⟨first, others⟩ := List.forall_mem_cons.mp areNames
      exact List.forall_mem_cons.mpr ⟨first, inductionHypothesis others⟩

theorem intercalate_mapNames
    (names : List String) :
    String.intercalate "/" (mapNames names) = String.intercalate "/" names ++ ".map" := by
  fun_induction mapNames names with
  | case1 => rfl
  | case2 name => simp
  | case3 name next rest inductionHypothesis =>
      have goesOn : mapNames (next :: rest) ≠ [] := by
        cases rest <;> simp [mapNames]
      rw [String.intercalate_cons_of_ne_nil goesOn, inductionHypothesis,
        String.intercalate_cons_cons]
      simp only [String.append_assoc]

/-- Files with different names have different maps. -/
theorem mapNames_inj
    {names others : List String}
    (areNames : ∀ name ∈ names, IsEntryName name)
    (othersAreNames : ∀ name ∈ others, IsEntryName name) :
    mapNames names = mapNames others ↔ names = others := by
  refine ⟨fun equal => ?_, congrArg mapNames⟩
  have texts := congrArg (String.intercalate "/") equal
  rw [intercalate_mapNames, intercalate_mapNames, String.append_left_inj] at texts
  rw [← Path.names_intercalate areNames, texts, Path.names_intercalate othersAreNames]

/-- The names of a map end with its ending. -/
theorem exists_getLast?_mapNames
    (names : List String) :
    ∃ name, (mapNames names).getLast? = some (name ++ ".map") := by
  fun_induction mapNames names with
  | case1 => exact ⟨"", rfl⟩
  | case2 name => exact ⟨name, rfl⟩
  | case3 name next rest inductionHypothesis =>
      obtain ⟨last, ends⟩ := inductionHypothesis
      exact ⟨last, by rw [List.getLast?_cons, ends]; rfl⟩

/-- The map of an output is the file that its names lead to. -/
theorem mapPath_join
    (directory : String)
    {names : List String}
    (areNames : ∀ name ∈ names, IsEntryName name) :
    mapPath (Path.join directory (String.intercalate "/" names)) =
      Path.join directory (String.intercalate "/" (mapNames names)) := by
  have relative := Path.isAbsolute_intercalate areNames
  have mapRelative := Path.isAbsolute_intercalate (isEntryName_of_mem_mapNames areNames)
  unfold mapPath Path.join
  rw [relative, mapRelative, intercalate_mapNames]
  split
  · rfl
  · split <;> simp only [String.append_assoc]

/-! ### Clashes -/

/-- Which files of two scripts are at one path below an output directory. -/
structure ClashesTell (directory : String) (first second : ScannedFile) : Prop where
  /-- Their outputs are if they are mirrored by the same names. -/
  output : components (outputPath directory first) = components (outputPath directory second) ↔
    first.mirrored = second.mirrored
  /-- So are their maps. -/
  map : components (mapPath (outputPath directory first)) =
      components (mapPath (outputPath directory second)) ↔
    first.mirrored = second.mirrored
  /-- The map of one and the output of the other are if it is mirrored by the names of the map. -/
  mixed : components (mapPath (outputPath directory first)) =
      components (outputPath directory second) ↔
    mapNames first.mirrored = second.mirrored

theorem clashesTell
    (directory : String)
    {first second : ScannedFile}
    (firstSubpath : first.subpath = String.intercalate "/" first.mirrored)
    (secondSubpath : second.subpath = String.intercalate "/" second.mirrored) :
    ClashesTell directory first second := by
  have areNames := first.isEntryName_of_mem_mirrored
  have othersAreNames := second.isEntryName_of_mem_mirrored
  have compare {names others : List String}
      (areNames : ∀ name ∈ names, IsEntryName name)
      (othersAreNames : ∀ name ∈ others, IsEntryName name) :
      components (Path.join directory (String.intercalate "/" names)) =
          components (Path.join directory (String.intercalate "/" others)) ↔
        names = others := by
    rw [Path.components_join_intercalate _ areNames,
      Path.components_join_intercalate _ othersAreNames, List.append_cancel_left_eq]
    exact List.map_inj_right fun _ _ => PathComponent.normal.inj
  refine ⟨?_, ?_, ?_⟩
  · rw [outputPath, outputPath, firstSubpath, secondSubpath]
    exact compare areNames othersAreNames
  · rw [outputPath, outputPath, firstSubpath, secondSubpath, mapPath_join _ areNames,
      mapPath_join _ othersAreNames, compare (isEntryName_of_mem_mapNames areNames)
        (isEntryName_of_mem_mapNames othersAreNames)]
    exact mapNames_inj areNames othersAreNames
  · rw [outputPath, outputPath, firstSubpath, secondSubpath, mapPath_join _ areNames]
    exact compare (isEntryName_of_mem_mapNames areNames) othersAreNames

/-- No script below a directory is mirrored by the names of a map. -/
theorem mapNames_ne_mirrored
    {workspace : Workspace}
    {directory : String}
    {file : ScannedFile}
    (isBelow : file.IsBelow workspace directory)
    (names : List String) :
    mapNames names ≠ file.mirrored := by
  intro equal
  obtain ⟨name, last⟩ := exists_getLast?_mapNames names
  obtain ⟨_, _, named⟩ := isBelow.found
  have path : file.path = file.mirrored.foldl Path.join directory :=
    congrArg ScannedFile.path named
  have fileName : Path.fileName? file.path = some (name ++ ".map") := by
    rw [Path.fileName?, path,
      Path.components_foldl_join directory file.isEntryName_of_mem_mirrored, ← equal]
    simp [last]
  have extension : Path.extension? file.path ∈ [none, some "map"] := by
    rw [Path.extension?, fileName, Option.bind_some, Path.extensionOf?]
    have ending : ((name ++ ".map").toList.reverse.takeWhile (· != '.')).reverse =
        ['m', 'a', 'p'] := by
      simp
    rw [ending]
    split <;> simp
  have isScript := isBelow.isScript
  unfold ScannedFile.isScript at isScript
  rcases List.mem_cons.mp extension with absent | present
  · rw [absent] at isScript
    cases isScript
  · rw [List.mem_singleton.mp present] at isScript
    revert isScript
    decide

/-- Nothing that is written for one script is written for the other one. -/
structure Apart (directory : String) (first second : ScannedFile) : Prop where
  output : components (outputPath directory first) ≠ components (outputPath directory second)
  map : components (mapPath (outputPath directory first)) ≠
    components (mapPath (outputPath directory second))
  mapOfFirst : components (mapPath (outputPath directory first)) ≠
    components (outputPath directory second)
  mapOfSecond : components (mapPath (outputPath directory second)) ≠
    components (outputPath directory first)

/-- Where the outputs of scripts are written below a directory. -/
structure OutputsTell (workspace : Workspace) (inputs : List String) (files : List ScannedFile)
    (directory : String) : Prop where
  /-- A script is a file that is named, or one that was found below a directory among the inputs; it
  is mirrored by the names on its path, or by those that lead to it from the directory. -/
  origin : ∀ file ∈ files, file.IsNamed workspace ∧ file.mirrored = Path.names file.path ∨
    ∃ input ∈ inputs, file.IsBelow workspace input
  /-- What is inlined of it is written to its output, and its map next to that. -/
  written : ∀ file ∈ files, ∀ session first source inlined,
    ScriptSource.ofFile workspace file = .ok source →
    (inlineSource session workspace first source).result = .ok inlined →
      ∀ maps text, ∀ written ∈ outputFiles maps (pathBelow directory inlined) text,
        written.path = outputPath directory file ∨
          written.path = mapPath (outputPath directory file)
  /-- Two of these files are at one path exactly if the names that mirror the scripts say so. -/
  clashes : ∀ first ∈ files, ∀ second ∈ files, ClashesTell directory first second
  /-- Different files have different outputs, and different maps, if the names that mirror them lead
  to them from one place. -/
  anchored : ∀ first ∈ files, ∀ second ∈ files, ∀ anchor,
    first.IsAnchored workspace anchor → second.IsAnchored workspace anchor →
    workspace.locate? first.path ≠ workspace.locate? second.path →
      components (outputPath directory first) ≠ components (outputPath directory second) ∧
        components (mapPath (outputPath directory first)) ≠
          components (mapPath (outputPath directory second))
  /-- For a script that is named by a path which never goes up, that is where the path starts. -/
  named : ∀ file ∈ files, file.IsNamed workspace → .parent ∉ components file.path →
    file.IsAnchored workspace (workspace.start file.path)
  /-- For a script that was found below a directory, it is the directory. -/
  below : ∀ file ∈ files, ∀ input, file.IsBelow workspace input →
    ∃ anchor, workspace.locate? input = some anchor ∧ file.IsAnchored workspace anchor
  /-- What is written for different files below one directory does not clash. -/
  apart : ∀ first ∈ files, ∀ second ∈ files, ∀ input,
    first.IsBelow workspace input → second.IsBelow workspace input →
    workspace.locate? first.path ≠ workspace.locate? second.path → Apart directory first second

/--
Scripts that a scan finds have the same output below a directory exactly if they are mirrored by the
same names, and the map of one is the output of another exactly if that one is mirrored by the names
of the map.  So different files below one directory never clash, nor do the outputs of different
files that are named by paths which start at one place and never go up.
-/
theorem outputs_of_scan
    {workspace : Workspace}
    {inputs ignored : List String}
    {files : List ScannedFile}
    (wellFormed : workspace.root.WellFormed)
    (scanned : Scan.run workspace inputs ignored = .ok (.files files))
    (directory : String) :
    OutputsTell workspace inputs files directory := by
  have origin (file : ScannedFile) (present : file ∈ files) :=
    Scan.of_mem_run wellFormed scanned present
  have subpath (file : ScannedFile) (present : file ∈ files) :
      file.subpath = String.intercalate "/" file.mirrored := by
    rcases origin file present with isNamed | ⟨input, -, isBelow⟩
    · exact isNamed.subpath_eq
    · exact isBelow.subpath_eq wellFormed
  have tell (first : ScannedFile) (firstPresent : first ∈ files) (second : ScannedFile)
      (secondPresent : second ∈ files) : ClashesTell directory first second :=
    clashesTell directory (subpath first firstPresent) (subpath second secondPresent)
  refine ⟨fun file present => (origin file present).imp_left fun isNamed =>
    ⟨isNamed, isNamed.mirrored_eq⟩, ?_, tell, ?_, fun file _ isNamed => isNamed.isAnchored,
    fun file _ input isBelow => isBelow.isAnchored wellFormed, ?_⟩
  · exact fun file _ session first source inlined read succeeds maps text =>
      path_of_mem_outputFiles read succeeds
  · intro first firstPresent second secondPresent anchor firstAnchored secondAnchored different
    have names := firstAnchored.mirrored_ne secondAnchored different
    have tell := tell first firstPresent second secondPresent
    exact ⟨mt tell.output.mp names, mt tell.map.mp names⟩
  · intro first firstPresent second secondPresent input firstBelow secondBelow different
    obtain ⟨anchor, located, firstAnchored⟩ := firstBelow.isAnchored wellFormed
    obtain ⟨other, otherLocated, secondAnchored⟩ := secondBelow.isAnchored wellFormed
    obtain rfl : anchor = other := Option.some.inj (located.symm.trans otherLocated)
    have names := firstAnchored.mirrored_ne secondAnchored different
    have forward := tell first firstPresent second secondPresent
    have backward := tell second secondPresent first firstPresent
    exact ⟨mt forward.output.mp names, mt forward.map.mp names,
      mt forward.mixed.mp (mapNames_ne_mirrored secondBelow _),
      mt backward.mixed.mp (mapNames_ne_mirrored firstBelow _)⟩

/-- A file is found in a directory, and another one is named. -/
theorem outputs_of_scan_two :
    let workspace : Workspace :=
      ⟨.directory [("b.js", .file (some "b")), ("src", .directory [("a.js", .file (some "a"))])], []⟩
    let files : List ScannedFile := [⟨"src/a.js", "a.js"⟩, ⟨"b.js", "b.js"⟩]
    Scan.run workspace ["src", "b.js"] [] = .ok (.files files) ∧
      OutputsTell workspace ["src", "b.js"] files "out" := by
  intro workspace files
  have known : (Scan.run workspace ["src", "b.js"] []).toOption.map id = some (.files files) := by
    decide +kernel
  obtain ⟨_, scanned, rfl⟩ := Inlining.exists_ok known
  have wellFormed : workspace.root.WellFormed := by
    refine .directory _ (by decide +kernel) (by decide) ?_
    refine List.forall_mem_cons.mpr ⟨.file _, List.forall_mem_cons.mpr ⟨?_, by simp⟩⟩
    exact .directory _ (by decide +kernel) (by decide) (by simp [FileTree.WellFormed.file])
  exact ⟨scanned, outputs_of_scan wellFormed scanned "out"⟩

/-- Two files of one name in two directories have the same output. -/
theorem same_output_of_two_directories :
    let workspace : Workspace :=
      ⟨.directory [("lib", .directory [("a.js", .file (some "b"))]),
        ("src", .directory [("a.js", .file (some "a"))])], []⟩
    let first : ScannedFile := ⟨"src/a.js", "a.js"⟩
    let second : ScannedFile := ⟨"lib/a.js", "a.js"⟩
    Scan.run workspace ["src", "lib"] [] = .ok (.files [first, second]) ∧
      workspace.read? first.path ≠ workspace.read? second.path ∧
      outputPath "out" first = "out/a.js" ∧ outputPath "out" second = "out/a.js" := by
  intro workspace first second
  have known : (Scan.run workspace ["src", "lib"] []).toOption.map id =
      some (.files [first, second]) := by
    decide +kernel
  obtain ⟨_, scanned, rfl⟩ := Inlining.exists_ok known
  exact ⟨scanned, by decide +kernel⟩

end InlineCommand
end MessageExpansion
