import Mathlib.Data.List.Pairwise
import Mathlib.Data.List.Perm.Subperm
import MessageExpansion.Proofs.Command.Mirroring

/-!
# Files that are mentioned several times

Inputs can mention one file several times, by its name, through its directory and through patterns.
A scan keeps the first mention of each path, where it stands.  Paths are compared by their
components, and a step to the directory itself at the start of a path is one of these, so a file
that is mentioned with and without such a step is returned twice.
-/

namespace MessageExpansion

open MessageExpansion.Path (components)

namespace Path

/-- The components of a path without steps to the directory itself. -/
def steps (path : String) : List PathComponent := (components path).filter (· != .current)

/-- Only the start of a path lists a step to the directory itself. -/
theorem components_eq_steps
    (path : String) :
    components path = steps path ∨ components path = .current :: steps path := by
  have noCurrent : (splitSlashes path.toList).filterMap componentOf = ((splitSlashes
      path.toList).filterMap componentOf).filter (· != .current) := by
    refine (List.filter_eq_self.mpr fun component present => ?_).symm
    obtain ⟨piece, -, leads⟩ := List.mem_filterMap.mp present
    unfold componentOf at leads
    split at leads
    · cases leads
    · split at leads <;> cases leads <;> rfl
  unfold steps
  rw [components_eq, List.filter_append, ← noCurrent]
  unfold lead
  split
  · exact .inl rfl
  · exact .inr rfl
  · exact .inl rfl

/-- Different paths have the same steps if one of them is the other one behind a step to the
directory itself. -/
theorem steps_eq_iff
    {first second : String}
    (different : components first ≠ components second) :
    steps first = steps second ↔
      components second = .current :: components first ∨
        components first = .current :: components second := by
  refine ⟨fun same => ?_, ?_⟩
  · rcases components_eq_steps first with plain | led <;>
      rcases components_eq_steps second with otherPlain | otherLed
    · exact absurd (plain.trans (same.trans otherPlain.symm)) different
    · exact .inl (by rw [otherLed, plain, same])
    · exact .inr (by rw [led, otherPlain, same])
    · exact absurd (by rw [led, otherLed, same]) different
  · rintro (led | led)
    · unfold steps
      rw [led]
      rfl
    · unfold steps
      rw [led]
      rfl

end Path

namespace Workspace

/-- Where a component leads to from a place. -/
def follow (place : Place) : PathComponent → Place
  | .root => []
  | .current => place
  | .parent => place.dropLast
  | .normal name => place ++ [name]

variable {workspace : Workspace} {path other : String} {place : Place}

/-- A piece leads to where its component does. -/
theorem follow_of_step?
    {piece : List Char}
    {next : Place}
    (step : workspace.step? place piece = some next) :
    next = (Path.componentOf piece).toList.foldl follow place := by
  unfold step? at step
  split at step
  · cases step
  · cases step
  · split at step
    · next name leads =>
        split at step
        · cases step
          rw [leads]
          rfl
        · cases step
    · next leads =>
        cases step
        rw [leads]
        rfl
    · next noName noParent =>
        cases step
        unfold Path.componentOf at *
        split
        · rfl
        · next busy =>
            rw [if_neg busy] at noName noParent
            split
            · next up => exact absurd (if_pos up) noParent
            · next down => exact absurd (if_neg down) (noName _)

theorem follow_of_foldlM_step?
    {pieces : List (List Char)}
    {final : Place}
    (followed : pieces.foldlM workspace.step? place = some final) :
    final = (pieces.filterMap Path.componentOf).foldl follow place := by
  induction pieces generalizing place with
  | nil =>
      cases followed
      rfl
  | cons piece rest inductionHypothesis =>
      rw [List.foldlM_cons, Option.bind_eq_bind, Option.bind_eq_some_iff] at followed
      obtain ⟨next, step, later⟩ := followed
      rw [inductionHypothesis later, follow_of_step? step, List.filterMap_cons]
      cases Path.componentOf piece <;> rfl

/-- A path that leads somewhere leads to where its steps lead from the current directory. -/
theorem place_eq_foldl_follow
    (located : workspace.locate? path = some place) :
    place = (Path.steps path).foldl follow workspace.here := by
  have skipped (components : List PathComponent) (place : Place) :
      (components.filter (· != .current)).foldl follow place = components.foldl follow place := by
    induction components generalizing place with
    | nil => rfl
    | cons component rest inductionHypothesis =>
        cases component with
        | current => exact inductionHypothesis place
        | _ => exact inductionHypothesis _
  obtain ⟨begun, followed⟩ := locate?_eq_some_iff.mp located
  -- The path starts at the root exactly if its components begin there.
  have leads : (Path.lead (Path.splitSlashes path.toList)).foldl follow workspace.here =
      workspace.start path := by
    obtain ⟨c, rest, text⟩ :=
      List.exists_cons_of_ne_nil (show path.toList ≠ [] by simpa using begun)
    obtain ⟨first, more, parts⟩ := List.exists_cons_of_ne_nil (Path.splitSlashes_ne_nil rest)
    unfold start Path.isAbsolute
    rw [text, Path.splitSlashes, parts]
    by_cases slash : c = '/'
    · simp [slash, Path.lead, follow]
    · rw [if_neg slash]
      simp only [List.head?_cons, Option.some_beq_some, beq_eq_false_iff_ne.mpr slash,
        Bool.false_eq_true, if_false, Path.lead_cons, List.cons_ne_nil]
      split <;> rfl
  unfold Path.steps
  rw [skipped, Path.components_eq, List.foldl_append, leads, follow_of_foldlM_step? followed]

end Workspace

namespace ScannedFile

variable {files front back : List ScannedFile} {file : ScannedFile}

/-- A file whose path is new is kept behind the others, any other file is dropped. -/
theorem distinct_concat
    (front : List ScannedFile)
    (file : ScannedFile) :
    distinct (front ++ [file]) =
      if (distinct front).any (samePath file) then distinct front else distinct front ++ [file] := by
  unfold distinct
  rw [List.foldl_append]
  rfl

theorem any_samePath :
    files.any (samePath file) = true ↔
      ∃ other ∈ files, components other.path = components file.path := by
  rw [List.any_eq_true]
  exact exists_congr fun other => and_congr_right fun _ => beq_iff_eq.trans eq_comm

/-- What is kept stays where it is when more files are found. -/
theorem distinct_prefix
    (front back : List ScannedFile) :
    distinct front <+: distinct (front ++ back) := by
  induction back using List.reverseRecOn with
  | nil => simp
  | append_singleton back file inductionHypothesis =>
      rw [← List.append_assoc, distinct_concat]
      split
      · exact inductionHypothesis
      · exact inductionHypothesis.trans (List.prefix_append _ _)

/-- A kept file has the path of every file that was found. -/
theorem exists_mem_distinct
    (present : file ∈ files) :
    ∃ kept ∈ distinct files, components kept.path = components file.path := by
  obtain ⟨front, back, rfl⟩ := List.append_of_mem present
  have soon : ∃ kept ∈ distinct (front ++ [file]), components kept.path = components file.path := by
    rw [distinct_concat]
    split
    · next known => exact any_samePath.mp known
    · exact ⟨file, by simp, rfl⟩
  obtain ⟨kept, there, same⟩ := soon
  have later := distinct_prefix (front ++ [file]) back
  rw [List.append_assoc, List.singleton_append] at later
  exact ⟨kept, later.subset there, same⟩

/-- The paths of kept files are different. -/
theorem pairwise_distinct
    (files : List ScannedFile) :
    (distinct files).Pairwise fun first second =>
      components first.path ≠ components second.path := by
  induction files using List.reverseRecOn with
  | nil => exact .nil
  | append_singleton files file inductionHypothesis =>
      rw [distinct_concat]
      split
      · exact inductionHypothesis
      · next new =>
          rw [List.pairwise_append]
          refine ⟨inductionHypothesis, List.pairwise_singleton _ _,
            fun first there second last => ?_⟩
          rw [List.mem_singleton.mp last]
          exact fun same => new (any_samePath.mpr ⟨first, there, same⟩)

/-- A kept file is the first one with its path, and stands behind what is kept of those before
it. -/
theorem exists_first_of_mem_distinct
    (kept : file ∈ distinct files) :
    ∃ front back, files = front ++ file :: back ∧
      (∀ earlier ∈ front, components earlier.path ≠ components file.path) ∧
      distinct front ++ [file] <+: distinct files := by
  induction files using List.reverseRecOn with
  | nil => cases kept
  | append_singleton files last inductionHypothesis =>
      have onward := distinct_prefix files [last]
      rw [distinct_concat] at kept onward ⊢
      split at kept
      · next known =>
          rw [if_pos known] at onward ⊢
          obtain ⟨front, back, rfl, new, stands⟩ := inductionHypothesis kept
          exact ⟨front, back ++ [last], by simp, new, stands⟩
      · next new =>
          rw [if_neg new] at onward ⊢
          rcases List.mem_append.mp kept with before | here
          · obtain ⟨front, back, rfl, isNew, stands⟩ := inductionHypothesis before
            exact ⟨front, back ++ [last], by simp, isNew, stands.trans onward⟩
          · rw [List.mem_singleton.mp here]
            refine ⟨files, [], rfl, fun earlier there same => new ?_, List.prefix_rfl⟩
            obtain ⟨other, present, otherSame⟩ := exists_mem_distinct there
            exact any_samePath.mpr ⟨other, present, otherSame.trans same⟩

end ScannedFile

namespace Scan

/-- What a scan returns of the files that its inputs mention, in the order of the inputs. -/
structure MentionsTell (workspace : Workspace) (mentions files : List ScannedFile) : Prop where
  /-- A returned file is the first mention of its path.  It stands right behind what is returned of
  the mentions before it, whatever follows. -/
  first : ∀ file ∈ files, ∃ front back, mentions = front ++ file :: back ∧
    (∀ earlier ∈ front, components earlier.path ≠ components file.path) ∧
    ScannedFile.distinct front ++ [file] <+: files
  /-- Every mention is returned by its path. -/
  all : ∀ mention ∈ mentions, ∃ file ∈ files, components file.path = components mention.path
  /-- No path is returned twice. -/
  apart : files.Pairwise fun first second => components first.path ≠ components second.path
  /-- Two returned files have the same steps exactly if the path of one is that of the other behind
  a step to the directory itself. -/
  again : ∀ first ∈ files, ∀ second ∈ files, first ≠ second →
    (Path.steps first.path = Path.steps second.path ↔
      components second.path = .current :: components first.path ∨
        components first.path = .current :: components second.path)
  /-- So no file is returned more than twice. -/
  twice : ∀ steps, (files.filter fun file => Path.steps file.path = steps).length ≤ 2
  /-- If no mention is another one behind a step to the directory itself, then none is returned
  twice. -/
  once : (∀ first ∈ mentions, ∀ second ∈ mentions,
      components second.path ≠ .current :: components first.path) →
    files.Pairwise fun first second => Path.steps first.path ≠ Path.steps second.path
  /-- Returned files with the same steps are one file of the tree. -/
  sameFile : workspace.root.WellFormed → ∀ first ∈ files, ∀ second ∈ files,
    Path.steps first.path = Path.steps second.path →
      ∃ place, workspace.locate? first.path = some place ∧ workspace.locate? second.path = some place

variable {workspace : Workspace} {inputs ignored : List String} {files : List ScannedFile}

/-- A returned file is somewhere in the tree. -/
theorem exists_locate?_of_mem_run
    (wellFormed : workspace.root.WellFormed)
    (scanned : run workspace inputs ignored = .ok (.files files))
    {file : ScannedFile}
    (present : file ∈ files) :
    ∃ place, workspace.locate? file.path = some place := by
  rcases of_mem_run wellFormed scanned present with isNamed | ⟨input, -, isBelow⟩
  · obtain ⟨place, _, located, _⟩ := Workspace.exists_file_of_isFile isNamed.isFile
    exact ⟨place, located⟩
  · obtain ⟨anchor, -, anchored⟩ := isBelow.isAnchored wellFormed
    exact ⟨_, anchored⟩

/--
A scan returns the first mention of every path, in the order of these mentions, and no path twice.
Steps to the directory itself inside of a path do not tell paths apart, but one at the start does: a
file is returned twice exactly if it is mentioned both with and without such a step, and never more
often.
-/
theorem mentions_of_scan
    (scanned : run workspace inputs ignored = .ok (.files files)) :
    ∃ ignores found, Ignores.parse ignored = .ok ignores ∧
      inputs.mapM (filesOf workspace ignores) = .ok found ∧
      MentionsTell workspace found.flatten files := by
  obtain ⟨ignores, found, parsed, gathered, rfl⟩ := exists_mentions scanned
  refine ⟨ignores, found, parsed, gathered, ?_⟩
  have apart := ScannedFile.pairwise_distinct found.flatten
  have symmetric : Std.Symm fun first second : ScannedFile =>
      components first.path ≠ components second.path :=
    ⟨fun _ _ unequal => unequal.symm⟩
  refine ⟨fun file => ScannedFile.exists_first_of_mem_distinct,
    fun mention => ScannedFile.exists_mem_distinct, apart,
    fun first there second otherThere unequal =>
      Path.steps_eq_iff (apart.forall there otherThere unequal), ?_, ?_, ?_⟩
  · intro steps
    have nodup : (((ScannedFile.distinct found.flatten).filter fun file =>
        Path.steps file.path = steps).map fun file => components file.path).Nodup :=
      List.pairwise_map.mpr (apart.filter _)
    have among : ((ScannedFile.distinct found.flatten).filter fun file =>
        Path.steps file.path = steps).map (fun file => components file.path) ⊆
          [steps, .current :: steps] := by
      intro path present
      obtain ⟨file, kept, rfl⟩ := List.mem_map.mp present
      obtain rfl : Path.steps file.path = steps := by simpa using (List.mem_filter.mp kept).2
      simpa using Path.components_eq_steps file.path
    simpa using (nodup.subperm among).length_le
  · intro plain
    refine apart.imp_of_mem fun {first second} there otherThere unequal same => ?_
    have mentioned := ScannedFile.mem_of_mem_distinct there
    have otherMentioned := ScannedFile.mem_of_mem_distinct otherThere
    rcases (Path.steps_eq_iff unequal).mp same with led | led
    · exact plain first mentioned second otherMentioned led
    · exact plain second otherMentioned first mentioned led
  · intro wellFormed first there second otherThere same
    obtain ⟨place, located⟩ := exists_locate?_of_mem_run wellFormed scanned there
    obtain ⟨other, otherLocated⟩ := exists_locate?_of_mem_run wellFormed scanned otherThere
    refine ⟨place, located, ?_⟩
    rw [otherLocated, Workspace.place_eq_foldl_follow located,
      Workspace.place_eq_foldl_follow otherLocated, same]

/-- A file that is named and found in its directory, both without a step to the directory itself. -/
theorem mentions_of_scan_directory :
    let workspace : Workspace :=
      ⟨.directory [("src", .directory [("a.js", .file (some "")), ("b.js", .file (some ""))])], []⟩
    let files : List ScannedFile := [⟨"src/b.js", "src/b.js"⟩, ⟨"src/a.js", "a.js"⟩]
    run workspace ["src/b.js", "src"] [] = .ok (.files files) ∧
      ∃ ignores found, Ignores.parse [] = .ok ignores ∧
        ["src/b.js", "src"].mapM (filesOf workspace ignores) = .ok found ∧
        MentionsTell workspace found.flatten files := by
  intro workspace files
  have known : (run workspace ["src/b.js", "src"] []).toOption.map id = some (.files files) := by
    decide +kernel
  obtain ⟨_, scanned, rfl⟩ := Inlining.exists_ok known
  exact ⟨scanned, mentions_of_scan scanned⟩

/-- A file that is named, and found in the current directory, is returned twice. -/
theorem returned_twice :
    let workspace : Workspace := ⟨.directory [("a.js", .file (some ""))], []⟩
    let first : ScannedFile := ⟨"a.js", "a.js"⟩
    let second : ScannedFile := ⟨"./a.js", "a.js"⟩
    run workspace ["a.js", "."] [] = .ok (.files [first, second]) ∧
      Path.steps first.path = Path.steps second.path ∧
      workspace.locate? first.path = workspace.locate? second.path := by
  intro workspace first second
  have known : (run workspace ["a.js", "."] []).toOption.map id =
      some (.files [first, second]) := by
    decide +kernel
  obtain ⟨_, scanned, rfl⟩ := Inlining.exists_ok known
  exact ⟨scanned, by decide +kernel⟩

end Scan
end MessageExpansion
