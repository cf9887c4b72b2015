import MessageExpansion.Command.Inline
import MessageExpansion.Proofs.Expansion.Accounting

/-!
# Scripts in one place

Scripts whose outputs go to one place are inlined one after the other, and each hands on an index
from which on no function of it has one.  So the functions of all scripts have different indices and
different names.  A script that fails hands on the index that it was given: what comes of the other
scripts is what would come of them without it.
-/

namespace MessageExpansion

open Script (Span)

/-! ### What is left of one script -/

/-- What inlining makes of a script: a file, the expansions that its edits come from, and the
functions behind it with their indices. -/
structure NumberedOutput where
  /-- The script. -/
  source : ScriptSource
  /-- The file that is made of it. -/
  file : InlinedFile
  /-- What its calls are replaced by. -/
  expansions : List (Span × Expansion)
  /-- The functions behind it. -/
  functions : List (Nat × RenderFunction)

namespace NumberedOutput

/-- The script as it is inlined in a session. -/
def inlining (session : Session) (output : NumberedOutput) : Inlining :=
  ⟨session, output.source.name, output.source.text⟩

/-- The names of the functions that the output declares behind its script. -/
def declaredNames (output : NumberedOutput) : List String := output.functions.map (·.2.name)

/-- The names of the functions that the replacements in the output call, once for each call. -/
def calledNames (session : Session) (output : NumberedOutput) : List String :=
  Expansion.calledNames (output.inlining session) output.expansions

/-- The output comes from inlining its script with functions from an index on. -/
structure ComesFrom (session : Session) (workspace : Workspace) (first : Nat)
    (output : NumberedOutput) : Prop where
  /-- The file is what the script is inlined to. -/
  inlined : (InlineCommand.inlineSource session workspace first output.source).result =
    .ok output.file
  /-- The expansions and the functions are those that visiting its calls arrives at. -/
  accounted : ∃ state,
    (output.inlining session).visitAll (.start first) (output.inlining session).calls =
        (state, none) ∧
      Accounted (output.inlining session) state.replacements state.hoisted output.expansions
        output.functions
  /-- The text of the file is the script with the edits of the expansions, and the functions. -/
  printed : output.file.script.text =
    (Printed.ofEdits output.source.name output.source.text
      (Expansion.edits (output.inlining session) output.expansions)
      (trailerOf (output.functions.map (·.2)))).text

variable {session : Session} {workspace : Workspace} {first : Nat} {output : NumberedOutput}

/-- The functions behind a script are named for their indices. -/
theorem ComesFrom.declaredNames_eq
    (comes : output.ComesFrom session workspace first) :
    output.declaredNames =
      (output.functions.map (·.1)).map (generatedName session.function) := by
  obtain ⟨_, _, accounted⟩ := comes.accounted
  rw [declaredNames, List.map_map]
  exact List.map_congr_left accounted.named

/-- Every call that was generated is of a function behind its script. -/
theorem ComesFrom.mem_declaredNames
    (comes : output.ComesFrom session workspace first) :
    ∀ name ∈ output.calledNames session, name ∈ output.declaredNames := by
  obtain ⟨_, _, accounted⟩ := comes.accounted
  intro name called
  exact accounted.names.2.mem_iff.mp called

end NumberedOutput

namespace InlineCommand

variable {session : Session} {workspace : Workspace} {first : Nat} {source : ScriptSource}

/-- A script of a command is inlined by itself, with the map that stands next to it. -/
theorem run_of_inlineSource
    {file : InlinedFile}
    (succeeds : (inlineSource session workspace first source).result = .ok file) :
    ∃ inputMap, ((Inlining.mk session source.name source.text).run inputMap first).result =
      .ok file.script := by
  unfold inlineSource at succeeds
  split at succeeds
  next mapWarnings inputMap _ =>
    dsimp only at succeeds
    split at succeeds
    · next script result =>
        cases succeeds
        exact ⟨inputMap, result⟩
    · cases succeeds

/-- An inlined script has functions with indices from the first one on and below the one that it
hands on. -/
theorem exists_numberedOutput
    {file : InlinedFile}
    (succeeds : (inlineSource session workspace first source).result = .ok file) :
    first ≤ file.script.next ∧
      ∃ output : NumberedOutput, output.file = file ∧ output.ComesFrom session workspace first ∧
        (output.functions.Pairwise fun earlier later => earlier.1 < later.1) ∧
        ∀ entry ∈ output.functions, first ≤ entry.1 ∧ entry.1 < file.script.next := by
  obtain ⟨inputMap, ran⟩ := run_of_inlineSource succeeds
  obtain ⟨trees, state, parsed, visited, finished⟩ := Inlining.run_ok ran
  obtain ⟨⟨expansions, functions, accounted⟩, firstEqual⟩ := Inlining.accounted_visitAll visited
  obtain ⟨textEqual, _, _, next⟩ := Inlining.finish_ok finished
  have calls : (Inlining.mk session source.name source.text).calls =
      Script.CallTree.visitsAll trees := by
    rw [Inlining.calls, parsed]
    rfl
  refine ⟨?_, ⟨source, file, expansions, functions⟩, rfl, ⟨succeeds, ⟨state, ?_, accounted⟩, ?_⟩,
    accounted.ascending, ?_⟩
  · rw [next, ← firstEqual]
    exact Nat.le_add_right _ _
  · rw [NumberedOutput.inlining, calls]
    exact visited
  · rw [textEqual, NumberedOutput.inlining, Expansion.edits_eq_map, ← accounted.replaced,
      (flush_of_entries accounted.entries).1]
  · rw [next, ← firstEqual]
    exact accounted.between

/-! ### Scripts one after the other -/

/-- The functions of scripts that are inlined one after the other have ascending indices, over all
scripts. -/
theorem exists_numberedOutputs
    (session : Session)
    (workspace : Workspace)
    (first : Nat)
    (sources : List (Except FileFailure ScriptSource)) :
    ∃ outputs : List NumberedOutput,
      outputs.map (·.file) =
          succeeded ((inlineInOrder session workspace first sources).map (·.result)) ∧
        (∀ output ∈ outputs, ∃ index, output.ComesFrom session workspace index) ∧
        ((outputs.flatMap (·.functions)).Pairwise fun earlier later => earlier.1 < later.1) ∧
        ∀ entry ∈ outputs.flatMap (·.functions), first ≤ entry.1 := by
  induction sources generalizing first with
  | nil => exact ⟨[], rfl, by simp, List.Pairwise.nil, by simp⟩
  | cons read rest inductionHypothesis =>
      cases read with
      | error failure => exact inductionHypothesis first
      | ok source =>
          rw [inlineInOrder]
          cases result : (inlineSource session workspace first source).result with
          | error failure =>
              obtain ⟨outputs, files, others⟩ := inductionHypothesis first
              refine ⟨outputs, ?_, others⟩
              rw [files, List.map_cons, result, succeeded_error]
          | ok file =>
              obtain ⟨le, output, rfl, comes, ascending, between⟩ := exists_numberedOutput result
              obtain ⟨outputs, files, eachComes, laterAscending, later⟩ :=
                inductionHypothesis output.file.script.next
              refine ⟨output :: outputs, ?_, ?_, ?_, ?_⟩
              · rw [List.map_cons, files, List.map_cons, result, succeeded_ok]
              · exact List.forall_mem_cons.mpr ⟨⟨first, comes⟩, eachComes⟩
              · rw [List.flatMap_cons, List.pairwise_append]
                refine ⟨ascending, laterAscending, fun entry present other behind => ?_⟩
                exact Nat.lt_of_lt_of_le (between entry present).2 (later other behind)
              · rw [List.flatMap_cons, List.forall_mem_append]
                exact ⟨fun entry present => (between entry present).1,
                  fun entry behind => Nat.le_trans le (later entry behind)⟩

/-- The outputs of scripts in one place: no two functions in them have the same name, and what was
generated to be called stands in the same output. -/
structure Together (session : Session) (workspace : Workspace) (files : List InlinedFile)
    (outputs : List NumberedOutput) : Prop where
  /-- The files are those of the outputs. -/
  files : outputs.map (·.file) = files
  /-- Each comes from inlining its script. -/
  comes : ∀ output ∈ outputs, ∃ first, output.ComesFrom session workspace first
  /-- Each name is declared once. -/
  declaredOnce : (outputs.flatMap (·.declaredNames)).Nodup
  /-- Every generated call is of a function in its own output. -/
  calledHere : ∀ output ∈ outputs, ∀ name ∈ output.calledNames session,
    name ∈ output.declaredNames

theorem exists_together
    (session : Session)
    (workspace : Workspace)
    (first : Nat)
    (sources : List (Except FileFailure ScriptSource)) :
    ∃ outputs, Together session workspace
      (succeeded ((inlineInOrder session workspace first sources).map (·.result))) outputs := by
  obtain ⟨outputs, files, comes, ascending, _⟩ :=
    exists_numberedOutputs session workspace first sources
  have names : outputs.flatMap (·.declaredNames) =
      ((outputs.flatMap (·.functions)).map (·.1)).map (generatedName session.function) := by
    rw [List.map_flatMap, List.map_flatMap]
    apply List.flatMap_congr
    intro output present
    obtain ⟨_, comes⟩ := comes output present
    exact comes.declaredNames_eq
  refine ⟨outputs, files, comes, ?_, ?_⟩
  · rw [names]
    apply List.Nodup.map (generatedName_injective session.function)
    rw [List.nodup_iff_pairwise_ne, List.pairwise_map]
    exact ascending.imp fun lt => Nat.ne_of_lt lt
  · intro output present
    obtain ⟨_, comes⟩ := comes output present
    exact comes.mem_declaredNames

/-! ### Scripts that fail -/

/-- The inputs of which something came. -/
def surviving {α : Type} (inputs : List α) (inlined : List InlinedSource) : List α :=
  ((inputs.zip inlined).filter (·.2.result.isOk)).map (·.1)

theorem map_surviving
    {α β : Type}
    (read : α → β)
    (inputs : List α)
    (inlined : List InlinedSource) :
    (surviving inputs inlined).map read = surviving (inputs.map read) inlined := by
  unfold surviving
  rw [List.zip_map_left, List.filter_map, List.map_map, List.map_map]
  rfl

/-- A script that fails hands on the index that it was given, so the others are inlined as they are
without it. -/
theorem inlineInOrder_surviving
    (session : Session)
    (workspace : Workspace)
    (first : Nat)
    (sources : List (Except FileFailure ScriptSource)) :
    inlineInOrder session workspace first
        (surviving sources (inlineInOrder session workspace first sources)) =
      (inlineInOrder session workspace first sources).filter (·.result.isOk) := by
  induction sources generalizing first with
  | nil => rfl
  | cons read rest inductionHypothesis =>
      cases read with
      | error failure => exact inductionHypothesis first
      | ok source =>
          rw [inlineInOrder]
          cases result : (inlineSource session workspace first source).result with
          | error failure =>
              simpa [surviving, result, Except.isOk, Except.toBool] using inductionHypothesis first
          | ok file =>
              simpa [surviving, result, Except.isOk, Except.toBool, inlineInOrder] using
                inductionHypothesis file.script.next

theorem succeeded_filter
    (inlined : List InlinedSource) :
    succeeded ((inlined.filter (·.result.isOk)).map (·.result)) =
      succeeded (inlined.map (·.result)) := by
  induction inlined with
  | nil => rfl
  | cons first rest inductionHypothesis =>
      rw [List.map_cons]
      cases result : first.result with
      | error failure =>
          rw [List.filter_cons_of_neg (by simp [result, Except.isOk, Except.toBool]),
            inductionHypothesis, succeeded_error]
      | ok file =>
          rw [List.filter_cons_of_pos (by simp [result, Except.isOk, Except.toBool]), List.map_cons,
            result, succeeded_ok, succeeded_ok, inductionHypothesis]

variable {maps : MapPlacement} {place : Target} {warnings : List String}
variable {results : List (Except FileFailure InlinedFile)}

/-- What is printed on the standard output depends on the scripts that were inlined. -/
theorem output_deliver :
    (deliver workspace maps place warnings results).output =
      match place with
        | .standardOutput => concatenation maps (succeeded results)
        | _ => "" := by
  unfold deliver
  dsimp only
  split <;> rfl

/-- What is written to files depends on the scripts that were inlined. -/
theorem workspace_deliver :
    (deliver workspace maps place warnings results).workspace =
      (workspace.saveAll ((outputs place (succeeded results)).flatMap fun output =>
        outputFiles maps output.1 output.2)).1 := by
  unfold deliver
  dsimp only
  split <;> rfl

/-- Files whose outputs go to one place are inlined one after the other. -/
theorem runPrepared_files
    {arguments : InlineArguments}
    (together : ∀ path, target arguments ≠ .directory path)
    (session : Session)
    (workspace : Workspace)
    (standardInput : Option String)
    (files : List ScannedFile) :
    let inlined := inlineInOrder session workspace 1 (files.map (ScriptSource.ofFile workspace))
    runPrepared arguments ⟨session, .files files⟩ workspace standardInput =
      deliver workspace arguments.maps (target arguments)
        (targetWarnings arguments.maps (target arguments) ++ inlined.flatMap (·.warnings))
        (inlined.map (·.result)) := by
  unfold runPrepared
  cases place : target arguments with
  | directory path => exact absurd place (together path)
  | standardOutput => rfl
  | file path => rfl

end InlineCommand
end MessageExpansion
