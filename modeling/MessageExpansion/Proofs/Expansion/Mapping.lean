import MessageExpansion.Proofs.Expansion.Tracing
import MessageExpansion.Proofs.PositionMap.Traces

/-!
# The maps of inlined scripts are sound

The map of a script that was printed with edits has a mapping for the first character of each
segment that was printed, in order.  Carrying it over to an earlier text may drop mappings, but adds
none and moves none, whatever the map to that text is.
-/

namespace MessageExpansion

open Script (CallTree Traversal)
open Text (Position)

namespace PositionMap

/-- Every mapping is for a character of a text. -/
def Marks (map : PositionMap) (text : List Char) : Prop :=
  ∀ mapping ∈ map.mappings, ∃ front c back,
    text = front ++ c :: back ∧ mapping.generated = .between front (c :: back)

variable {map : PositionMap} {text : List Char}

/-- Whether a map is for the characters of a text is a matter of its traces. -/
theorem marks_iff :
    map.Marks text ↔ ∀ trace ∈ map.traces, ∃ front c back,
      text = front ++ c :: back ∧ trace.generated = .between front (c :: back) := by
  simp [Marks, traces]

/-- A map that is carried over has no other generated places. -/
theorem Marks.compose
    (marks : map.Marks text)
    (earlier : PositionMap) :
    (map.compose earlier).Marks text := by
  rw [marks_iff, (compose_spec map earlier).2]
  intro trace present
  obtain ⟨mapping, known, carried⟩ := List.mem_filterMap.mp present
  obtain ⟨_, _, rfl⟩ := Option.map_eq_some_iff.mp carried
  exact marks mapping known

end PositionMap

namespace Segment

variable {place : Position} {segments : List Segment} {mapping : Mapping}

/-- The marks of segments that are not empty ascend. -/
theorem ascending_marks
    (seamless : Seamless segments) :
    (marks place segments).Pairwise fun first second =>
      first.generated.Before second.generated := by
  induction segments generalizing place with
  | nil => exact List.Pairwise.nil
  | cons segment rest inductionHypothesis =>
      refine List.pairwise_cons.mpr ⟨fun later present => ?_, inductionHypothesis seamless.2.2⟩
      exact (before_advance seamless.1).trans_isUpTo (isUpTo_of_mem_marks present).1

/-- A mark is for the first character of a segment. -/
theorem exists_split_of_mem_marks
    (present : mapping ∈ marks place segments) :
    ∃ front segment back, segments = front ++ segment :: back ∧
      mapping = ⟨finish place front, 0, segment.origin⟩ := by
  induction segments generalizing place with
  | nil => cases present
  | cons segment rest inductionHypothesis =>
      rcases List.mem_cons.mp present with rfl | later
      · exact ⟨[], segment, rest, rfl, rfl⟩
      · obtain ⟨front, other, back, rfl, rfl⟩ := inductionHypothesis later
        exact ⟨segment :: front, other, back, rfl, rfl⟩

end Segment

/-- The map of a printed text is sound and for the characters of the text. -/
theorem Printed.isSound_ofEdits
    {source : List Char}
    {edits : List Edit}
    {trailer : Option (List Char)}
    (name : String)
    (keep : Edit.KeepLines source edits trailer) :
    (ofEdits name source edits trailer).map.IsSound ∧
      (ofEdits name source edits trailer).map.Marks (ofEdits name source edits trailer).text := by
  obtain ⟨segments, -, seamless, text, sources, mappings⟩ :=
    exists_traced name trailer keep.traceable keep.ordered
  obtain ⟨more, textEqual⟩ := exists_withTrailer_eq (Segment.join segments) trailer
  refine ⟨⟨⟨?_, ?_⟩, ?_⟩, ?_⟩
  · intro mapping present
    rw [mappings] at present
    obtain ⟨_, _, _, _, rfl⟩ := Segment.exists_split_of_mem_marks present
    simp [sources]
  · rfl
  · rw [mappings]
    exact Segment.ascending_marks seamless
  · intro mapping present
    rw [mappings] at present
    obtain ⟨front, segment, back, rfl, rfl⟩ := Segment.exists_split_of_mem_marks present
    obtain ⟨c, rest, first⟩ := List.exists_cons_of_ne_nil seamless.append_left.1
    refine ⟨Segment.join front, c, rest ++ Segment.join back ++ more, ?_, ?_⟩
    · rw [text, textEqual]
      simp [first]
    · exact seamless.finish_eq_walk (by simp [first])

namespace Inlining

variable {inlining : Inlining} {state : InliningState}

/-- The map of what is printed of a state leads to the script, or further on to an earlier text. -/
theorem map_of_finish
    {inputMap : Option PositionMap}
    {result : InlinedScript}
    (printed : inlining.finish inputMap state = .ok result) :
    let map := (Printed.ofEdits inlining.file inlining.script
      (state.replacements.map (·.edit)) (state.hoisted.flush.1.map String.toList)).map
    result.map = inputMap.elim map map.compose := by
  unfold finish at printed
  simp only at printed
  split at printed
  · cases printed
    cases inputMap <;> rfl
  · cases printed

/-- The map of an inlined script is sound and for the characters of the script, whatever map leads
on from the script. -/
theorem isSound_of_run
    {inputMap : Option PositionMap}
    {first : Nat}
    {result : InlinedScript}
    (succeeds : (inlining.run inputMap first).result = .ok result) :
    result.map.IsSound ∧ result.map.Marks result.text := by
  obtain ⟨trees, state, parsed, ran, printed⟩ := run_ok succeeds
  have keep := keepLines_of_traversal parsed
    (Traversal.visitsAll (Script.nestAll_of_parse parsed)) ran
  obtain ⟨sound, marks⟩ := Printed.isSound_ofEdits inlining.file keep
  rw [map_of_finish printed, (finish_ok printed).1]
  cases inputMap with
  | none => exact ⟨sound, marks⟩
  | some earlier => exact ⟨PositionMap.isSound_compose sound earlier, marks.compose earlier⟩

end Inlining
end MessageExpansion
