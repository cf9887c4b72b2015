import MessageExpansion.Proofs.Edit.Edited
import MessageExpansion.Proofs.PositionMap.Lookup

/-!
# Printing in segments

Printing a source with edits prints one segment of text after another, each with one mapping for its
first character: the lines of the stretches that are copied, and the texts of the edits.  A map that
holds the mappings of segments leads every character on the first line of a segment to the mapping
of that segment.
-/

namespace MessageExpansion

open Text (Position Splits StaysInLine units)

/-- A piece of text that is printed with a mapping for its first character. -/
structure Segment where
  /-- The text. -/
  text : List Char
  /-- The place of the source that the mapping leads to. -/
  origin : Position

namespace Segment

/-- The text of segments, one behind the other. -/
def join (segments : List Segment) : List Char := segments.flatMap text

@[simp] theorem join_nil : join [] = [] := rfl

@[simp] theorem join_cons
    (segment : Segment)
    (segments : List Segment) :
    join (segment :: segments) = segment.text ++ join segments := rfl

@[simp] theorem join_append
    (first second : List Segment) :
    join (first ++ second) = join first ++ join second :=
  List.flatMap_append

/-- No segment is empty, and none ends between the two characters of a line end. -/
def Seamless : List Segment → Prop
  | [] => True
  | segment :: rest => segment.text ≠ [] ∧ ¬ Splits segment.text (join rest) ∧ Seamless rest

/-- The place behind segments. -/
def finish (place : Position) : List Segment → Position
  | [] => place
  | segment :: rest => finish (place.advance segment.text) rest

/-- The mappings of segments. -/
def marks (place : Position) : List Segment → List Mapping
  | [] => []
  | segment :: rest => ⟨place, 0, segment.origin⟩ :: marks (place.advance segment.text) rest

variable {place : Position} {front back segments : List Segment}

theorem marks_append :
    marks place (front ++ back) = marks place front ++ marks (finish place front) back := by
  induction front generalizing place with
  | nil => rfl
  | cons segment rest inductionHypothesis =>
      simp only [List.cons_append, marks, finish, inductionHypothesis]

namespace Seamless

theorem append_left
    (seamless : Seamless (front ++ back)) :
    Seamless back := by
  induction front with
  | nil => exact seamless
  | cons segment rest inductionHypothesis => exact inductionHypothesis seamless.2.2

theorem eq_nil_of_join_eq_nil
    (seamless : Seamless segments)
    (empty : join segments = []) :
    segments = [] := by
  cases segments with
  | nil => rfl
  | cons segment rest => exact absurd (List.append_eq_nil_iff.mp empty).1 seamless.1

/-- The place behind the first of several segments counts all their characters. -/
theorem finish_eq_walk
    {behind : List Char}
    (seamless : Seamless (front ++ back))
    (same : behind.head? = (join back).head?) :
    finish place front = place.walk (join front) behind := by
  induction front generalizing place with
  | nil => rfl
  | cons segment rest inductionHypothesis =>
      obtain ⟨_, whole, later⟩ := seamless
      have heads : (join rest ++ behind).head? = (join (rest ++ back)).head? := by
        rw [join_append, List.head?_append, List.head?_append, same]
      have seam : ¬ Splits segment.text (join rest ++ behind) := fun splits =>
        whole ⟨splits.1, heads ▸ splits.2⟩
      rw [finish, join_cons, Position.walk_append, inductionHypothesis later,
        Position.advance_eq_walk, Position.walk_of_not_splits seam]

end Seamless

/-! ### The order of the mappings -/

/-- No text leads back. -/
theorem isUpTo_advance
    (text : List Char) :
    place.isUpTo (place.advance text) = true := by
  rw [Position.advance_eq_walk]
  exact Position.isUpTo_walk

theorem isUpTo_finish : place.isUpTo (finish place segments) = true := by
  induction segments generalizing place with
  | nil => exact Position.isUpTo_refl place
  | cons segment rest inductionHypothesis =>
      exact Position.isUpTo_trans (isUpTo_advance segment.text) inductionHypothesis

/-- Segments are marked between the places at which they begin and end. -/
theorem isUpTo_of_mem_marks
    {mapping : Mapping}
    (present : mapping ∈ marks place segments) :
    place.isUpTo mapping.generated = true ∧
      mapping.generated.isUpTo (finish place segments) = true := by
  induction segments generalizing place with
  | nil => cases present
  | cons segment rest inductionHypothesis =>
      rcases List.mem_cons.mp present with rfl | later
      · exact ⟨Position.isUpTo_refl place, isUpTo_finish⟩
      · obtain ⟨reached, within⟩ := inductionHypothesis later
        exact ⟨Position.isUpTo_trans (isUpTo_advance segment.text) reached, within⟩

/-- A text that is not empty moves the place on. -/
theorem before_advance
    {text : List Char}
    (nonempty : text ≠ []) :
    place.Before (place.advance text) := by
  rw [Position.advance_eq_walk]
  exact Position.before_walk nonempty

/-! ### Lookup -/

variable {map : PositionMap}

/-- A character on the first line of a segment belongs to the mapping of that segment. -/
theorem mapping?_eq_some
    {segment : Segment}
    {before rest : List Char}
    {c : Char}
    (behind : List Char)
    (mappings : map.mappings = marks .start (front ++ segment :: back))
    (seamless : Seamless (front ++ segment :: back))
    (text : segment.text = before ++ c :: rest)
    (stays : StaysInLine before (c :: rest)) :
    ∃ mapping,
      map.mapping? (.between (join front ++ before) (c :: behind)) = some mapping ∧
        mapping.source = 0 ∧ mapping.origin = segment.origin ∧
        Position.between (join front ++ before) (c :: behind) =
          ⟨mapping.generated.line, mapping.generated.column + units before⟩ := by
  have sameHead : (before ++ c :: behind).head? = (join (segment :: back)).head? := by
    rw [join_cons, text]
    cases before <;> rfl
  have place : Position.between (join front ++ before) (c :: behind) =
      (finish .start front).walk before (c :: behind) := by
    rw [Position.between, Position.walk_append, seamless.finish_eq_walk sameHead]
  have staysHere : StaysInLine before (c :: behind) := stays.congr rfl
  have inLine : (finish .start front).walk before (c :: behind) =
      ⟨(finish .start front).line, (finish .start front).column + units before⟩ :=
    staysHere _
  refine ⟨⟨finish .start front, 0, segment.origin⟩, ?_, rfl, rfl, by rw [place, inLine]⟩
  rw [place]
  apply PositionMap.mapping?_eq_some
  · rw [mappings, marks_append]
    rfl
  · intro earlier present
    exact Position.isUpTo_trans (isUpTo_of_mem_marks present).2 Position.isUpTo_walk
  · exact Position.isUpTo_walk
  · intro later present
    -- Behind the character, the rest of the segment is still to come.
    have reached := (isUpTo_of_mem_marks present).1
    have beyond : ((finish .start front).walk before (c :: rest)).Before
        ((finish .start front).advance segment.text) := by
      rw [Position.advance_eq_walk, text, Position.walk_append, List.append_nil]
      exact Position.before_walk (List.cons_ne_nil c rest)
    rw [stays] at beyond
    rw [inLine]
    exact beyond.trans_isUpTo reached
  · rw [inLine]

end Segment

namespace Printing

open Segment (join marks finish Seamless)

/-- Print a segment with its mapping. -/
def emit (printing : Printing) (segment : Segment) : Printing :=
  (printing.mark segment.origin).push segment.text

variable {printing : Printing} {segments : List Segment}

@[simp] theorem push_nil
    (printing : Printing) :
    printing.push [] = printing := by
  simp [push, Position.advance, Text.lineStarts, Text.lineStartsFrom]

theorem text_emitAll : (segments.foldl emit printing).text = printing.text ++ join segments := by
  induction segments generalizing printing with
  | nil => simp
  | cons segment rest inductionHypothesis =>
      rw [List.foldl_cons, inductionHypothesis, emit, text_push, text_mark, Segment.join_cons,
        List.append_assoc]

/-- Each segment adds a mapping; as none is empty, no mapping replaces the one before it. -/
theorem mappings_emitAll
    (fresh : ∀ last ∈ printing.mappings.getLast?, last.generated.Before printing.place)
    (seamless : Seamless segments) :
    (segments.foldl emit printing).mappings =
      printing.mappings ++ marks printing.place segments := by
  induction segments generalizing printing with
  | nil => simp [marks]
  | cons segment rest inductionHypothesis =>
      obtain ⟨nonempty, _, later⟩ := seamless
      have appended : (printing.emit segment).mappings =
          printing.mappings ++ [⟨printing.place, 0, segment.origin⟩] := by
        unfold emit push mark PositionMap.appendMapping
        cases last : printing.mappings.getLast? with
        | none => simp [List.getLast?_eq_none_iff.mp last]
        | some mapping =>
            have different : mapping.generated ≠ printing.place := fun equal => by
              have before := fresh mapping last
              unfold Position.Before at before
              rw [equal] at before
              omega
            simp [different]
      rw [List.foldl_cons, inductionHypothesis _ later, appended, List.append_assoc]
      · rfl
      · intro last present
        rw [appended, List.getLast?_concat, Option.mem_some_iff] at present
        rw [← present]
        exact Segment.before_advance nonempty

end Printing
end MessageExpansion
