import MessageExpansion.Proofs.Edit.Tracing

/-!
# Exact maps

The map of a text that was printed with edits leads every character that was copied to where it
stands in the source, and the first line of an edit's text to where the edit begins.  The trailer
stands on lines of its own, which no mapping is on.
-/

namespace MessageExpansion

open Text (Position Splits StaysInLine byteLength)
open Segment (join marks finish Seamless)

/-- A map leads a place of the printed text to a place of the source: it finds a mapping on the line
of the place, and its origin stands as far before the place of the source, on the same line. -/
def PositionMap.Leads (map : PositionMap) (name : String) (generated original : Position) : Prop :=
  ∃ mapping distance,
    map.mapping? generated = some mapping ∧
      map.lookup generated = some ⟨name, mapping.origin⟩ ∧
      generated = ⟨mapping.generated.line, mapping.generated.column + distance⟩ ∧
      original = ⟨mapping.origin.line, mapping.origin.column + distance⟩

/-- Edits of a source in order, and a trailer, which leave the ends of lines whole. -/
structure Edit.KeepLines (source : List Char) (edits : List Edit) (trailer : Option (List Char)) :
    Prop where
  traceable : ∀ edit ∈ edits, edit.Traceable source
  ordered : edits.Pairwise fun first second => first.stop ≤ second.start
  /-- The trailer does not begin with a line feed, which would go on with a line end before it. -/
  noFeed : ∀ text, trailer = some text → text.head? ≠ some '\n'

/-- The edits that end before an offset or at it. -/
def Edit.upTo (offset : Nat) (edits : List Edit) : List Edit :=
  edits.filter (·.stop ≤ offset)

/-- The map of a source that was printed with edits and a trailer tells where everything comes
from. -/
structure Printed.IsExact (name : String) (source : List Char) (edits : List Edit)
    (trailer : Option (List Char)) (printed : Printed) : Prop where
  /-- A character that no edit replaces was copied, and leads to where it stands in the source. -/
  copied : ∀ front c behind, source = front ++ c :: behind →
    (∀ edit ∈ edits, edit.stop ≤ byteLength front ∨ byteLength front < edit.start) →
    ∃ rest,
      printed.text =
          splice source 0 (byteLength front) (Edit.upTo (byteLength front) edits) ++ c :: rest ∧
        printed.map.Leads name
          (.between (splice source 0 (byteLength front) (Edit.upTo (byteLength front) edits))
            (c :: rest))
          (.between front (c :: behind))
  /-- A character on the first line of an edit's text leads to where the edit begins. -/
  edited : ∀ earlier edit later front c behind, edits = earlier ++ edit :: later →
    edit.text = front ++ c :: behind → StaysInLine front (c :: behind) →
    ∃ rest before after,
      printed.text = splice source 0 edit.start earlier ++ edit.text ++ rest ∧
        source = before ++ after ∧ byteLength before = edit.start ∧
        printed.map.lookup
            (.between (splice source 0 edit.start earlier ++ front) (c :: behind ++ rest)) =
          some ⟨name, .between before after⟩
  /-- From the trailer on, no place leads anywhere. -/
  trailer : ∀ text, trailer = some text →
    ∃ code, printed.text = code ++ text ∧
      ∀ place : Position, (Position.between code text).isUpTo place = true →
        printed.map.lookup place = none

/-! ### The trailer -/

/-- Behind a text that ends a line, another line begins. -/
theorem line_lt_walk_of_endsLine
    {front back : List Char}
    (place : Position)
    (ends : Text.endsLine front = true)
    (whole : ¬ Splits front back) :
    place.line < (place.walk front back).line := by
  unfold Text.endsLine at ends
  cases last : front.getLast? with
  | none =>
      rw [last] at ends
      cases ends
  | some c =>
      rw [last] at ends
      obtain ⟨before, rfl⟩ := List.getLast?_eq_some_iff.mp last
      have endsHere : Text.endsLineBefore c back.head? = true := by
        have notBoth : ¬ (c = '\r' ∧ back.head? = some '\n') := by
          rintro ⟨rfl, feed⟩
          exact whole ⟨last, feed⟩
        simp only [Text.endsLineBefore, ends, Bool.true_and, Bool.not_eq_true',
          Bool.and_eq_false_iff, beq_eq_false_iff_ne]
        exact Classical.not_and_iff_not_or_not.mp notBoth
      have behind : (place.walk (before ++ [c]) back).line =
          (place.walk before (c :: back)).line + 1 := by
        rw [Position.walk_append, Position.walk, Position.step, List.nil_append, endsHere]
        rfl
      have reached : place.isUpTo (place.walk before (c :: back)) = true := Position.isUpTo_walk
      rw [Position.isUpTo_iff] at reached
      omega

/-- Segments that make up whole lines, perhaps with more text, have their mappings on earlier lines
than what follows. -/
theorem Segment.line_lt_of_mem_marks
    {segments : List Segment}
    {more trailer : List Char}
    {mapping : Mapping}
    (seamless : Seamless segments)
    (ends : Text.endsLine (join segments ++ more) = true)
    (whole : ¬ Splits (join segments ++ more) trailer)
    (present : mapping ∈ marks .start segments) :
    mapping.generated.line < (Position.between (join segments ++ more) trailer).line := by
  rcases List.eq_nil_or_concat segments with rfl | ⟨front, last, equal⟩
  · cases present
  · rw [List.concat_eq_append] at equal
    subst equal
    have nonempty : last.text ≠ [] := seamless.append_left.1
    have lastNonempty : last.text ++ more ≠ [] := by simp [nonempty]
    have heads : (last.text ++ more ++ trailer).head? = (join [last]).head? := by
      obtain ⟨c, rest, equal⟩ := List.exists_cons_of_ne_nil nonempty
      simp [equal]
    have parts : join (front ++ [last]) ++ more = join front ++ (last.text ++ more) := by simp
    have place : Position.between (join (front ++ [last]) ++ more) trailer =
        (finish .start front).walk (last.text ++ more) trailer := by
      rw [parts, Position.between, Position.walk_append, seamless.finish_eq_walk heads]
    have reached : mapping.generated.isUpTo (finish .start front) = true := by
      rw [marks_append] at present
      rcases List.mem_append.mp present with earlier | here
      · exact (isUpTo_of_mem_marks earlier).2
      · rw [List.mem_singleton.mp here]
        exact Position.isUpTo_refl _
    have later : (finish .start front).line <
        ((finish .start front).walk (last.text ++ more) trailer).line := by
      apply line_lt_walk_of_endsLine
      · rw [parts] at ends
        unfold Text.endsLine at ends ⊢
        rwa [List.getLast?_append_of_ne_nil _ lastNonempty] at ends
      · rintro ⟨carriage, feed⟩
        refine whole ⟨?_, feed⟩
        rw [parts, List.getLast?_append_of_ne_nil _ lastNonempty]
        exact carriage
    rw [place]
    rw [Position.isUpTo_iff] at reached
    omega

/-! ### The map of printing -/

/-- Edits in order fall into those in front of an offset and those behind it, if none is around
it. -/
theorem Edit.exists_division
    {edits : List Edit}
    {offset : Nat}
    (ordered : edits.Pairwise fun first second => first.stop ≤ second.start)
    (upright : ∀ edit ∈ edits, edit.start ≤ edit.stop)
    (apart : ∀ edit ∈ edits, edit.stop ≤ offset ∨ offset < edit.start) :
    ∃ later, edits = upTo offset edits ++ later ∧ ∀ edit ∈ later, offset < edit.start := by
  induction edits with
  | nil => exact ⟨[], rfl, by simp⟩
  | cons edit rest inductionHypothesis =>
      obtain ⟨ahead, ordered⟩ := List.pairwise_cons.mp ordered
      rw [List.forall_mem_cons] at upright apart
      rcases apart.1 with passed | beyond
      · obtain ⟨later, equal, behind⟩ := inductionHypothesis ordered upright.2 apart.2
        refine ⟨later, ?_, behind⟩
        have kept : upTo offset (edit :: rest) = edit :: upTo offset rest := by
          simp [upTo, passed]
        rw [kept, List.cons_append, ← equal]
      · have behind : ∀ later ∈ rest, offset < later.start := fun later present =>
          Nat.lt_of_lt_of_le beyond (Nat.le_trans upright.1 (ahead later present))
        have none : upTo offset (edit :: rest) = [] := by
          rw [upTo, List.filter_eq_nil_iff]
          intro later present
          rw [decide_eq_true_eq]
          rcases List.mem_cons.mp present with rfl | following
          · omega
          · have reached := behind later following
            have stands := upright.2 later following
            omega
        rw [none]
        exact ⟨edit :: rest, rfl, List.forall_mem_cons.mpr ⟨beyond, behind⟩⟩

namespace Printed

variable {source : List Char} {edits : List Edit}

/-- A text with a trailer is made of segments of one source, and its map of their mappings. -/
structure IsOfSegments (name : String) (trailer : Option (List Char)) (segments : List Segment)
    (printed : Printed) : Prop where
  seamless : Seamless segments
  text : printed.text = withTrailer (join segments) trailer
  sources : printed.map.sources = [name]
  mappings : printed.map.mappings = marks .start segments

/-- Printing a source with edits prints segments that are traced to the source. -/
theorem exists_traced
    (name : String)
    (trailer : Option (List Char))
    (traceable : ∀ edit ∈ edits, edit.Traceable source)
    (ordered : edits.Pairwise fun first second => first.stop ≤ second.start) :
    ∃ segments, Traced [] source edits segments ∧
      (ofEdits name source edits trailer).IsOfSegments name trailer segments := by
  obtain ⟨segments, printed, traced⟩ := Printing.exists_traced_copyEdited .start
    (List.nil_append source).symm (by rintro ⟨carriage, _⟩; cases carriage) traceable
    (fun edit _ => Nat.zero_le _) ordered
  have text : (Printing.copyEdited source 0 .start edits).text = join segments := by
    rw [show (0 : Nat) = byteLength [] from rfl, printed, Printing.text_emitAll]
    rfl
  have mappings : (Printing.copyEdited source 0 .start edits).mappings =
      marks .start segments := by
    rw [show (0 : Nat) = byteLength [] from rfl, printed,
      Printing.mappings_emitAll (by simp [Printing.start]) traced.seamless]
    rfl
  refine ⟨segments, traced, traced.seamless, ?_, rfl, ?_⟩
  · rw [← text]
    cases trailer with
    | none => rfl
    | some trailer => exact Printing.text_pushTrailer _ trailer
  · rw [← mappings]
    cases trailer with
    | none => rfl
    | some trailer =>
        show (Printing.pushTrailer _ trailer).mappings = _
        unfold Printing.pushTrailer
        split <;> rfl

/-- A trailer is put behind a text without a change to it. -/
theorem exists_withTrailer_eq
    (text : List Char)
    (trailer : Option (List Char)) :
    ∃ more, withTrailer text trailer = text ++ more := by
  cases trailer with
  | none => exact ⟨[], by simp [withTrailer]⟩
  | some trailer =>
      by_cases whole : text = [] ∨ Text.endsLine text = true
      · exact ⟨trailer, if_pos whole⟩
      · exact ⟨'\n' :: trailer, if_neg whole⟩

/-- What stands before a trailer ends its line, unless there is nothing. -/
theorem exists_line_before_trailer
    (text trailer : List Char) :
    ∃ more, withTrailer text (some trailer) = text ++ more ++ trailer ∧
      (text = [] ∧ more = [] ∨ Text.endsLine (text ++ more) = true) := by
  unfold withTrailer
  by_cases whole : text = [] ∨ Text.endsLine text = true
  · refine ⟨[], by simp [whole], ?_⟩
    rcases whole with empty | ends
    · exact Or.inl ⟨empty, rfl⟩
    · exact Or.inr (by rwa [List.append_nil])
  · exact ⟨['\n'], by simp [whole], Or.inr (by simp [Text.endsLine, Text.isLineTerminator])⟩

namespace IsOfSegments

variable {name : String} {trailer : Option (List Char)} {segments before next : List Segment}
variable {segment : Segment} {printed : Printed} {front behind : List Char} {c : Char}

/-- A character on the first line of a segment is printed, and belongs to the mapping of the
segment. -/
theorem exists_mapping
    (made : printed.IsOfSegments name trailer (before ++ segment :: next))
    (split : segment.text = front ++ c :: behind)
    (stays : StaysInLine front (c :: behind)) :
    ∃ more mapping,
      printed.text = join before ++ front ++ c :: (behind ++ more) ∧
        printed.map.mapping? (.between (join before ++ front) (c :: (behind ++ more))) =
          some mapping ∧
        printed.map.lookup (.between (join before ++ front) (c :: (behind ++ more))) =
          some ⟨name, segment.origin⟩ ∧
        mapping.origin = segment.origin ∧
        Position.between (join before ++ front) (c :: (behind ++ more)) =
          ⟨mapping.generated.line, mapping.generated.column + Text.units front⟩ := by
  obtain ⟨trailing, textEqual⟩ := exists_withTrailer_eq (join (before ++ segment :: next)) trailer
  obtain ⟨mapping, found, sourceIndex, origin, place⟩ :=
    Segment.mapping?_eq_some (behind ++ (join next ++ trailing)) made.mappings made.seamless split
      stays
  have source : printed.map.sources[mapping.source]? = some name := by
    simp [made.sources, sourceIndex]
  refine ⟨join next ++ trailing, mapping, ?_, found, ?_, origin, place⟩
  · rw [made.text, textEqual, Segment.join_append, Segment.join_cons, split]
    simp only [List.append_assoc, List.cons_append]
  · rw [PositionMap.lookup_eq_some found source, origin]

/-- A character that was copied leads to where it stands in the source. -/
theorem exists_leads
    (made : printed.IsOfSegments name trailer segments)
    (copied : PrintsCopied [] front c behind edits segments) :
    ∃ rest,
      printed.text = splice (front ++ c :: behind) 0 (byteLength front) edits ++ c :: rest ∧
        printed.map.Leads name
          (.between (splice (front ++ c :: behind) 0 (byteLength front) edits) (c :: rest))
          (.between front (c :: behind)) := by
  obtain ⟨before, segment, next, passed, inLine, remaining, rfl, split, stays, reached, origin,
    printedText⟩ := copied
  simp only [List.nil_append, Text.byteLength_nil] at reached printedText
  obtain ⟨more, mapping, text, found, led, sameOrigin, place⟩ := made.exists_mapping split stays
  rw [printedText] at text found led place
  refine ⟨remaining ++ more, text, mapping, Text.units inLine, found, by rw [led, sameOrigin],
    place, ?_⟩
  have staysHere : StaysInLine inLine (c :: behind) := stays.congr rfl
  rw [sameOrigin, origin, reached, Position.between, Position.walk_append, staysHere]
  rfl

/-- No place from the trailer on leads anywhere. -/
theorem exists_trailer
    {trailer : List Char}
    (made : printed.IsOfSegments name (some trailer) segments)
    (noFeed : trailer.head? ≠ some '\n') :
    ∃ code, printed.text = code ++ trailer ∧
      ∀ place : Position, (Position.between code trailer).isUpTo place = true →
        printed.map.lookup place = none := by
  obtain ⟨more, text, ends⟩ := exists_line_before_trailer (join segments) trailer
  refine ⟨join segments ++ more, made.text.trans text, fun place reached => ?_⟩
  apply PositionMap.lookup_eq_none
  apply PositionMap.mapping?_eq_none
  intro mapping present
  rw [made.mappings] at present
  rcases ends with ⟨empty, _⟩ | ends
  · rw [made.seamless.eq_nil_of_join_eq_nil empty] at present
    cases present
  · have whole : ¬ Splits (join segments ++ more) trailer := fun splits => noFeed splits.2
    have before := Segment.line_lt_of_mem_marks made.seamless ends whole present
    rw [Position.isUpTo_iff] at reached
    omega

end IsOfSegments

/-- The map of a text that was printed with edits is exact if they leave the ends of lines whole. -/
theorem isExact_ofEdits
    (name : String)
    (trailer : Option (List Char))
    (keep : Edit.KeepLines source edits trailer) :
    IsExact name source edits trailer (ofEdits name source edits trailer) := by
  obtain ⟨traceable, ordered, noFeed⟩ := keep
  obtain ⟨segments, traced, made⟩ := exists_traced name trailer traceable ordered
  constructor
  · intro front c behind split apart
    obtain ⟨later, equal, beyond⟩ := Edit.exists_division ordered
      (fun edit present => (traceable edit present).upright) apart
    have passed : ∀ edit ∈ Edit.upTo (byteLength front) edits, edit.stop ≤ byteLength front :=
      fun edit present => of_decide_eq_true (List.mem_filter.mp present).2
    have tracedParts : Traced [] source (Edit.upTo (byteLength front) edits ++ later) segments :=
      equal ▸ traced
    have copied := made.exists_leads (tracedParts.printsCopied split passed beyond)
    rwa [← split] at copied
  · intro earlier edit later front c behind split editText stays
    subst split
    obtain ⟨printed, next, passed, remaining, rfl, parts, starts, printedText⟩ :=
      traced.exists_segment_of_edited
    simp only [List.nil_append, Text.byteLength_nil] at parts printedText
    obtain ⟨more, _, text, _, led, _⟩ := made.exists_mapping editText stays
    rw [printedText] at text led
    refine ⟨more, passed, remaining, ?_, parts, starts, led⟩
    rw [text, editText]
    simp only [List.append_assoc, List.cons_append]
  · rintro trailer rfl
    exact made.exists_trailer (noFeed trailer rfl)

end Printed
end MessageExpansion
