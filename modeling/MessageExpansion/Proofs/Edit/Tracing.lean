import Mathlib.Data.List.Basic
import MessageExpansion.Proofs.Edit.Segments

/-!
# The map of a printed text

A text that was printed with edits comes with a map back to its source.  The map is exact when no
seam between copied text and the text of an edit changes how line ends are counted: a character that
was copied is found on its line of the source, as far behind a mapping as in the printed text; the
first line of an edit's text leads to where the edit begins; and the trailer leads nowhere.
-/

namespace MessageExpansion

open Text (IsBoundary Position Splits StaysInLine byteLength slice units)
open Segment (join marks finish Seamless)

/-- An edit of a source whose text can be told from what stands around it by counting lines. -/
structure Edit.Traceable (source : List Char) (edit : Edit) : Prop where
  /-- It cuts the source between characters. -/
  cuts : edit.Cuts source
  /-- It does not end before it starts. -/
  upright : edit.start ≤ edit.stop
  /-- It leaves a text. -/
  nonempty : edit.text ≠ []
  /-- Its text does not begin with a line feed, which would end the line end of a carriage
  return. -/
  noFeed : edit.text.head? ≠ some '\n'
  /-- Its text does not end with a carriage return. -/
  noReturn : edit.text.getLast? ≠ some '\r'
  /-- It leaves the line ends of the source whole. -/
  whole : ∀ front back, source = front ++ back →
    byteLength front = edit.start ∨ byteLength front = edit.stop → ¬ Splits front back

/--
A rest of a source, behind a front part, is printed with edits as segments.  A line of the source is
mapped to where it stands there, and the text of an edit to where the edit begins.
-/
inductive Traced : (front rest : List Char) → List Edit → List Segment → Prop
  | done (front : List Char) : Traced front [] [] []
  | copied
      {front line rest : List Char}
      {edits : List Edit}
      {segments : List Segment}
      (nonempty : line ≠ [])
      (whole : ¬ Splits front (line ++ rest))
      (stays : ∀ before c behind, line = before ++ c :: behind →
        StaysInLine before (c :: behind))
      (beyond : ∀ edit ∈ edits, byteLength (front ++ line) ≤ edit.start)
      (onward : Traced (front ++ line) rest edits segments) :
      Traced front (line ++ rest) edits (⟨line, .between front (line ++ rest)⟩ :: segments)
  | edited
      {front stretch rest : List Char}
      {edit : Edit}
      {edits : List Edit}
      {segments : List Segment}
      (starts : byteLength front = edit.start)
      (stops : byteLength (front ++ stretch) = edit.stop)
      (traceable : edit.Traceable (front ++ (stretch ++ rest)))
      (beyond : ∀ later ∈ edits, edit.stop ≤ later.start)
      (onward : Traced (front ++ stretch) rest edits segments) :
      Traced front (stretch ++ rest) (edit :: edits)
        (⟨edit.text, .between front (stretch ++ rest)⟩ :: segments)

namespace Traced

variable {front rest : List Char} {edits : List Edit} {segments : List Segment}

/-- What is printed next does not go on with a line end. -/
theorem not_splits_join
    (traced : Traced front rest edits segments) :
    ¬ Splits front (join segments) := by
  rintro ⟨carriage, feed⟩
  cases traced with
  | done => cases feed
  | copied nonempty whole =>
      obtain ⟨c, line, rfl⟩ := List.exists_cons_of_ne_nil nonempty
      exact whole ⟨carriage, feed⟩
  | edited _ _ traceable =>
      refine traceable.noFeed ?_
      rw [Segment.join_cons, List.head?_append] at feed
      cases head : List.head? _ with
      | none => exact absurd (List.head?_eq_none_iff.mp head) traceable.nonempty
      | some c =>
          rw [head] at feed
          exact feed

theorem seamless
    (traced : Traced front rest edits segments) :
    Seamless segments := by
  induction traced with
  | done => trivial
  | copied nonempty _ _ _ onward inductionHypothesis =>
      refine ⟨nonempty, ?_, inductionHypothesis⟩
      intro splits
      refine onward.not_splits_join ⟨?_, splits.2⟩
      rw [List.getLast?_append, splits.1]
      rfl
  | edited _ _ traceable _ _ inductionHypothesis =>
      exact ⟨traceable.nonempty, fun splits => traceable.noReturn splits.1, inductionHypothesis⟩

theorem traceable
    (traced : Traced front rest edits segments) :
    ∀ edit ∈ edits, edit.Traceable (front ++ rest) := by
  induction traced with
  | done => simp
  | copied _ _ _ _ _ inductionHypothesis =>
      rw [← List.append_assoc]
      exact inductionHypothesis
  | edited _ _ traceable _ _ inductionHypothesis =>
      rw [List.forall_mem_cons]
      refine ⟨traceable, ?_⟩
      rw [← List.append_assoc]
      exact inductionHypothesis

end Traced

/-! ### Printing is traced -/

/-- Where a line ends, no line end is cut in two, if more text follows. -/
theorem Text.IsLine.not_splits
    {line tail : List Char}
    (isLine : Text.IsLine line tail)
    (nonempty : tail ≠ [])
    (front back : List Char) :
    ¬ Splits (front ++ line) (tail ++ back) := by
  rintro ⟨carriage, feed⟩
  apply isLine.whole
  constructor
  · rwa [List.getLast?_append_of_ne_nil _ isLine.nonempty] at carriage
  · rwa [List.head?_append_of_ne_nil _ nonempty] at feed

namespace Printing

variable {source : List Char}

/-- Copying a line prints a segment for it. -/
theorem push_slice_eq_emit
    {front line rest : List Char}
    (printing : Printing)
    (split : source = front ++ (line ++ rest))
    (whole : ¬ Splits front (line ++ rest)) :
    (printing.mark (.ofOffset source (byteLength front))).push
        (slice (byteLength front) (byteLength (front ++ line)) source) =
      printing.emit ⟨line, .between front (line ++ rest)⟩ := by
  rw [split, Position.ofOffset_eq_between whole, Text.byteLength_append, Text.slice_append]
  rfl

/-- Copying line by line prints a segment for each line of a stretch. -/
theorem exists_traced_copyLines
    {front piece back : List Char}
    {lines : List Nat}
    (printing : Printing)
    (split : source = front ++ (piece ++ back))
    (nonempty : piece ≠ [])
    (starts : Text.lineStartsFrom (byteLength front) piece = lines)
    (whole : ¬ Splits front (piece ++ back)) :
    ∃ segments : List Segment,
      copyLines source (byteLength front) (byteLength (front ++ piece))
          (printing.mark (.ofOffset source (byteLength front))) lines =
        segments.foldl emit printing ∧
      ∀ edits later, (∀ edit ∈ edits, byteLength (front ++ piece) ≤ edit.start) →
        Traced (front ++ piece) back edits later →
        Traced front (piece ++ back) edits (segments ++ later) := by
  induction lines generalizing front piece printing with
  | nil =>
      refine ⟨[⟨piece, .between front (piece ++ back)⟩], ?_, ?_⟩
      · rw [copyLines, push_slice_eq_emit printing split whole]
        rfl
      · intro edits later beyond onward
        refine .copied nonempty whole ?_ beyond onward
        rintro before c behind rfl
        exact Text.staysInLine_of_lineStartsFrom_eq_nil starts
  | cons next lines inductionHypothesis =>
      obtain ⟨line, tail, rfl, reached, more, isLine⟩ :=
        Text.exists_line_of_lineStartsFrom_eq_cons starts
      rw [← Text.byteLength_append] at reached
      rw [List.append_assoc line] at split whole
      have splitNext : source = (front ++ line) ++ (tail ++ back) := by
        rw [split, List.append_assoc]
      rw [copyLines, reached, push_slice_eq_emit printing split whole, ← List.append_assoc front,
        List.append_assoc line]
      by_cases last : tail = []
      · subst last
        have noMore : lines = [] := more
        refine ⟨[⟨line, .between front (line ++ ([] ++ back))⟩], ?_, ?_⟩
        · rw [noMore, copyLines, List.append_nil, if_neg (Nat.lt_irrefl _), Text.slice_self,
            push_nil]
          rfl
        · intro edits later beyond onward
          rw [List.append_nil] at beyond onward
          exact .copied isLine.nonempty whole isLine.stays beyond onward
      · have unfinished : byteLength (front ++ line) < byteLength (front ++ line ++ tail) := by
          have size : byteLength tail ≠ 0 := fun zero =>
            last (Text.eq_nil_of_byteLength_eq_zero zero)
          rw [Text.byteLength_append _ tail]
          omega
        obtain ⟨segments, equal, traced⟩ := inductionHypothesis
          (printing.emit ⟨line, .between front (line ++ (tail ++ back))⟩)
          splitNext last (by rw [more, reached]) (isLine.not_splits last front back)
        refine ⟨⟨line, .between front (line ++ (tail ++ back))⟩ :: segments, ?_, ?_⟩
        · rw [if_pos unfinished, equal]
          rfl
        · intro edits later beyond onward
          refine .copied isLine.nonempty whole isLine.stays ?_ (traced edits later beyond onward)
          intro edit present
          exact Nat.le_trans (Nat.le_of_lt unfinished) (beyond edit present)

/-- Copying a stretch prints a segment for each line of it. -/
theorem exists_traced_copy
    {front piece back : List Char}
    (printing : Printing)
    (split : source = front ++ (piece ++ back))
    (whole : ¬ Splits front (piece ++ back)) :
    ∃ segments : List Segment,
      copy source (byteLength front) (byteLength (front ++ piece)) printing =
        segments.foldl emit printing ∧
      ∀ edits later, (∀ edit ∈ edits, byteLength (front ++ piece) ≤ edit.start) →
        Traced (front ++ piece) back edits later →
        Traced front (piece ++ back) edits (segments ++ later) := by
  unfold copy
  by_cases empty : piece = []
  · subst empty
    refine ⟨[], by simp, ?_⟩
    intro edits later _ onward
    simpa using onward
  · have size : byteLength piece ≠ 0 := fun zero =>
      empty (Text.eq_nil_of_byteLength_eq_zero zero)
    have cut : slice (byteLength front) (byteLength (front ++ piece)) source = piece := by
      rw [split, Text.byteLength_append, Text.slice_append]
    rw [if_neg (by rw [Text.byteLength_append]; omega), cut]
    exact exists_traced_copyLines printing split empty rfl whole

/-- Printing a source with edits prints segments that are traced to the source. -/
theorem exists_traced_copyEdited
    {front rest : List Char}
    {edits : List Edit}
    (printing : Printing)
    (split : source = front ++ rest)
    (whole : ¬ Splits front rest)
    (traceable : ∀ edit ∈ edits, edit.Traceable source)
    (beyond : ∀ edit ∈ edits, byteLength front ≤ edit.start)
    (ordered : edits.Pairwise fun first second => first.stop ≤ second.start) :
    ∃ segments : List Segment,
      copyEdited source (byteLength front) printing edits = segments.foldl emit printing ∧
        Traced front rest edits segments := by
  induction edits generalizing front rest printing with
  | nil =>
      have splitEnd : source = front ++ (rest ++ []) := by rw [split, List.append_nil]
      obtain ⟨segments, equal, traced⟩ :=
        exists_traced_copy printing splitEnd (by rwa [List.append_nil])
      refine ⟨segments, ?_, ?_⟩
      · rw [copyEdited, ← equal, split]
      · simpa using traced [] [] (by simp) (.done _)
  | cons edit edits inductionHypothesis =>
      obtain ⟨ahead, ordered⟩ := List.pairwise_cons.mp ordered
      have editTraceable := traceable edit List.mem_cons_self
      obtain ⟨before, back, rfl, starts⟩ :=
        editTraceable.cuts.1.split_behind split (beyond edit List.mem_cons_self)
      rw [← List.append_assoc] at split
      obtain ⟨stretch, rest, rfl, stops⟩ :=
        editTraceable.cuts.2.split_behind split (starts ▸ editTraceable.upright)
      have splitCopy : source = front ++ (before ++ (stretch ++ rest)) := by
        rw [split, List.append_assoc]
      have splitRest : source = (front ++ before ++ stretch) ++ rest := by
        rw [split]
        simp only [List.append_assoc]
      have wholeStart : ¬ Splits (front ++ before) (stretch ++ rest) :=
        editTraceable.whole _ _ split (Or.inl starts)
      obtain ⟨copied, copiedEqual, copiedTraced⟩ :=
        exists_traced_copy printing splitCopy whole
      obtain ⟨segments, equal, traced⟩ := inductionHypothesis
        ((copied.foldl emit printing).emit
          ⟨edit.text, .between (front ++ before) (stretch ++ rest)⟩)
        splitRest (editTraceable.whole _ _ splitRest (Or.inr stops))
        (fun later present => traceable later (List.mem_cons_of_mem edit present))
        (fun later present => stops ▸ ahead later present) ordered
      have placed : Position.ofOffset source edit.start =
          .between (front ++ before) (stretch ++ rest) := by
        rw [split, ← starts, Position.ofOffset_eq_between wholeStart]
      refine ⟨copied ++ ⟨edit.text, .between (front ++ before) (stretch ++ rest)⟩ :: segments,
        ?_, copiedTraced _ _ ?_ ?_⟩
      · rw [copyEdited, ← starts, copiedEqual, starts, ← stops, placed, List.foldl_append,
          List.foldl_cons, ← equal]
        rfl
      · intro later present
        rcases List.mem_cons.mp present with rfl | behind
        · exact Nat.le_of_eq starts
        · exact starts ▸ Nat.le_trans editTraceable.upright (ahead later behind)
      · exact .edited starts stops (split ▸ editTraceable) ahead traced

end Printing

/-! ### From the source to the segments -/

/-- What is copied before the first edit stands in front of the spliced text. -/
theorem splice_copied
    {source front line rest : List Char}
    {stop : Nat}
    {edits : List Edit}
    (split : source = front ++ (line ++ rest))
    (beyond : ∀ edit ∈ edits, byteLength (front ++ line) ≤ edit.start)
    (cuts : ∀ edit ∈ edits, edit.Cuts source)
    (reached : byteLength (front ++ line) ≤ stop)
    (stopCut : IsBoundary source stop) :
    splice source (byteLength front) stop edits =
      line ++ splice source (byteLength (front ++ line)) stop edits := by
  have frontCut : IsBoundary source (byteLength front) := ⟨front, line ++ rest, split, rfl⟩
  have lineCut : IsBoundary source (byteLength (front ++ line)) :=
    ⟨front ++ line, rest, by rw [split, List.append_assoc], rfl⟩
  have passed : byteLength front ≤ byteLength (front ++ line) := by
    rw [Text.byteLength_append]
    omega
  have copied : slice (byteLength front) (byteLength (front ++ line)) source = line := by
    rw [split, Text.byteLength_append, Text.slice_append]
  cases edits with
  | nil =>
      have joined := Text.slice_append_slice frontCut lineCut stopCut passed reached
      rw [splice, splice, ← joined, copied]
  | cons edit edits =>
      have joined := Text.slice_append_slice frontCut lineCut
        (cuts edit List.mem_cons_self).1 passed (beyond edit List.mem_cons_self)
      rw [splice, splice, ← joined, copied]
      simp only [List.append_assoc]

/-- The text of an edit stands in front of the spliced text behind it. -/
theorem splice_edited
    {front stretch : List Char}
    {edit : Edit}
    (starts : byteLength front = edit.start)
    (stops : byteLength (front ++ stretch) = edit.stop)
    (source : List Char)
    (stop : Nat)
    (edits : List Edit) :
    splice source (byteLength front) stop (edit :: edits) =
      edit.text ++ splice source (byteLength (front ++ stretch)) stop edits := by
  rw [splice, ← starts, Text.slice_self, List.nil_append, ← stops]

/-- A character of two texts that make up another text is in the first or in the second. -/
private theorem append_eq_append_cons
    {first second before behind : List Char}
    {c : Char}
    (equal : first ++ second = before ++ c :: behind) :
    (∃ more, before = first ++ more ∧ second = more ++ c :: behind) ∨
      ∃ more, first = before ++ c :: more ∧ behind = more ++ second := by
  rcases List.append_eq_append_iff.mp equal with ⟨more, split, rest⟩ | ⟨more, split, rest⟩
  · exact Or.inl ⟨more, split, rest⟩
  · cases more with
    | nil => exact Or.inl ⟨[], by simpa using split.symm, by simpa using rest.symm⟩
    | cons d more =>
        cases rest
        exact Or.inr ⟨more, split, rfl⟩

/-- The character between two parts of a rest is printed in a line that was copied: the line leads
to where it stands in the source, and what is printed before the character is the spliced text of
the edits in front of it. -/
def PrintsCopied (front before : List Char) (c : Char) (behind : List Char) (edits : List Edit)
    (segments : List Segment) : Prop :=
  ∃ printed segment next source inLine remaining,
    segments = printed ++ segment :: next ∧
      segment.text = inLine ++ c :: remaining ∧
      StaysInLine inLine (c :: remaining) ∧
      front ++ before = source ++ inLine ∧
      segment.origin = .between source (inLine ++ c :: behind) ∧
      join printed ++ inLine = splice (front ++ before ++ c :: behind) (byteLength front)
        (byteLength (front ++ before)) edits

/-- What is printed behind a stretch is printed behind the segment of the stretch. -/
theorem PrintsCopied.cons
    {front stretch before behind : List Char}
    {c : Char}
    {edits all : List Edit}
    {segments : List Segment}
    (prints : PrintsCopied (front ++ stretch) before c behind edits segments)
    (segment : Segment)
    (spliced : ∀ source stop, source = front ++ (stretch ++ (before ++ c :: behind)) →
      stop = byteLength (front ++ stretch ++ before) →
      splice source (byteLength front) stop all =
        segment.text ++ splice source (byteLength (front ++ stretch)) stop edits) :
    PrintsCopied front (stretch ++ before) c behind all (segment :: segments) := by
  obtain ⟨printed, found, next, source, inLine, remaining, rfl, text, stays, reached, origin,
    printedText⟩ := prints
  refine ⟨segment :: printed, found, next, source, inLine, remaining, rfl, text, stays,
    by rw [← reached, List.append_assoc], origin, ?_⟩
  rw [← List.append_assoc front, spliced _ _ (by simp only [List.append_assoc]) rfl, ← printedText,
    Segment.join_cons, List.append_assoc]

namespace Traced

variable {front rest before behind : List Char} {c : Char}
variable {edit : Edit} {edits earlier later : List Edit} {segments : List Segment}

/-- A character that no edit replaces is printed in a line that was copied. -/
theorem printsCopied
    (traced : Traced front rest (earlier ++ later) segments)
    (split : rest = before ++ c :: behind)
    (passed : ∀ edit ∈ earlier, edit.stop ≤ byteLength (front ++ before))
    (ahead : ∀ edit ∈ later, byteLength (front ++ before) < edit.start) :
    PrintsCopied front before c behind earlier segments := by
  generalize all : earlier ++ later = edits at traced
  induction traced generalizing before earlier with
  | done => simp at split
  | @copied front line rest edits segments nonempty whole stays beyond onward
      inductionHypothesis =>
      subst all
      rcases append_eq_append_cons split with ⟨more, rfl, rfl⟩ | ⟨more, rfl, rfl⟩
      · rw [← List.append_assoc] at passed ahead
        refine (inductionHypothesis rfl passed ahead rfl).cons _ ?_
        rintro _ _ rfl rfl
        have cuts (edit : Edit) (present : edit ∈ earlier) :
            edit.Cuts (front ++ (line ++ (more ++ c :: behind))) := by
          rw [← List.append_assoc]
          exact (onward.traceable edit (List.mem_append_left later present)).cuts
        have reached : byteLength (front ++ line) ≤ byteLength (front ++ line ++ more) := by
          rw [Text.byteLength_append _ more]
          exact Nat.le_add_right _ _
        exact splice_copied rfl
          (fun edit present => beyond edit (List.mem_append_left later present)) cuts reached
          ⟨front ++ line ++ more, c :: behind, by simp, rfl⟩
      · -- The edits in front of the character would have to begin behind the line.
        have none : earlier = [] := by
          refine List.eq_nil_iff_forall_not_mem.mpr fun edit present => ?_
          have stop := passed edit present
          have start := beyond edit (List.mem_append_left later present)
          have upright := (onward.traceable edit (List.mem_append_left later present)).upright
          have positive := c.utf8Size_pos
          simp only [Text.byteLength_append, Text.byteLength_cons] at stop start
          omega
        subst none
        refine ⟨[], ⟨_, _⟩, segments, front, before, more, rfl, rfl, stays _ _ _ rfl, rfl, ?_, ?_⟩
        · simp
        · rw [splice, Text.byteLength_append, List.append_assoc, Text.slice_append]
          rfl
  | @edited front stretch rest edit edits segments starts stops traceable beyond onward
      inductionHypothesis =>
      cases earlier with
      | nil =>
          have here := ahead edit (by rw [show later = edit :: edits from all]; simp)
          rw [← starts, Text.byteLength_append] at here
          omega
      | cons first earlier =>
          obtain ⟨rfl, rfl⟩ := List.cons.inj all
          have stop := passed first List.mem_cons_self
          rw [← stops] at stop
          obtain ⟨more, rfl, rfl⟩ : ∃ more, before = stretch ++ more ∧ rest = more ++ c :: behind := by
            rcases append_eq_append_cons split with found | ⟨more, rfl, _⟩
            · exact found
            · have positive := c.utf8Size_pos
              simp only [Text.byteLength_append, Text.byteLength_cons] at stop
              omega
          rw [← List.append_assoc] at passed ahead
          refine (inductionHypothesis rfl
            (fun edit present => passed edit (List.mem_cons_of_mem first present)) ahead rfl).cons _ ?_
          intro source stop _ _
          exact splice_edited starts stops source stop earlier

/-- The text of an edit is printed as a segment of its own. -/
theorem exists_segment_of_edited
    (traced : Traced front rest (earlier ++ edit :: later) segments) :
    ∃ printed next passed remaining,
      segments = printed ++ ⟨edit.text, .between passed remaining⟩ :: next ∧
        front ++ rest = passed ++ remaining ∧
        byteLength passed = edit.start ∧
        join printed = splice (front ++ rest) (byteLength front) edit.start earlier := by
  generalize all : earlier ++ edit :: later = edits at traced
  induction traced generalizing earlier with
  | done => simp at all
  | @copied front line rest edits segments nonempty whole stays beyond onward
      inductionHypothesis =>
      subst all
      obtain ⟨printed, next, passed, remaining, rfl, split, reached, printedText⟩ :=
        inductionHypothesis rfl
      refine ⟨⟨line, _⟩ :: printed, next, passed, remaining, rfl,
        by rw [← split, List.append_assoc], reached, ?_⟩
      have cuts (other : Edit) (present : other ∈ earlier ++ edit :: later) :
          other.Cuts (front ++ (line ++ rest)) := by
        rw [← List.append_assoc]
        exact (onward.traceable other present).cuts
      rw [splice_copied rfl (fun other present => beyond other (List.mem_append_left _ present))
        (fun other present => cuts other (List.mem_append_left _ present))
        (beyond edit (by simp)) (cuts edit (by simp)).1,
        Segment.join_cons, printedText, List.append_assoc]
  | @edited front stretch rest first edits segments starts stops traceable beyond onward
      inductionHypothesis =>
      cases earlier with
      | nil =>
          obtain ⟨rfl, rfl⟩ := List.cons.inj all
          refine ⟨[], segments, front, stretch ++ rest, rfl, rfl, starts, ?_⟩
          rw [splice, starts, Text.slice_self]
          rfl
      | cons first' earlier =>
          obtain ⟨rfl, rfl⟩ := List.cons.inj all
          obtain ⟨printed, next, passed, remaining, rfl, split, reached, printedText⟩ :=
            inductionHypothesis rfl
          refine ⟨⟨first'.text, _⟩ :: printed, next, passed, remaining, rfl,
            by rw [← split, List.append_assoc], reached, ?_⟩
          rw [splice_edited starts stops, Segment.join_cons, printedText, List.append_assoc]

end Traced

end MessageExpansion
