import MessageExpansion.Edit
import MessageExpansion.Proofs.Text.Counting

/-!
# Edited texts

What it means that a text comes from another one by edits, said without slices: the two texts agree
outside the edited stretches, and each edit's text stands in the place of its stretch.  Splicing
does this when the edits come in order and cut the source between characters, and printing a source
with edits yields the spliced text with the trailer behind it.
-/

namespace MessageExpansion

open Text (IsBoundary byteLength slice)

/--
A text comes from a source by edits.  The source begins at a byte offset, which its edits count
from; what stands before, between and behind the edited stretches is kept.
-/
inductive Edited : (offset : Nat) → (source : List Char) → List Edit → List Char → Prop
  | kept {offset : Nat} (source : List Char) : Edited offset source [] source
  | replaced
      {offset : Nat}
      {edit : Edit}
      {edits : List Edit}
      {rest output : List Char}
      (before stretch : List Char)
      (starts : offset + byteLength before = edit.start)
      (stops : edit.start + byteLength stretch = edit.stop)
      (onward : Edited edit.stop rest edits output) :
      Edited offset (before ++ stretch ++ rest) (edit :: edits) (before ++ edit.text ++ output)

/-- Edits of nonempty stretches between two offsets, each behind the one before it. -/
def InOrder (start stop : Nat) : List Edit → Prop
  | [] => start ≤ stop
  | edit :: rest => start ≤ edit.start ∧ edit.start < edit.stop ∧ InOrder edit.stop stop rest

/-- An edit cuts a text between characters. -/
def Edit.Cuts (source : List Char) (edit : Edit) : Prop :=
  IsBoundary source edit.start ∧ IsBoundary source edit.stop

namespace InOrder

variable {start stop : Nat} {edits : List Edit}

/-- The stretch that edits lie in is not inverted. -/
theorem start_le_stop
    (ordered : InOrder start stop edits) :
    start ≤ stop := by
  induction edits generalizing start with
  | nil => exact ordered
  | cons edit rest inductionHypothesis =>
      obtain ⟨reached, nonempty, later⟩ := ordered
      have behind := inductionHypothesis later
      omega

/-- Order between two offsets, spelled out: every edit lies between them, its stretch is not empty,
and no edit begins before an earlier one has ended. -/
theorem iff_pairwise :
    InOrder start stop edits ↔
      start ≤ stop ∧
        (∀ edit ∈ edits, start ≤ edit.start ∧ edit.start < edit.stop ∧ edit.stop ≤ stop) ∧
        edits.Pairwise fun first second => first.stop ≤ second.start := by
  induction edits generalizing start with
  | nil => simp [InOrder]
  | cons edit rest inductionHypothesis =>
      simp only [InOrder, inductionHypothesis, List.forall_mem_cons, List.pairwise_cons]
      constructor
      · rintro ⟨reached, nonempty, within, all, behind⟩
        refine ⟨by omega, ⟨⟨reached, nonempty, within⟩, ?_⟩, ?_, behind⟩
        · intro later present
          obtain ⟨first, second, third⟩ := all later present
          exact ⟨by omega, second, third⟩
        · intro later present
          exact (all later present).1
      · rintro ⟨_, ⟨⟨reached, nonempty, within⟩, all⟩, ahead, behind⟩
        refine ⟨reached, nonempty, within, ?_, behind⟩
        intro later present
        exact ⟨ahead later present, (all later present).2⟩

end InOrder

/-- Splicing edits a stretch of a source when the edits come in order and cut between
characters. -/
theorem edited_splice
    {source : List Char}
    {start stop : Nat}
    {edits : List Edit}
    (ordered : InOrder start stop edits)
    (startCut : IsBoundary source start)
    (stopCut : IsBoundary source stop)
    (cuts : ∀ edit ∈ edits, edit.Cuts source) :
    Edited start (slice start stop source) edits (splice source start stop edits) := by
  induction edits generalizing start with
  | nil => exact .kept _
  | cons edit rest inductionHypothesis =>
      obtain ⟨reached, nonempty, later⟩ := ordered
      obtain ⟨editStart, editStop⟩ := cuts edit (by simp)
      have remaining := later.start_le_stop
      have pieces : slice start stop source =
          slice start edit.start source ++ slice edit.start edit.stop source ++
            slice edit.stop stop source := by
        rw [Text.slice_append_slice startCut editStart editStop reached (by omega),
          Text.slice_append_slice startCut editStop stopCut (by omega) remaining]
      rw [pieces, splice]
      exact .replaced _ _
        (Text.byteLength_slice startCut editStart reached)
        (Text.byteLength_slice editStart editStop (by omega))
        (inductionHypothesis later editStop fun later present => cuts later (by simp [present]))

/-! ### Printing -/

/-- Offsets of lines between two offsets, each behind the one before it and between characters. -/
def LinesWithin (source : List Char) (stop : Nat) : (start : Nat) → List Nat → Prop
  | _, [] => True
  | start, next :: rest =>
      start ≤ next ∧ next ≤ stop ∧ IsBoundary source next ∧ LinesWithin source stop next rest

/-- The lines that begin inside a piece of a text. -/
theorem linesWithin_lineStartsFrom
    {source front piece back : List Char}
    {start offset stop : Nat}
    (split : source = front ++ (piece ++ back))
    (reaches : byteLength front = offset)
    (ends : offset + byteLength piece = stop)
    (reached : start ≤ offset) :
    LinesWithin source stop start (Text.lineStartsFrom offset piece) := by
  -- The offset is that of the rest of the piece; `front` grows by what was passed.
  fun_induction Text.lineStartsFrom offset piece generalizing front start with
  | case1 offset => trivial
  | case2 offset rest inductionHypothesis =>
      have passed : byteLength (front ++ ['\r', '\n']) = offset + 2 := by
        rw [Text.byteLength_append, reaches]
        rfl
      have size : byteLength ('\r' :: '\n' :: rest) = 2 + byteLength rest := by
        simp only [Text.byteLength_cons]
        rw [← Nat.add_assoc]
        rfl
      have pieces : source = (front ++ ['\r', '\n']) ++ (rest ++ back) := by
        rw [split]
        simp
      refine ⟨by omega, by omega, ⟨_, _, pieces, passed⟩, ?_⟩
      exact inductionHypothesis pieces passed (by omega) (Nat.le_refl _)
  | case3 offset c rest _ terminator inductionHypothesis =>
      have passed : byteLength (front ++ [c]) = offset + c.utf8Size := by
        simp [reaches]
      have pieces : source = (front ++ [c]) ++ (rest ++ back) := by
        rw [split]
        simp
      rw [Text.byteLength_cons] at ends
      refine ⟨by omega, by omega, ⟨_, _, pieces, passed⟩, ?_⟩
      exact inductionHypothesis pieces passed (by omega) (Nat.le_refl _)
  | case4 offset c rest _ plain inductionHypothesis =>
      have passed : byteLength (front ++ [c]) = offset + c.utf8Size := by
        simp [reaches]
      have pieces : source = (front ++ [c]) ++ (rest ++ back) := by
        rw [split]
        simp
      rw [Text.byteLength_cons] at ends
      exact inductionHypothesis pieces passed (by omega) (by omega)

namespace Printing

@[simp] theorem text_push
    (printing : Printing)
    (piece : List Char) :
    (printing.push piece).text = printing.text ++ piece := rfl

@[simp] theorem text_mark
    (printing : Printing)
    (origin : Text.Position) :
    (printing.mark origin).text = printing.text := rfl

variable {source : List Char} {start stop : Nat}

/-- Copying line by line prints the stretch that the lines are in. -/
theorem text_copyLines
    {lines : List Nat}
    (printing : Printing)
    (startCut : IsBoundary source start)
    (stopCut : IsBoundary source stop)
    (le : start ≤ stop)
    (within : LinesWithin source stop start lines) :
    (copyLines source start stop printing lines).text =
      printing.text ++ slice start stop source := by
  induction lines generalizing start printing with
  | nil => rw [copyLines, text_push]
  | cons next rest inductionHypothesis =>
      obtain ⟨reached, inside, nextCut, later⟩ := within
      have copied (printing' : Printing)
          (same : printing'.text = printing.text ++ slice start next source) :
          (copyLines source next stop printing' rest).text =
            printing.text ++ slice start stop source := by
        rw [inductionHypothesis printing' nextCut inside later, same, List.append_assoc,
          Text.slice_append_slice startCut nextCut stopCut reached inside]
      rw [copyLines]
      apply copied
      split <;> simp

/-- Copying a stretch prints it. -/
theorem text_copy
    (printing : Printing)
    (startCut : IsBoundary source start)
    (stopCut : IsBoundary source stop)
    (le : start ≤ stop) :
    (copy source start stop printing).text = printing.text ++ slice start stop source := by
  unfold copy
  split
  · next equal =>
      subst equal
      rw [Text.slice_self, List.append_nil]
  · obtain ⟨front, middle, back, split, reaches, ends⟩ := startCut.cut stopCut le
    have cut : slice start stop source = middle := by
      rw [split, ← ends, ← reaches, Text.slice_append]
    rw [text_copyLines _ startCut stopCut le, text_mark]
    rw [cut]
    exact linesWithin_lineStartsFrom split reaches ends (Nat.le_refl _)

/-- Printing a source with edits in order prints the spliced text. -/
theorem text_copyEdited
    {edits : List Edit}
    (printing : Printing)
    (ordered : InOrder start (byteLength source) edits)
    (startCut : IsBoundary source start)
    (cuts : ∀ edit ∈ edits, edit.Cuts source) :
    (copyEdited source start printing edits).text =
      printing.text ++ splice source start (byteLength source) edits := by
  induction edits generalizing start printing with
  | nil => exact text_copy printing startCut (Text.isBoundary_byteLength source) ordered
  | cons edit rest inductionHypothesis =>
      obtain ⟨reached, nonempty, later⟩ := ordered
      obtain ⟨editStart, editStop⟩ := cuts edit (by simp)
      rw [copyEdited, splice,
        inductionHypothesis _ later editStop fun later present => cuts later (by simp [present]),
        text_push, text_mark, text_copy printing startCut editStart reached]
      simp only [List.append_assoc]

end Printing

/-- A text with a trailer behind it, which begins on a line of its own unless nothing precedes
it. -/
def withTrailer (text : List Char) : (trailer : Option (List Char)) → List Char
  | none => text
  | some trailer =>
      if text = [] ∨ Text.endsLine text then text ++ trailer else text ++ '\n' :: trailer

/-- A trailer is put behind the text that was printed. -/
theorem Printing.text_pushTrailer
    (printing : Printing)
    (trailer : List Char) :
    (printing.pushTrailer trailer).text = withTrailer printing.text (some trailer) := by
  unfold Printing.pushTrailer withTrailer
  by_cases empty : printing.text = []
  · simp [empty]
  · by_cases ends : Text.endsLine printing.text = true
    · simp [ends]
    · simp [empty, ends]

/-- Printing with edits in order yields the spliced text with the trailer behind it. -/
theorem Printed.text_ofEdits
    {source : List Char}
    {edits : List Edit}
    (name : String)
    (trailer : Option (List Char))
    (ordered : InOrder 0 (byteLength source) edits)
    (cuts : ∀ edit ∈ edits, edit.Cuts source) :
    (Printed.ofEdits name source edits trailer).text =
      withTrailer (splice source 0 (byteLength source) edits) trailer := by
  have spliced : (Printing.copyEdited source 0 .start edits).text =
      splice source 0 (byteLength source) edits := by
    rw [Printing.text_copyEdited _ ordered (Text.isBoundary_zero source) cuts]
    rfl
  cases trailer with
  | none => exact spliced
  | some trailer =>
      rw [← spliced]
      exact Printing.text_pushTrailer _ trailer

end MessageExpansion
