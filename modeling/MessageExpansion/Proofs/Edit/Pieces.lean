import Mathlib.Data.List.Chain
import MessageExpansion.Edit
import MessageExpansion.Proofs.Text.Counting

/-!
# Texts printed in pieces

A text is printed piece by piece, and its end is tracked on the way.  A piece ends its last line if
that ends with a carriage return, whatever comes next.  So the tracked end is on one line too many
for every line end that the pieces cut in two, and it is where the text ends if they cut none.

The lines of a text begin behind its line ends and nowhere else.
-/

namespace MessageExpansion
namespace Text

/-! ### Where lines begin -/

/-- What ends a line, in front of the text behind it. -/
inductive LineEnd : (ending back : List Char) → Prop
  | lineFeed (back : List Char) : LineEnd ['\n'] back
  | both (back : List Char) : LineEnd ['\r', '\n'] back
  | carriageReturn {back : List Char} (alone : back.head? ≠ some '\n') : LineEnd ['\r'] back
  | lineSeparator (back : List Char) : LineEnd ['\u2028'] back
  | paragraphSeparator (back : List Char) : LineEnd ['\u2029'] back

/-- A line of a text begins at an offset: what stands before it ends with a line end. -/
def BeginsLine (text : List Char) (start : Nat) : Prop :=
  ∃ front ending back, text = front ++ (ending ++ back) ∧ LineEnd ending back ∧
    start = byteLength (front ++ ending)

/-- A character ends a line unless it is the first half of a line end. -/
theorem lineEnd_singleton
    {c : Char}
    {rest : List Char}
    (terminates : isLineTerminator c = true)
    (notBoth : ∀ more, c = '\r' → rest = '\n' :: more → False) :
    LineEnd [c] rest := by
  simp only [isLineTerminator, Bool.or_eq_true, beq_iff_eq] at terminates
  rcases terminates with ((rfl | rfl) | rfl) | rfl
  · exact .lineFeed rest
  · refine .carriageReturn fun feed => ?_
    obtain ⟨more, rfl⟩ := List.head?_eq_some_iff.mp feed
    exact notBoth more rfl rfl
  · exact .lineSeparator rest
  · exact .paragraphSeparator rest

/-- A line of a text is one of a longer text. -/
theorem BeginsLine.append
    {text : List Char}
    {start : Nat}
    (begins : BeginsLine text start)
    (head : List Char) :
    BeginsLine (head ++ text) (byteLength head + start) := by
  obtain ⟨front, ending, back, rfl, isEnd, rfl⟩ := begins
  refine ⟨head ++ front, ending, back, by simp, isEnd, ?_⟩
  rw [List.append_assoc, byteLength_append head]

/-- Lines begin behind line ends only. -/
theorem exists_beginsLine
    {offset start : Nat}
    {text : List Char}
    (present : start ∈ lineStartsFrom offset text) :
    ∃ place, BeginsLine text place ∧ start = offset + place := by
  fun_induction lineStartsFrom offset text with
  | case1 offset => cases present
  | case2 offset rest inductionHypothesis =>
      have size : byteLength ['\r', '\n'] = 2 := rfl
      rcases List.mem_cons.mp present with rfl | later
      · exact ⟨2, ⟨[], _, rest, rfl, .both rest, size.symm⟩, rfl⟩
      · obtain ⟨place, begins, rfl⟩ := inductionHypothesis later
        exact ⟨_, begins.append ['\r', '\n'], by rw [size, Nat.add_assoc]⟩
  | case3 offset c rest notBoth terminates inductionHypothesis =>
      rcases List.mem_cons.mp present with rfl | later
      · exact ⟨_, ⟨[], [c], rest, rfl, lineEnd_singleton terminates notBoth, rfl⟩, by simp⟩
      · obtain ⟨place, begins, rfl⟩ := inductionHypothesis later
        exact ⟨_, begins.append [c], by simp [Nat.add_assoc]⟩
  | case4 offset c rest notBoth plain inductionHypothesis =>
      obtain ⟨place, begins, rfl⟩ := inductionHypothesis present
      exact ⟨_, begins.append [c], by simp [Nat.add_assoc]⟩

/-- A line begins behind a text that ends with a line end. -/
theorem byteLength_mem_lineStartsFrom
    {offset : Nat}
    {front : List Char}
    {c : Char}
    (terminates : isLineTerminator c = true) :
    offset + byteLength (front ++ [c]) ∈ lineStartsFrom offset (front ++ [c]) := by
  generalize whole : front ++ [c] = text
  fun_induction lineStartsFrom offset text generalizing front with
  | case1 offset => simp at whole
  | case2 offset rest inductionHypothesis =>
      rcases front with _ | ⟨first, _ | ⟨second, more⟩⟩
      · simp at whole
      · cases whole
        exact List.mem_cons_self
      · cases whole
        have later := inductionHypothesis rfl
        simp only [byteLength_cons, ← Nat.add_assoc] at later ⊢
        exact List.mem_cons_of_mem _ later
  | case3 offset d rest notBoth _ inductionHypothesis =>
      rcases front with _ | ⟨first, more⟩
      · cases whole
        simp
      · cases whole
        have later := inductionHypothesis rfl
        rw [Nat.add_assoc] at later
        exact List.mem_cons_of_mem _ later
  | case4 offset d rest notBoth plain inductionHypothesis =>
      rcases front with _ | ⟨first, more⟩
      · cases whole
        exact absurd terminates plain
      · cases whole
        have later := inductionHypothesis rfl
        rwa [Nat.add_assoc] at later

/-- No line end is cut in two behind one. -/
theorem LineEnd.exists_concat
    {ending back : List Char}
    (isEnd : LineEnd ending back)
    (front : List Char) :
    ∃ before c, front ++ ending = before ++ [c] ∧ isLineTerminator c = true ∧
      ¬ Splits (front ++ ending) back := by
  cases isEnd with
  | lineFeed => exact ⟨front, '\n', rfl, rfl, by simp [Splits]⟩
  | both => exact ⟨front ++ ['\r'], '\n', by simp, rfl, by simp [Splits]⟩
  | carriageReturn alone => exact ⟨front, '\r', rfl, rfl, fun splits => alone splits.2⟩
  | lineSeparator => exact ⟨front, '\u2028', rfl, rfl, by simp [Splits]⟩
  | paragraphSeparator => exact ⟨front, '\u2029', rfl, rfl, by simp [Splits]⟩

/-- The lines of a text begin behind its line ends, and nowhere else. -/
theorem mem_lineStarts_iff
    {text : List Char}
    {start : Nat} :
    start ∈ lineStarts text ↔ BeginsLine text start := by
  constructor
  · intro present
    obtain ⟨place, begins, rfl⟩ := exists_beginsLine present
    rwa [Nat.zero_add]
  · rintro ⟨front, ending, back, rfl, isEnd, rfl⟩
    obtain ⟨before, c, equal, terminates, whole⟩ := isEnd.exists_concat front
    rw [← List.append_assoc, lineStarts, lineStartsFrom_append whole, equal]
    have last := @byteLength_mem_lineStartsFrom 0 before c terminates
    rw [Nat.zero_add] at last
    exact List.mem_append_left _ last

/-- Each line begins behind the one before it. -/
theorem ascending_lineStartsFrom
    (offset : Nat)
    (text : List Char) :
    (lineStartsFrom offset text).Pairwise (· < ·) := by
  have behind {offset start : Nat} {rest : List Char} (later : start ∈ lineStartsFrom offset rest) :
      offset < start := by
    obtain ⟨front, back, _, nonempty, rfl⟩ := exists_split_of_mem_lineStartsFrom later
    have size : byteLength front ≠ 0 := fun none => nonempty (eq_nil_of_byteLength_eq_zero none)
    omega
  fun_induction lineStartsFrom offset text with
  | case1 => exact List.Pairwise.nil
  | case2 offset rest inductionHypothesis =>
      exact List.pairwise_cons.mpr ⟨fun _ => behind, inductionHypothesis⟩
  | case3 offset c rest _ _ inductionHypothesis =>
      exact List.pairwise_cons.mpr ⟨fun _ => behind, inductionHypothesis⟩
  | case4 _ _ _ _ _ inductionHypothesis => exact inductionHypothesis

/-- A line begins between two characters. -/
theorem BeginsLine.isBoundary
    {text : List Char}
    {start : Nat}
    (begins : BeginsLine text start) :
    IsBoundary text start := by
  obtain ⟨front, ending, back, rfl, _, rfl⟩ := begins
  exact ⟨front ++ ending, back, by simp, rfl⟩

/-! ### Pieces -/

/-- The number of line ends that pieces of a text cut in two. -/
def cutLineEnds : (pieces : List (List Char)) → Nat
  | [] => 0
  | piece :: rest => (if Splits piece rest.flatten then 1 else 0) + cutLineEnds rest

/-- No piece cuts a line end in two exactly if none of them ends with a carriage return in front of
one that begins with a line feed, where empty pieces do not count. -/
theorem cutLineEnds_eq_zero_iff
    {pieces : List (List Char)} :
    cutLineEnds pieces = 0 ↔
      ∀ front piece back, pieces = front ++ piece :: back → ¬ Splits piece back.flatten := by
  induction pieces with
  | nil => simp [cutLineEnds]
  | cons piece rest inductionHypothesis =>
      rw [cutLineEnds, Nat.add_eq_zero_iff, inductionHypothesis]
      constructor
      · rintro ⟨first, others⟩ front other back split
        cases front with
        | nil =>
            cases split
            simpa using first
        | cons _ front =>
            cases split
            exact others front other back rfl
      · intro all
        refine ⟨by simpa using all [] piece rest rfl, fun front other back split => ?_⟩
        exact all (piece :: front) other back (by rw [split]; rfl)

namespace Position

variable {place : Position} {front back : List Char}

/-- A line end that is cut in two counts twice. -/
theorem walk_of_splits
    (splits : Splits front back) :
    walk (walk place front []) back [] = (walk place (front ++ back) []).down 1 := by
  obtain ⟨before, rfl⟩ := List.getLast?_eq_some_iff.mp splits.1
  obtain ⟨more, rfl⟩ := List.head?_eq_some_iff.mp splits.2
  have same : walk place before ['\r'] = walk place before ('\r' :: '\n' :: more) :=
    walk_congr rfl
  simp only [List.append_assoc, List.singleton_append, walk_append, List.append_nil, same]
  generalize walk place before ('\r' :: '\n' :: more) = reached
  exact walk_down 1 ⟨reached.line + 1, 0⟩

/-- Pieces that are put one behind the other end where their text does, but for a line for each line
end that they cut in two. -/
theorem foldl_advance
    (pieces : List (List Char)) :
    pieces.foldl advance place = (walk place pieces.flatten []).down (cutLineEnds pieces) := by
  induction pieces generalizing place with
  | nil => rfl
  | cons piece rest inductionHypothesis =>
      rw [List.foldl_cons, inductionHypothesis, advance_eq_walk, List.flatten_cons, cutLineEnds]
      by_cases splits : Splits piece rest.flatten
      · rw [walk_of_splits splits, if_pos splits, down, down, down, Nat.add_assoc]
      · rw [if_neg splits, Nat.zero_add, walk_append, List.append_nil, walk_of_not_splits splits]

/-- The end of a text is where counting its characters leads. -/
theorem ofOffset_byteLength
    (text : List Char) :
    ofOffset text (byteLength text) = walk .start text [] := by
  have counted := @ofOffset_eq_between text [] (by simp [Splits])
  rwa [List.append_nil] at counted

end Position

end Text

open Text (Position byteLength lineStarts IsBoundary Splits BeginsLine cutLineEnds)

namespace Printing

theorem foldl_push
    (printing : Printing)
    (pieces : List (List Char)) :
    pieces.foldl push printing =
      { printing with
        text := printing.text ++ pieces.flatten
        place := pieces.foldl Position.advance printing.place } := by
  induction pieces generalizing printing with
  | nil => simp
  | cons piece rest inductionHypothesis =>
      rw [List.foldl_cons, inductionHypothesis, push]
      simp

/-- The end of a text that is printed piece by piece, as it is tracked and as it is found in the
whole text. -/
structure Tracks (pieces : List (List Char)) : Prop where
  /-- The pieces are printed. -/
  text : (pieces.foldl push start).text = pieces.flatten
  /-- The column is that of the end. -/
  column : (pieces.foldl push start).place.column =
    (Position.ofOffset pieces.flatten (byteLength pieces.flatten)).column
  /-- The line is that of the end, and one more for every line end that is cut in two. -/
  line : (pieces.foldl push start).place.line =
    (Position.ofOffset pieces.flatten (byteLength pieces.flatten)).line + cutLineEnds pieces
  /-- So the end is tracked exactly if no piece ends with a carriage return in front of a line
  feed. -/
  place : (pieces.foldl push start).place =
      Position.ofOffset pieces.flatten (byteLength pieces.flatten) ↔
    ∀ front piece back, pieces = front ++ piece :: back → ¬ Splits piece back.flatten

/-- The end of a printed text is tracked but for the line ends that its pieces cut in two. -/
theorem tracks
    (pieces : List (List Char)) :
    Tracks pieces := by
  have tracked : (pieces.foldl push start).place =
      (Position.ofOffset pieces.flatten (byteLength pieces.flatten)).down (cutLineEnds pieces) := by
    rw [foldl_push, Position.ofOffset_byteLength]
    exact Position.foldl_advance pieces
  refine ⟨by rw [foldl_push]; rfl, by rw [tracked]; rfl, by rw [tracked]; rfl, ?_⟩
  rw [tracked, ← Text.cutLineEnds_eq_zero_iff]
  generalize Position.ofOffset pieces.flatten (byteLength pieces.flatten) = reached
  obtain ⟨line, column⟩ := reached
  simp [Position.down]

/--
The end of a text that is printed in pieces is tracked exactly unless the pieces cut a line end in
two, and the lines of a text begin, one behind the other and between its characters, behind its line
ends and nowhere else.
-/
theorem tracks_and_beginsLine :
    (∀ pieces, Tracks pieces) ∧
    ∀ text, (lineStarts text).Pairwise (· < ·) ∧ (∀ start ∈ lineStarts text, IsBoundary text start) ∧
      ∀ start, start ∈ lineStarts text ↔ BeginsLine text start :=
  ⟨tracks, fun text => ⟨Text.ascending_lineStartsFrom 0 text,
    fun _ present => (Text.mem_lineStarts_iff.mp present).isBoundary,
    fun _ => Text.mem_lineStarts_iff⟩⟩

/-- An empty piece hides that a line end is cut in two: neither of the pieces next to it is in front
of the other, but the end is not tracked. -/
theorem not_tracked_behind_empty_piece :
    let pieces : List (List Char) := [['\r'], [], ['\n']]
    pieces.IsChain (fun piece next => ¬ Splits piece next) ∧
      (pieces.foldl push start).place = ⟨2, 0⟩ ∧
      Position.ofOffset pieces.flatten (byteLength pieces.flatten) = ⟨1, 0⟩ := by
  decide

end Printing
end MessageExpansion
