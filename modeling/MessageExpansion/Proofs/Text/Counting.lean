import MessageExpansion.Proofs.Text.Boundary
import MessageExpansion.Text.Lines

/-!
# Places, character by character

The place that a part of a text ends at can be counted character by character, looking one character
ahead for the two halves of a line end.  This is what a place means.  Places are computed in two
other ways, from the offsets of the lines of a whole text and from the lines of a piece that is put
behind another one; both ways are proved to count the same.
-/

namespace MessageExpansion
namespace Text

/-! ### The order of places -/

namespace Position

/-- The place some lines further down. -/
def down (offset : Nat) (place : Position) : Position := ⟨place.line + offset, place.column⟩

/-- The first place comes before the second. -/
def Before (first second : Position) : Prop :=
  first.line < second.line ∨ first.line = second.line ∧ first.column < second.column

variable {first second third : Position}

theorem isUpTo_iff :
    first.isUpTo second = true ↔
      first.line < second.line ∨ first.line = second.line ∧ first.column ≤ second.column := by
  simp [isUpTo]

@[simp] theorem isUpTo_refl
    (place : Position) :
    place.isUpTo place = true := by
  simp [isUpTo]

theorem isUpTo_trans
    (start : first.isUpTo second = true)
    (finish : second.isUpTo third = true) :
    first.isUpTo third = true := by
  rw [isUpTo_iff] at *
  omega

namespace Before

theorem isUpTo
    (before : first.Before second) :
    first.isUpTo second = true := by
  rw [isUpTo_iff]
  unfold Before at before
  omega

theorem isUpTo_eq_false
    (before : first.Before second) :
    second.isUpTo first = false := by
  rw [Bool.eq_false_iff, ne_eq, isUpTo_iff]
  unfold Before at before
  omega

theorem trans
    (start : first.Before second)
    (finish : second.Before third) :
    first.Before third := by
  unfold Before at *
  omega

theorem trans_isUpTo
    (before : first.Before second)
    (reached : second.isUpTo third = true) :
    first.Before third := by
  rw [isUpTo_iff] at reached
  unfold Before at *
  omega

end Before

end Position

/-- A character takes at least one unit. -/
theorem charUnits_pos
    (c : Char) :
    0 < charUnits c := by
  unfold charUnits
  split <;> decide

/-! ### Counting -/

/-- A character ends its line; a carriage return does not if a line feed follows it. -/
def endsLineBefore (c : Char) (next : Option Char) : Bool :=
  isLineTerminator c && !(c == '\r' && next == some '\n')

/-- A text is cut between a carriage return and a line feed. -/
def Splits (front back : List Char) : Prop :=
  front.getLast? = some '\r' ∧ back.head? = some '\n'

instance (front back : List Char) : Decidable (Splits front back) :=
  inferInstanceAs (Decidable (_ ∧ _))

namespace Position

/-- The place behind one more character, of which the next one is known. -/
def step (place : Position) (c : Char) (next : Option Char) : Position :=
  if endsLineBefore c next then ⟨place.line + 1, 0⟩
  else ⟨place.line, place.column + charUnits c⟩

/-- The place behind a piece of text that begins at a place and that `back` follows. -/
def walk (place : Position) : (front back : List Char) → Position
  | [], _ => place
  | c :: rest, back => walk (place.step c (rest ++ back).head?) rest back

/-- The place between the two parts of a text. -/
def between (front back : List Char) : Position := walk .start front back

variable {place : Position} {front middle back : List Char}

@[simp] theorem walk_nil : walk place [] back = place := rfl

theorem walk_append :
    walk place (front ++ middle) back = walk (walk place front (middle ++ back)) middle back := by
  induction front generalizing place with
  | nil => rfl
  | cons c rest inductionHypothesis =>
      simp only [List.cons_append, walk, inductionHypothesis, List.append_assoc]

theorem step_down
    (offset : Nat)
    (place : Position)
    (c : Char)
    (next : Option Char) :
    (place.down offset).step c next = (place.step c next).down offset := by
  unfold step down
  split
  · simp [Nat.add_right_comm]
  · rfl

/-- Counting on a line further down counts the same. -/
theorem walk_down
    (offset : Nat)
    (place : Position) :
    (place.down offset).walk front back = (place.walk front back).down offset := by
  induction front generalizing place with
  | nil => rfl
  | cons c rest inductionHypothesis => rw [walk, walk, step_down, inductionHypothesis]

/-- Every character moves the place on. -/
theorem before_step
    (place : Position)
    (c : Char)
    (next : Option Char) :
    place.Before (place.step c next) := by
  have positive := charUnits_pos c
  unfold step Before
  split
  · exact Or.inl (Nat.lt_succ_self _)
  · exact Or.inr ⟨rfl, Nat.lt_add_of_pos_right positive⟩

/-- So does every text. -/
theorem before_walk
    (nonempty : front ≠ []) :
    place.Before (walk place front back) := by
  induction front generalizing place with
  | nil => exact absurd rfl nonempty
  | cons c rest inductionHypothesis =>
      have first := before_step place c (rest ++ back).head?
      by_cases last : rest = []
      · subst last
        exact first
      · exact first.trans (inductionHypothesis last)

/-- No text leads back. -/
theorem isUpTo_walk : place.isUpTo (walk place front back) = true := by
  by_cases empty : front = []
  · subst empty
    exact isUpTo_refl place
  · exact (before_walk empty).isUpTo

/-- Of what follows a text only its first character matters. -/
theorem walk_congr
    {other : List Char}
    (same : back.head? = other.head?) :
    walk place front back = walk place front other := by
  induction front generalizing place with
  | nil => rfl
  | cons c rest inductionHypothesis =>
      have heads : (rest ++ back).head? = (rest ++ other).head? := by
        cases rest with
        | nil => exact same
        | cons next rest => rfl
      rw [walk, walk, heads, inductionHypothesis]

/-- What follows a text does not matter unless a line end is cut in two. -/
theorem walk_of_not_splits
    (whole : ¬ Splits front back) :
    walk place front back = walk place front [] := by
  induction front generalizing place with
  | nil => rfl
  | cons c rest inductionHypothesis =>
      cases rest with
      | nil =>
          have same : endsLineBefore c back.head? = endsLineBefore c none := by
            by_cases carriage : c = '\r'
            · subst carriage
              have notFeed : back.head? ≠ some '\n' := fun feed => whole ⟨rfl, feed⟩
              simp [endsLineBefore, notFeed]
            · simp [endsLineBefore, carriage]
          have moved : place.step c back.head? = place.step c none := by rw [step, step, same]
          exact moved
      | cons next rest =>
          have wholeRest : ¬ Splits (next :: rest) back := fun splits =>
            whole ⟨by rw [List.getLast?_cons_cons]; exact splits.1, splits.2⟩
          rw [walk, inductionHypothesis wholeRest]
          rfl

end Position

/-- A piece of text followed by another one stands on the line that it begins on. -/
def StaysInLine (front back : List Char) : Prop :=
  ∀ place : Position, place.walk front back = ⟨place.line, place.column + units front⟩

theorem staysInLine_nil
    (back : List Char) :
    StaysInLine [] back :=
  fun _ => rfl

/-- A character that ends no line can be put in front. -/
theorem StaysInLine.cons
    {c : Char}
    {front back : List Char}
    (stays : StaysInLine front back)
    (plain : endsLineBefore c (front ++ back).head? = false) :
    StaysInLine (c :: front) back := by
  intro place
  rw [Position.walk, stays, Position.step, plain]
  simp [Nat.add_assoc]

theorem StaysInLine.congr
    {front back other : List Char}
    (stays : StaysInLine front back)
    (same : back.head? = other.head?) :
    StaysInLine front other :=
  fun place => (Position.walk_congr same).symm.trans (stays place)

/-! ### The lines of a text -/

/-- The lines of a text do not depend on where it stands. -/
theorem lineStartsFrom_eq_map
    (offset : Nat)
    (text : List Char) :
    lineStartsFrom offset text = (lineStarts text).map (offset + ·) := by
  have shifted : ∀ base, lineStartsFrom (offset + base) text =
      (lineStartsFrom base text).map (offset + ·) := by
    intro base
    fun_induction lineStartsFrom base text with
    | case1 base => rfl
    | case2 base rest inductionHypothesis =>
        rw [lineStartsFrom, Nat.add_assoc, inductionHypothesis, List.map_cons]
    | case3 base c rest notBoth terminator inductionHypothesis =>
        rw [lineStartsFrom, if_pos terminator, Nat.add_assoc, inductionHypothesis, List.map_cons]
        exact notBoth
    | case4 base c rest notBoth plain inductionHypothesis =>
        rw [lineStartsFrom, if_neg plain, Nat.add_assoc, inductionHypothesis]
        exact notBoth
  exact shifted 0

example : lineStartsFrom 5 ['a', '\r', '\n', 'b', '\r', 'c'] = [3, 5].map (5 + ·) := by cbv

/-- A part that a text has in front stays in front when another one is put before the text. -/
private theorem exists_split_cons
    {offset start : Nat}
    {rest : List Char}
    (head : List Char)
    (nonempty : head ≠ [])
    (later : ∃ front back, rest = front ++ back ∧ front ≠ [] ∧
      start = offset + byteLength head + byteLength front) :
    ∃ front back, head ++ rest = front ++ back ∧ front ≠ [] ∧
      start = offset + byteLength front := by
  obtain ⟨front, back, rfl, _, rfl⟩ := later
  refine ⟨head ++ front, back, by simp, by simp [nonempty], ?_⟩
  rw [byteLength_append, Nat.add_assoc]

/-- A line begins behind a nonempty part of the text. -/
theorem exists_split_of_mem_lineStartsFrom
    {offset start : Nat}
    {text : List Char}
    (present : start ∈ lineStartsFrom offset text) :
    ∃ front back, text = front ++ back ∧ front ≠ [] ∧ start = offset + byteLength front := by
  fun_induction lineStartsFrom offset text with
  | case1 offset => cases present
  | case2 offset rest inductionHypothesis =>
      have size : byteLength ['\r', '\n'] = 2 := rfl
      rcases List.mem_cons.mp present with rfl | later
      · exact ⟨['\r', '\n'], rest, rfl, by simp, by rw [size]⟩
      · exact exists_split_cons ['\r', '\n'] (by simp) (inductionHypothesis later)
  | case3 offset c rest _ _ inductionHypothesis =>
      rcases List.mem_cons.mp present with rfl | later
      · exact ⟨[c], rest, rfl, by simp, by simp⟩
      · exact exists_split_cons [c] (by simp) (by simpa using inductionHypothesis later)
  | case4 offset c rest _ _ inductionHypothesis =>
      exact exists_split_cons [c] (by simp) (by simpa using inductionHypothesis present)

/-- The lines of a text are those of its parts, unless a line end is cut in two. -/
theorem lineStartsFrom_append
    {offset : Nat}
    {front back : List Char}
    (whole : ¬ Splits front back) :
    lineStartsFrom offset (front ++ back) =
      lineStartsFrom offset front ++ lineStartsFrom (offset + byteLength front) back := by
  -- What is left of the front part splits no line end either.
  have onward (head : List Char) {rest : List Char} (whole : ¬ Splits (head ++ rest) back) :
      ¬ Splits rest back := by
    intro splits
    apply whole
    refine ⟨?_, splits.2⟩
    rw [List.getLast?_append, splits.1]
    rfl
  fun_induction lineStartsFrom offset front with
  | case1 offset => rfl
  | case2 offset rest inductionHypothesis =>
      have size : byteLength ('\r' :: '\n' :: rest) = 2 + byteLength rest := by
        simp only [byteLength_cons]
        rw [← Nat.add_assoc]
        rfl
      have later := inductionHypothesis (onward ['\r', '\n'] whole)
      rw [size, ← Nat.add_assoc]
      simp only [List.cons_append, lineStartsFrom, later]
  | case3 offset c rest notBoth terminator inductionHypothesis =>
      have later := inductionHypothesis (onward [c] whole)
      rw [List.cons_append, lineStartsFrom, if_pos terminator, later, byteLength_cons,
        Nat.add_assoc, List.cons_append]
      intro more carriage feed
      cases rest with
      | nil => exact whole ⟨by rw [carriage]; rfl, by rw [show back = '\n' :: more from feed]; rfl⟩
      | cons next rest =>
          cases feed
          exact notBoth rest carriage rfl
  | case4 offset c rest notBoth plain inductionHypothesis =>
      have later := inductionHypothesis (onward [c] whole)
      rw [List.cons_append, lineStartsFrom, if_neg plain, later, byteLength_cons, Nat.add_assoc]
      intro more carriage _
      subst carriage
      exact plain rfl

/-- In a text of one line every part stays in the line. -/
theorem staysInLine_of_lineStartsFrom_eq_nil
    {offset : Nat}
    {front back : List Char}
    {c : Char}
    (oneLine : lineStartsFrom offset (front ++ c :: back) = []) :
    StaysInLine front (c :: back) := by
  induction front generalizing offset with
  | nil => exact staysInLine_nil _
  | cons first rest inductionHypothesis =>
      rw [List.cons_append, lineStartsFrom.eq_def] at oneLine
      split at oneLine
      · next none => cases none
      · cases oneLine
      · next equal =>
          cases equal
          split at oneLine
          · cases oneLine
          · next plain =>
              exact (inductionHypothesis oneLine).cons (by simp [endsLineBefore, plain])

/-- A piece of text is a line: its end is not cut in two, and no line ends inside it. -/
structure IsLine (line tail : List Char) : Prop where
  nonempty : line ≠ []
  whole : ¬ Splits line tail
  stays : ∀ front c back, line = front ++ c :: back → StaysInLine front (c :: back)

/-- A text of several lines begins with a line, and the others follow. -/
theorem exists_line_of_lineStartsFrom_eq_cons
    {offset next : Nat}
    {text : List Char}
    {more : List Nat}
    (lines : lineStartsFrom offset text = next :: more) :
    ∃ line tail, text = line ++ tail ∧ next = offset + byteLength line ∧
      more = lineStartsFrom next tail ∧ IsLine line tail := by
  fun_induction lineStartsFrom offset text with
  | case1 offset => cases lines
  | case2 offset rest _ =>
      cases lines
      refine ⟨['\r', '\n'], rest, rfl, rfl, rfl, by simp, ?_, ?_⟩
      · rintro ⟨carriage, _⟩
        cases carriage
      · intro front c back split
        match front, split with
        | [], _ => exact staysInLine_nil _
        | ['\r'], split =>
            cases split
            exact (staysInLine_nil _).cons rfl
        | first :: second :: rest, split =>
            simp at split
  | case3 offset c rest notBoth _ _ =>
      cases lines
      refine ⟨[c], rest, rfl, by simp, by simp, by simp, ?_, ?_⟩
      · rintro ⟨carriage, feed⟩
        obtain ⟨tail, equal⟩ := List.head?_eq_some_iff.mp feed
        exact notBoth tail (by simpa using carriage) equal
      · intro front d back split
        cases front with
        | nil => exact staysInLine_nil _
        | cons first rest => simp at split
  | case4 offset c rest notBoth plain inductionHypothesis =>
      obtain ⟨line, tail, rfl, nextEqual, moreEqual, nonempty, whole, stays⟩ :=
        inductionHypothesis lines
      refine ⟨c :: line, tail, rfl, ?_, moreEqual, by simp, ?_, ?_⟩
      · rw [nextEqual, byteLength_cons, Nat.add_assoc]
      · rintro ⟨carriage, feed⟩
        refine whole ⟨?_, feed⟩
        obtain ⟨first, rest, rfl⟩ := List.exists_cons_of_ne_nil nonempty
        rw [List.getLast?_cons_cons] at carriage
        exact carriage
      · intro front d back split
        cases front with
        | nil => exact staysInLine_nil _
        | cons first front =>
            rw [List.cons_append, List.cons.injEq] at split
            obtain ⟨rfl, rest⟩ := split
            exact (stays front d back rest).cons (by simp [endsLineBefore, plain])

/-! ### The ways in which places are computed -/

theorem dropBytes_byteLength_add
    (front back : List Char)
    (count : Nat) :
    dropBytes (byteLength front + count) (front ++ back) = dropBytes count back := by
  induction front with
  | nil => simp
  | cons c rest inductionHypothesis =>
      have positive : 0 < c.utf8Size := c.utf8Size_pos
      have nonzero : ¬ (c.utf8Size + byteLength rest + count = 0) := by omega
      rw [byteLength_cons, List.cons_append, dropBytes, if_neg nonzero, Nat.add_assoc,
        Nat.add_sub_cancel_left, inductionHypothesis]

namespace Position

variable {place : Position} {front back : List Char}

/-- A piece that begins with a whole line goes on from the next line. -/
theorem advance_line
    (place : Position)
    {line tail : List Char}
    (lines : lineStarts (line ++ tail) = byteLength line :: lineStartsFrom (byteLength line) tail) :
    place.advance (line ++ tail) = advance ⟨place.line + 1, 0⟩ tail := by
  unfold advance
  simp only [lines, lineStartsFrom_eq_map (byteLength line) tail]
  cases last : (lineStarts tail).getLast? with
  | none =>
      have none : lineStarts tail = [] := List.getLast?_eq_none_iff.mp last
      simp [none, dropBytes_append]
  | some start =>
      have nonempty : (lineStarts tail).map (byteLength line + ·) ≠ [] := by
        intro empty
        rw [List.map_eq_nil_iff] at empty
        rw [empty] at last
        cases last
      obtain ⟨first, rest, equal⟩ := List.exists_cons_of_ne_nil nonempty
      rw [equal, List.getLast?_cons_cons, ← equal, List.getLast?_map, last]
      simp only [Option.map_some, List.length_cons, List.length_map, dropBytes_byteLength_add,
        mk.injEq, and_true]
      omega

/-- A piece that begins with a character that ends no line goes on behind that character. -/
theorem advance_plain
    {c : Char}
    {rest : List Char}
    (lines : lineStarts (c :: rest) = lineStartsFrom c.utf8Size rest) :
    place.advance (c :: rest) = advance ⟨place.line, place.column + charUnits c⟩ rest := by
  unfold advance
  simp only [lines, lineStartsFrom_eq_map c.utf8Size rest, List.getLast?_map]
  cases last : (lineStarts rest).getLast? with
  | none => simp [Nat.add_assoc]
  | some start =>
      have dropped := dropBytes_byteLength_add [c] rest start
      simp only [byteLength_cons, byteLength_nil, Nat.add_zero, List.singleton_append] at dropped
      simp [dropped]

/-- Putting a piece of text behind another one counts its characters. -/
theorem advance_eq_walk
    (place : Position)
    (piece : List Char) :
    place.advance piece = place.walk piece [] := by
  have general : ∀ offset : Nat, place.advance piece = place.walk piece [] := by
    intro offset
    fun_induction lineStartsFrom offset piece generalizing place with
    | case1 offset => rfl
    | case2 offset rest inductionHypothesis =>
        have lines : lineStarts (['\r', '\n'] ++ rest) =
            byteLength ['\r', '\n'] :: lineStartsFrom (byteLength ['\r', '\n']) rest := rfl
        have moved := advance_line place lines
        rw [List.cons_append, List.singleton_append] at moved
        rw [moved, inductionHypothesis]
        rfl
    | case3 offset c rest notBoth terminator inductionHypothesis =>
        have lines : lineStarts ([c] ++ rest) =
            byteLength [c] :: lineStartsFrom (byteLength [c]) rest := by
          rw [lineStarts, List.singleton_append, lineStartsFrom, if_pos terminator]
          · simp
          · exact notBoth
        have ends : endsLineBefore c (rest ++ []).head? = true := by
          cases rest with
          | nil => simp [endsLineBefore, terminator]
          | cons next rest =>
              have notFeed (carriage : c = '\r') : next ≠ '\n' := fun feed =>
                notBoth rest carriage (by rw [feed])
              by_cases carriage : c = '\r'
              · subst carriage
                simp [endsLineBefore, terminator, notFeed rfl]
              · simp [endsLineBefore, terminator, carriage]
        have moved := advance_line place lines
        rw [List.singleton_append] at moved
        rw [moved, inductionHypothesis, walk, step, ends]
        rfl
    | case4 offset c rest notBoth plain inductionHypothesis =>
        have lines : lineStarts (c :: rest) = lineStartsFrom c.utf8Size rest := by
          rw [lineStarts, lineStartsFrom, if_neg plain, Nat.zero_add]
          exact notBoth
        rw [advance_plain lines, inductionHypothesis, walk, step]
        simp [endsLineBefore, plain]
  exact general 0

/-- The lines of a text up to an offset are those of the part before it. -/
theorem takeWhile_lineStarts
    (whole : ¬ Splits front back) :
    (lineStarts (front ++ back)).takeWhile (· ≤ byteLength front) = lineStarts front := by
  have earlier : ∀ start ∈ lineStarts front, decide (start ≤ byteLength front) = true := by
    intro start present
    obtain ⟨before, after, rfl, _, rfl⟩ := exists_split_of_mem_lineStartsFrom present
    simp
  have later : (lineStartsFrom (byteLength front) back).takeWhile (· ≤ byteLength front) = [] := by
    cases lines : lineStartsFrom (byteLength front) back with
    | nil => rfl
    | cons start rest =>
        obtain ⟨before, after, _, nonempty, equal⟩ :=
          exists_split_of_mem_lineStartsFrom (lines ▸ List.mem_cons_self)
        have size : byteLength before ≠ 0 := fun zero =>
          nonempty (eq_nil_of_byteLength_eq_zero zero)
        have beyond : ¬ start ≤ byteLength front := by omega
        simp [beyond]
  have parts : lineStarts (front ++ back) =
      lineStarts front ++ lineStartsFrom (byteLength front) back := by
    rw [lineStarts, lineStartsFrom_append whole, Nat.zero_add]
    rfl
  rw [parts, List.takeWhile_append_of_pos earlier, later, List.append_nil]

/-- The place at an offset is the place between the parts of the text before and behind it. -/
theorem ofOffset_eq_between
    (whole : ¬ Splits front back) :
    ofOffset (front ++ back) (byteLength front) = between front back := by
  have counted : between front back = advance .start front := by
    rw [advance_eq_walk, between, walk_of_not_splits whole]
  rw [counted]
  unfold ofOffset advance
  simp only [takeWhile_lineStarts whole]
  cases last : (lineStarts front).getLast? with
  | none =>
      have none : lineStarts front = [] := List.getLast?_eq_none_iff.mp last
      have piece := slice_append [] front back
      simp only [byteLength_nil, Nat.zero_add, List.nil_append] at piece
      simp [none, piece, start]
  | some lineStart =>
      obtain ⟨before, after, rfl, _, equal⟩ :=
        exists_split_of_mem_lineStartsFrom (List.mem_of_getLast? last)
      have piece := slice_append before after back
      rw [Nat.zero_add] at equal
      rw [equal, Option.getD_some, byteLength_append, List.append_assoc, piece]
      simp [start, dropBytes_append]

end Position
end Text
end MessageExpansion
