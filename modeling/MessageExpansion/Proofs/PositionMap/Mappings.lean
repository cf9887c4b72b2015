import Mathlib.Algebra.Group.Int.Defs
import Mathlib.Algebra.Group.Nat.Defs
import MessageExpansion.Proofs.PositionMap.Numbers
import MessageExpansion.Proofs.PositionMap.Traces

/-!
# Reading mappings that were written

Writing turns the fields of mappings into differences, and reading sums them up again.  After every
mapping the fields that the writer takes differences from are the sums of the reader, as long as all
fields are 32-bit numbers.  So mappings in order are read as they were written.
-/

namespace MessageExpansion

/-- All fields of the mapping are 32-bit numbers. -/
def Mapping.Fits (mapping : Mapping) : Prop := ∀ field ∈ mapping.fields, field < UInt32.size

namespace PositionMap

open Text (Position Base64.digit_mem)

/-! ### Separators -/

/-- The text has neither a line separator nor a segment separator. -/
def Unseparated (text : List Char) : Prop := ∀ c ∈ text, c ≠ ';' ∧ c ≠ ','

theorem Unseparated.append
    {front back : List Char}
    (first : Unseparated front)
    (second : Unseparated back) :
    Unseparated (front ++ back) :=
  List.forall_mem_append.mpr ⟨first, second⟩

theorem mem_digits_of_mem_encodeDigits
    (value : Nat) :
    ∀ c ∈ encodeDigits value, c ∈ Text.Base64.digits := by
  fun_induction encodeDigits value with
  | case1 => simp [Base64.digit_mem]
  | case2 _ _ inductionHypothesis =>
      exact List.forall_mem_cons.mpr ⟨Base64.digit_mem _, inductionHypothesis⟩

theorem unseparated_encodeNumber
    (number : Int) :
    Unseparated (encodeNumber number) := by
  have plain : (Text.Base64.digits.all fun c => c ≠ ';' ∧ c ≠ ',') = true := by decide +kernel
  intro c present
  exact of_decide_eq_true (List.all_eq_true.mp plain c (mem_digits_of_mem_encodeDigits _ c present))

theorem encodeNumber_ne_nil
    (number : Int) :
    encodeNumber number ≠ [] := by
  rw [encodeNumber, encodeDigits]
  split <;> simp

theorem unseparated_encodeSegment
    (previous : Previous)
    (mapping : Mapping) :
    Unseparated (encodeSegment previous mapping) :=
  (((unseparated_encodeNumber _).append (unseparated_encodeNumber _)).append
    (unseparated_encodeNumber _)).append (unseparated_encodeNumber _)

theorem encodeSegment_ne_nil
    (previous : Previous)
    (mapping : Mapping) :
    encodeSegment previous mapping ≠ [] := by
  simp [encodeSegment, encodeNumber_ne_nil]

/-- A text has at least one part. -/
theorem exists_splitAt
    (separator : Char)
    (text : List Char) :
    ∃ first others, splitAt separator text = first :: others := by
  cases text with
  | nil => exact ⟨[], [], rfl⟩
  | cons c rest =>
      rw [splitAt]
      split
      · exact ⟨_, _, rfl⟩
      · split <;> exact ⟨_, _, rfl⟩

/-- A text without separators belongs to the first part of what follows it. -/
theorem splitAt_append
    {separator : Char}
    {front back first : List Char}
    {others : List (List Char)}
    (plain : ∀ c ∈ front, c ≠ separator)
    (parts : splitAt separator back = first :: others) :
    splitAt separator (front ++ back) = (front ++ first) :: others := by
  induction front with
  | nil => exact parts
  | cons c rest inductionHypothesis =>
      rw [List.forall_mem_cons] at plain
      rw [List.cons_append, splitAt, if_neg plain.1, inductionHypothesis plain.2]
      rfl

/-- Separators in a row have empty parts before them. -/
theorem splitAt_replicate
    (separator : Char)
    (count : Nat)
    (text : List Char) :
    splitAt separator (List.replicate count separator ++ text) =
      List.replicate count [] ++ splitAt separator text := by
  induction count with
  | zero => rfl
  | succ count inductionHypothesis =>
      rw [List.replicate_succ, List.cons_append, splitAt, if_pos rfl, inductionHypothesis]
      rfl

/-- The segments of a line. -/
def segments (line : List Char) : List (List Char) :=
  (splitAt ',' line).filter fun segment => !segment.isEmpty

@[simp] theorem segments_nil : segments [] = [] := rfl

theorem segments_comma
    (line : List Char) :
    segments (',' :: line) = segments line := by
  simp [segments, splitAt]

/-- A segment ends at the end of the line or before a comma. -/
theorem segments_append
    {segment line : List Char}
    (nonempty : segment ≠ [])
    (plain : Unseparated segment)
    (ends : line = [] ∨ line.head? = some ',') :
    segments (segment ++ line) = segment :: segments line := by
  have noComma : ∀ c ∈ segment, c ≠ ',' := fun c present => (plain c present).2
  rcases ends with rfl | comma
  · rw [segments, splitAt_append noComma rfl]
    simp [nonempty]
  · obtain ⟨rest, rfl⟩ := List.head?_eq_some_iff.mp comma
    have parts : splitAt ',' (',' :: rest) = [] :: splitAt ',' rest := by simp [splitAt]
    rw [segments_comma, segments, splitAt_append noComma parts]
    simp [nonempty, segments]

/-! ### Mappings -/

/-- The sums of the reader where the writer takes differences from these fields. -/
def Previous.sums (previous : Previous) : Sums :=
  ⟨previous.source, previous.origin.line, previous.origin.column⟩

/-- All fields that differences are taken from are 32-bit numbers. -/
structure Previous.Fits (previous : Previous) : Prop where
  column : previous.column < UInt32.size
  source : previous.source < UInt32.size
  originLine : previous.origin.line < UInt32.size
  originColumn : previous.origin.column < UInt32.size

/-- The fields after a mapping was written. -/
def Previous.after (mapping : Mapping) : Previous :=
  ⟨mapping.generated.line, mapping.generated.column, mapping.source, mapping.origin, false⟩

theorem Previous.fits_after
    {mapping : Mapping}
    (fits : mapping.Fits) :
    (Previous.after mapping).Fits :=
  ⟨fits _ (by simp [Mapping.fields, after]), fits _ (by simp [Mapping.fields, after]),
    fits _ (by simp [Mapping.fields, after]), fits _ (by simp [Mapping.fields, after])⟩

theorem Previous.fits_toLine
    {previous : Previous}
    (fits : previous.Fits)
    (line : Nat) :
    (previous.toLine line).Fits := by
  unfold toLine
  split
  · exact ⟨Nat.zero_lt_succ _, fits.source, fits.originLine, fits.originColumn⟩
  · exact fits

variable {previous : Previous} {mapping : Mapping} {mappings rest : List Mapping}

/-- The differences between the fields of a mapping and those before it. -/
def differences (previous : Previous) (mapping : Mapping) : List Int :=
  [mapping.generated.column - previous.column, mapping.source - previous.source,
    mapping.origin.line - previous.origin.line, mapping.origin.column - previous.origin.column]

/-- A segment is read as the differences that were written. -/
theorem decodeNumbers_encodeSegment
    (before : previous.Fits)
    (fits : mapping.Fits) :
    decodeNumbers 0 0 (encodeSegment previous mapping) =
      .ok (differences previous mapping) := by
  obtain ⟨column, source, originLine, originColumn⟩ := before
  obtain ⟨newColumn, newSource, newLine, newOriginColumn⟩ := Previous.fits_after fits
  simp only [UInt32.size, Previous.after] at *
  have row : encodeSegment previous mapping = (differences previous mapping).flatMap encodeNumber := by
    simp [encodeSegment, differences]
  rw [row]
  refine (spellsNumbers_flatMap fun number present => ?_).decodeNumbers_eq
  refine Nat.le_trans (length_encodeNumber_le ?_ ?_) (by decide : 8 ≤ 12)
  all_goals
    simp only [differences, List.mem_cons, List.not_mem_nil, or_false] at present
    omega

/-- The sums of the differences are the fields of the mapping. -/
theorem decodeSegment_differences
    (previous : Previous)
    (fits : mapping.Fits) :
    decodeSegment mapping.generated.line previous.column previous.sums
        (differences previous mapping) =
      .ok (mapping.generated.column, (Previous.after mapping).sums, [mapping]) := by
  have line : mapping.generated.line < UInt32.size := fits _ (by simp [Mapping.fields])
  obtain ⟨newColumn, newSource, newLine, newOriginColumn⟩ := Previous.fits_after fits
  simp only [UInt32.size, Previous.after] at *
  have sum (old new : Nat) (small : new < 4294967296) : word64 (old + (new - old)) = new := by
    rw [word64_of_lt (by omega) (by omega)]
    omega
  have natural (number : Nat) : ¬ (number : Int) < 0 := by omega
  simp only [decodeSegment, differences, Previous.sums, List.length_nil, Nat.not_lt_zero,
    if_false, sum _ _ newColumn, sum _ _ newSource, sum _ _ newLine, sum _ _ newOriginColumn,
    natural, or_self, word32_of_lt line, word32_of_lt newColumn, word32_of_lt newSource,
    word32_of_lt newLine, word32_of_lt newOriginColumn]

/-! ### Lines -/

/-- The mappings of a text that goes on in a line. -/
def decodeFrom (line : Nat) (column : Int) (sums : Sums) (text : List Char) :
    Except MappingsProblem (List Mapping) :=
  match splitAt ';' text with
  | [] => .ok []
  | first :: others =>
      match decodeLine line column sums (segments first) with
      | .error problem => .error problem
      | .ok (mappings, sums) =>
          match decodeLines (line + 1) sums others with
          | .error problem => .error problem
          | .ok more => .ok (mappings ++ more)

/-- Put a mapping in front of those that were read. -/
def consMapping (mapping : Mapping) :
    Except MappingsProblem (List Mapping) → Except MappingsProblem (List Mapping)
  | .ok mappings => .ok (mapping :: mappings)
  | .error problem => .error problem

theorem decodeLines_splitAt
    (line : Nat)
    (sums : Sums)
    (text : List Char) :
    decodeLines line sums (splitAt ';' text) = decodeFrom line 0 sums text := by
  obtain ⟨first, others, parts⟩ := exists_splitAt ';' text
  unfold decodeFrom
  rw [parts]
  rfl

/-- Semicolons lead to the line that is as many lines further down. -/
theorem decodeFrom_replicate
    (line count : Nat)
    (column : Int)
    (sums : Sums)
    (text : List Char) :
    decodeFrom line column sums (List.replicate (count + 1) ';' ++ text) =
      decodeFrom (line + count + 1) 0 sums text := by
  have next (line : Nat) (column : Int) (text : List Char) :
      decodeFrom line column sums (';' :: text) = decodeFrom (line + 1) 0 sums text := by
    have parts : splitAt ';' (';' :: text) = [] :: splitAt ';' text := by simp [splitAt]
    rw [decodeFrom, parts]
    simp only [segments_nil, decodeLine, decodeLines_splitAt, List.nil_append]
    cases decodeFrom (line + 1) 0 sums text <;> rfl
  induction count generalizing line column with
  | zero => exact next line column text
  | succ count inductionHypothesis =>
      rw [List.replicate_succ, List.cons_append, next, inductionHypothesis]
      congr 1
      omega

/-- A segment is read before the rest of its line. -/
theorem decodeFrom_segment
    {line : Nat}
    {column nextColumn : Int}
    {sums nextSums : Sums}
    {separator segment text first : List Char}
    {others : List (List Char)}
    {numbers : List Int}
    (separated : separator = [] ∨ separator = [','])
    (nonempty : segment ≠ [])
    (plain : Unseparated segment)
    (parts : splitAt ';' text = first :: others)
    (ends : first = [] ∨ first.head? = some ',')
    (read : decodeNumbers 0 0 segment = .ok numbers)
    (summed : decodeSegment line column sums numbers = .ok (nextColumn, nextSums, [mapping])) :
    decodeFrom line column sums (separator ++ (segment ++ text)) =
      consMapping mapping (decodeFrom line nextColumn nextSums text) := by
  have noLine : ∀ c ∈ separator ++ segment, c ≠ ';' := by
    intro c present
    rcases List.mem_append.mp present with before | inside
    · rcases separated with rfl | rfl
      · cases before
      · rw [List.mem_singleton.mp before]
        decide
    · exact (plain c inside).1
  have line : splitAt ';' (separator ++ (segment ++ text)) =
      (separator ++ (segment ++ first)) :: others := by
    rw [← List.append_assoc, splitAt_append noLine parts, List.append_assoc]
  have found : segments (separator ++ (segment ++ first)) = segment :: segments first := by
    rcases separated with rfl | rfl
    · exact segments_append nonempty plain ends
    · rw [List.singleton_append, segments_comma, segments_append nonempty plain ends]
  simp only [decodeFrom, line, parts, found, decodeLine, read, summed]
  cases decodeLine _ nextColumn nextSums (segments first) with
  | error problem => rfl
  | ok reached =>
      obtain ⟨mappings, sums⟩ := reached
      simp only
      cases decodeLines _ sums others <;> rfl

/-! ### Reading what was written -/

/-- A mapping on the line being written is written behind those before it. -/
theorem encodeFrom_here
    (here : mapping.generated.line = previous.line) :
    encodeFrom previous (mapping :: rest) =
      (if previous.isFirst then [] else [',']) ++
        (encodeSegment previous mapping ++ encodeFrom (.after mapping) rest) := by
  have stays : previous.toLine mapping.generated.line = previous := by
    simp [Previous.toLine, here]
  have none : mapping.generated.line - previous.line = 0 := by omega
  have after : Previous.after mapping =
      ⟨previous.line, mapping.generated.column, mapping.source, mapping.origin, false⟩ := by
    rw [Previous.after, here]
  rw [after]
  simp only [encodeFrom, stays, none, List.replicate_zero, List.nil_append, List.append_assoc]

/-- A mapping on a later line is written behind as many semicolons. -/
theorem encodeFrom_below
    (below : previous.line < mapping.generated.line) :
    encodeFrom previous (mapping :: rest) =
      List.replicate (mapping.generated.line - previous.line) ';' ++
        encodeFrom (previous.toLine mapping.generated.line) (mapping :: rest) := by
  have line : (previous.toLine mapping.generated.line).line = mapping.generated.line := by
    simp [Previous.toLine, below]
  have stays : (previous.toLine mapping.generated.line).toLine mapping.generated.line =
      previous.toLine mapping.generated.line := by
    rw [Previous.toLine, line, if_neg (Nat.lt_irrefl _)]
  simp only [encodeFrom, stays, line, Nat.sub_self, List.replicate_zero, List.nil_append,
    List.append_assoc]

/-- Behind a mapping, the rest of its line is empty or begins with a comma. -/
theorem exists_splitAt_encodeFrom_after
    (mapping : Mapping)
    (ordered : ∀ later ∈ rest, mapping.generated.line ≤ later.generated.line) :
    ∃ first others, splitAt ';' (encodeFrom (.after mapping) rest) = first :: others ∧
      (first = [] ∨ first.head? = some ',') := by
  cases rest with
  | nil => exact ⟨[], [], rfl, Or.inl rfl⟩
  | cons next more =>
      have line : (Previous.after mapping).line = mapping.generated.line := rfl
      rcases Nat.lt_or_eq_of_le (ordered next List.mem_cons_self) with below | here
      · obtain ⟨count, enough⟩ := Nat.exists_eq_add_of_lt below
        have breaks : next.generated.line - (Previous.after mapping).line = count + 1 := by
          rw [line]
          omega
        rw [encodeFrom_below below, breaks, splitAt_replicate]
        exact ⟨[], _, rfl, Or.inl rfl⟩
      · rw [encodeFrom_here (here.symm.trans line.symm)]
        obtain ⟨first, others, parts⟩ := exists_splitAt ';'
          (encodeSegment (.after mapping) next ++ encodeFrom (.after next) more)
        refine ⟨',' :: first, others, ?_, Or.inr rfl⟩
        show splitAt ';'
          (',' :: (encodeSegment (.after mapping) next ++ encodeFrom (.after next) more)) = _
        rw [splitAt, if_neg (by decide), parts]

/-- Mappings are read as they were written, from any place on. -/
theorem decodeFrom_encodeFrom
    (before : previous.Fits)
    (fits : ∀ mapping ∈ mappings, mapping.Fits)
    (behind : ∀ mapping ∈ mappings, previous.line ≤ mapping.generated.line)
    (ordered : mappings.Pairwise fun first second =>
      first.generated.line ≤ second.generated.line) :
    decodeFrom previous.line previous.column previous.sums (encodeFrom previous mappings) =
      .ok mappings := by
  induction mappings generalizing previous with
  | nil => rfl
  | cons mapping rest inductionHypothesis =>
      obtain ⟨later, ordered⟩ := List.pairwise_cons.mp ordered
      rw [List.forall_mem_cons] at fits behind
      -- On the line of the mapping, it is read, and the others behind it.
      have here (previous : Previous) (before : previous.Fits)
          (sameLine : mapping.generated.line = previous.line) :
          decodeFrom previous.line previous.column previous.sums
            (encodeFrom previous (mapping :: rest)) = .ok (mapping :: rest) := by
        obtain ⟨first, others, parts, ends⟩ := exists_splitAt_encodeFrom_after mapping later
        have onward := inductionHypothesis (Previous.fits_after fits.1) fits.2 later ordered
        rw [encodeFrom_here sameLine, ← sameLine,
          decodeFrom_segment (by split <;> simp) (encodeSegment_ne_nil previous mapping)
            (unseparated_encodeSegment previous mapping) parts ends
            (decodeNumbers_encodeSegment before fits.1)
            (decodeSegment_differences previous fits.1)]
        exact congrArg (consMapping mapping) onward
      rcases Nat.lt_or_eq_of_le behind.1 with below | sameLine
      · have moved := here (previous.toLine mapping.generated.line)
          (Previous.fits_toLine before _) (by simp [Previous.toLine, below])
        obtain ⟨count, enough⟩ := Nat.exists_eq_add_of_lt below
        have breaks : mapping.generated.line - previous.line = count + 1 := by omega
        have reached : previous.toLine mapping.generated.line =
            { previous with line := mapping.generated.line, column := 0, isFirst := true } := by
          simp [Previous.toLine, below]
        rw [encodeFrom_below below, breaks, decodeFrom_replicate, ← enough]
        rw [reached] at moved ⊢
        exact moved
      · exact here previous before sameLine.symm

/-- Mappings in order whose fields are 32-bit numbers are read as they were written. -/
theorem decodeMappings_encodeMappings
    (fits : ∀ mapping ∈ mappings, mapping.Fits)
    (ascending : mappings.Pairwise fun first second =>
      first.generated.Before second.generated) :
    decodeMappings (encodeMappings mappings) = .ok mappings := by
  have initial : Previous.initial.Fits := ⟨by decide, by decide, by decide, by decide⟩
  have ordered : mappings.Pairwise fun first second =>
      first.generated.line ≤ second.generated.line := by
    refine ascending.imp fun before => ?_
    unfold Position.Before at before
    omega
  have read := decodeFrom_encodeFrom initial fits (fun _ _ => Nat.zero_le _) ordered
  unfold decodeMappings encodeMappings
  rw [decodeLines_splitAt, show decodeFrom 0 0 ⟨0, 0, 0⟩ (encodeFrom .initial mappings) =
    .ok mappings from read]
  simp only [List.mergeSort_of_pairwise (ascending.imp Mapping.isUpTo_of_before)]

end PositionMap
end MessageExpansion
