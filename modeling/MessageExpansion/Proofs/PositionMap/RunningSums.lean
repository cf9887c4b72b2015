import Mathlib.Data.List.Forall2
import MessageExpansion.Proofs.PositionMap.Mappings

/-!
# Running sums

A segment holds the differences between its fields and those of the segments before it.  The fields
of a mapping are the sums of the differences up to its segment, and its generated column is the sum
along its line.  The sums are kept in 64-bit words and cut down to 32 bits.  So the mappings that
are read are the exact ones up to multiples of 2³²: they are exact if all sums are 32-bit numbers,
and only then.  Sums that are negative as words are refused.
-/

namespace MessageExpansion
/-- A mapping whose fields have no bounds. -/
structure ExactMapping where
  line : Int
  column : Int
  source : Int
  originLine : Int
  originColumn : Int
deriving DecidableEq

/-- The fields of a mapping as numbers without bounds. -/
def Mapping.toExact (mapping : Mapping) : ExactMapping :=
  ⟨mapping.generated.line, mapping.generated.column, mapping.source, mapping.origin.line,
    mapping.origin.column⟩

namespace ExactMapping

open PositionMap (word32 word32_lt word32_eq_iff word64 word64_of_lt)

/-- The number is a 32-bit number. -/
def InRange (number : Int) : Prop := 0 ≤ number ∧ number < UInt32.size

instance (number : Int) : Decidable (InRange number) := inferInstanceAs (Decidable (_ ∧ _))

/-- All fields are 32-bit numbers. -/
structure Fits (row : ExactMapping) : Prop where
  line : InRange row.line
  column : InRange row.column
  source : InRange row.source
  originLine : InRange row.originLine
  originColumn : InRange row.originColumn

/-- The sums are not negative, as 64-bit words. -/
structure NotNegative (row : ExactMapping) : Prop where
  column : 0 ≤ word64 row.column
  source : 0 ≤ word64 row.source
  originLine : 0 ≤ word64 row.originLine
  originColumn : 0 ≤ word64 row.originColumn

/-- The word of a 32-bit number is the number itself. -/
theorem Fits.notNegative
    {row : ExactMapping}
    (fits : row.Fits) :
    row.NotNegative := by
  have word {number : Int} (inRange : InRange number) : 0 ≤ word64 number := by
    obtain ⟨lower, upper⟩ := inRange
    simp only [UInt32.size] at upper
    rw [word64_of_lt (by omega) (by omega)]
    exact lower
  exact ⟨word fits.column, word fits.source, word fits.originLine, word fits.originColumn⟩

/-- The mapping of the low 32 bits of the fields. -/
def low (row : ExactMapping) : Mapping :=
  ⟨⟨word32 row.line, word32 row.column⟩, word32 row.source,
    ⟨word32 row.originLine, word32 row.originColumn⟩⟩

/-- The low bits of a field are a 32-bit number. -/
theorem fits_toExact_low
    (row : ExactMapping) :
    row.low.toExact.Fits := by
  have inRange (number : Int) : InRange (word32 number) :=
    ⟨Int.natCast_nonneg _, Int.ofNat_lt.mpr (word32_lt number)⟩
  exact ⟨inRange _, inRange _, inRange _, inRange _, inRange _⟩

/-- The low bits of the fields are the fields themselves if they are 32-bit numbers, and only
then. -/
theorem toExact_low_iff
    {row : ExactMapping} :
    row.low.toExact = row ↔ row.Fits := by
  constructor
  · intro same
    exact same ▸ fits_toExact_low row
  · rintro ⟨line, column, source, originLine, originColumn⟩
    simp only [Mapping.toExact, low, word32_eq_iff.mpr line, word32_eq_iff.mpr column,
      word32_eq_iff.mpr source, word32_eq_iff.mpr originLine, word32_eq_iff.mpr originColumn]

/-- What holds of mappings with the low bits of the exact ones is a matter of these. -/
theorem forall_low_iff
    {mappings : List Mapping}
    {exacts : List ExactMapping}
    (sameLow : mappings.Perm (exacts.map low))
    (holds : Mapping → Prop) :
    (∀ mapping ∈ mappings, holds mapping) ↔ ∀ row ∈ exacts, holds row.low := by
  simp only [sameLow.mem_iff, List.forall_mem_map]

/-- Mappings with the low bits of the exact ones are the exact ones if all fields are 32-bit
numbers, and only then. -/
theorem perm_toExact_iff
    {mappings : List Mapping}
    {exacts : List ExactMapping}
    (sameLow : mappings.Perm (exacts.map low)) :
    (mappings.map Mapping.toExact).Perm exacts ↔ ∀ row ∈ exacts, row.Fits := by
  have images := sameLow.map Mapping.toExact
  rw [List.map_map] at images
  constructor
  · intro same row present
    obtain ⟨other, _, equal⟩ := List.mem_map.mp ((same.symm.trans images).subset present)
    exact equal ▸ fits_toExact_low other
  · intro fits
    have kept : exacts.map (Mapping.toExact ∘ low) = exacts := by
      conv_rhs => rw [← List.map_id exacts]
      exact List.map_congr_left fun row present => toExact_low_iff.mpr (fits row present)
    rwa [kept] at images

end ExactMapping

namespace PositionMap

/-! ### Segments -/

/-- The number of a line and the numbers of one of its segments. -/
structure LineSegment where
  line : Nat
  numbers : List Int
deriving DecidableEq

/-- The segment names a generated column only, or a place of a source too, and perhaps a name. -/
def LineSegment.HasFields (segment : LineSegment) : Prop :=
  segment.numbers.length = 1 ∨ segment.numbers.length = 4 ∨ segment.numbers.length = 5

/-- The sum of a field over segments.  A segment without the field adds nothing. -/
def fieldTotal (field : Nat) (segments : List LineSegment) : Int :=
  (segments.map fun segment => segment.numbers.getD field 0).sum

/-- The sum of the generated columns along a line. -/
def columnTotal (line : Nat) (segments : List LineSegment) : Int :=
  fieldTotal 0 (segments.filter fun segment => segment.line == line)

/-- The exact mapping of a segment behind others, if it names a place of a source. -/
def exactOf (before : List LineSegment) (segment : LineSegment) : List ExactMapping :=
  if segment.numbers.length = 1 then []
  else
    let upTo := before ++ [segment]
    [⟨segment.line, columnTotal segment.line upTo, fieldTotal 1 upTo, fieldTotal 2 upTo, fieldTotal 3 upTo⟩]

/-- The exact mappings of segments behind others. -/
def exactFrom (before : List LineSegment) : List LineSegment → List ExactMapping
  | [] => []
  | segment :: rest => exactOf before segment ++ exactFrom (before ++ [segment]) rest

/-- The exact mappings of segments. -/
def exactMappings (segments : List LineSegment) : List ExactMapping := exactFrom [] segments

/-- The lines from `line` on hold the segments: between commas stand texts that spell their numbers,
or nothing. -/
inductive HoldsFrom (spells : List Char → List Int → Prop) :
    Nat → List (List Char) → List LineSegment → Prop
  | nil {line : Nat} : HoldsFrom spells line [] []
  | cons {line : Nat} {text : List Char} {texts : List (List Char)} {here below : List LineSegment}
      (onLine : ∀ segment ∈ here, segment.line = line)
      (spelled : List.Forall₂ (fun written segment => spells written segment.numbers)
        ((text.splitOn ',').filter fun written => !written.isEmpty) here)
      (others : HoldsFrom spells (line + 1) texts below) :
      HoldsFrom spells line (text :: texts) (here ++ below)

/-- The text spells the segments, with numbers of at most `limit` digits. -/
def SpellsSegments (limit : Nat) (text : List Char) (segments : List LineSegment) : Prop :=
  HoldsFrom (SpellsNumbers limit) 0 (text.splitOn ';') segments

/-! ### Totals -/

@[simp] theorem fieldTotal_append
    (field : Nat)
    (front back : List LineSegment) :
    fieldTotal field (front ++ back) = fieldTotal field front + fieldTotal field back := by
  simp [fieldTotal]

@[simp] theorem fieldTotal_singleton
    (field : Nat)
    (segment : LineSegment) :
    fieldTotal field [segment] = segment.numbers.getD field 0 := by
  simp [fieldTotal]

theorem columnTotal_concat
    (before : List LineSegment)
    (segment : LineSegment) :
    columnTotal segment.line (before ++ [segment]) =
      columnTotal segment.line before + segment.numbers.getD 0 0 := by
  simp [columnTotal, List.filter_append]

/-- Nothing is summed up on a line below all segments. -/
theorem columnTotal_eq_zero
    {line : Nat}
    {before : List LineSegment}
    (above : ∀ segment ∈ before, segment.line < line) :
    columnTotal line before = 0 := by
  have nothing : (before.filter fun segment => segment.line == line) = [] :=
    List.filter_eq_nil_iff.mpr fun segment present => by
      simpa using Nat.ne_of_lt (above segment present)
  rw [columnTotal, nothing]
  rfl

/-- Segments on a line are above the next one, and so are those above the line. -/
theorem forall_line_lt_of_append
    {line : Nat}
    {before here : List LineSegment}
    (above : ∀ segment ∈ before, segment.line < line)
    (onLine : ∀ segment ∈ here, segment.line = line) :
    ∀ segment ∈ before ++ here, segment.line < line + 1 :=
  List.forall_mem_append.mpr ⟨fun segment present => Nat.lt_succ_of_lt (above segment present),
    fun segment present => Nat.lt_succ_of_le (Nat.le_of_eq (onLine segment present))⟩

theorem exactFrom_append
    (before front back : List LineSegment) :
    exactFrom before (front ++ back) =
      exactFrom before front ++ exactFrom (before ++ front) back := by
  induction front generalizing before with
  | nil => simp [exactFrom]
  | cons segment rest inductionHypothesis => simp [exactFrom, inductionHypothesis]

/-! ### Sums of words -/

/-- The text is read as numbers that are the exact ones up to multiples of `modulus`. -/
def ReadsModulo (modulus : Int) (text : List Char) (exactNumbers : List Int) : Prop :=
  ∃ numbers, decodeNumbers 0 0 text = .ok numbers ∧ NumbersAgree modulus numbers exactNumbers

/-- The sums behind segments are the totals of their fields up to multiples of `modulus`. -/
structure SumsAgree (modulus : Int) (sums : Sums) (before : List LineSegment) : Prop where
  source : sums.source ≡ fieldTotal 1 before [ZMOD modulus]
  line : sums.line ≡ fieldTotal 2 before [ZMOD modulus]
  column : sums.column ≡ fieldTotal 3 before [ZMOD modulus]

variable {modulus column nextColumn : Int} {line : Nat} {sums nextSums : Sums}
  {numbers : List Int} {mappings : List Mapping} {segment : LineSegment} {before here : List LineSegment}

/-- A sum of words is a sum of numbers up to multiples of a divisor of the word size. -/
theorem word64_add_modEq
    {first second exactFirst exactSecond : Int}
    (divides : modulus ∣ 2 ^ 64)
    (firstAgrees : first ≡ exactFirst [ZMOD modulus])
    (secondAgrees : second ≡ exactSecond [ZMOD modulus]) :
    word64 (first + second) ≡ exactFirst + exactSecond [ZMOD modulus] :=
  ((word64_modEq _).of_dvd divides).trans (firstAgrees.add secondAgrees)

/-- A segment is read if it has one field, or four or five whose sums are not negative. -/
theorem decodeSegment_eq_ok
    (succeeds : decodeSegment line column sums numbers = .ok (nextColumn, nextSums, mappings)) :
    (∃ step, numbers = [step] ∧ nextColumn = word64 (column + step) ∧ nextSums = sums ∧
      mappings = []) ∨
    ∃ step source originLine originColumn extra,
      numbers = step :: source :: originLine :: originColumn :: extra ∧ extra.length ≤ 1 ∧
        nextColumn = word64 (column + step) ∧
        nextSums = ⟨word64 (sums.source + source), word64 (sums.line + originLine),
          word64 (sums.column + originColumn)⟩ ∧
        mappings = [⟨⟨word32 line, word32 nextColumn⟩, word32 nextSums.source,
          ⟨word32 nextSums.line, word32 nextSums.column⟩⟩] := by
  unfold decodeSegment at succeeds
  split at succeeds
  · next step =>
      obtain ⟨rfl, rfl, rfl⟩ := by simpa using succeeds
      exact Or.inl ⟨step, rfl, rfl, rfl, rfl⟩
  · next step source originLine originColumn extra =>
      split at succeeds
      · cases succeeds
      · next few =>
          simp only at succeeds
          split at succeeds
          · cases succeeds
          · simp only [Except.ok.injEq, Prod.mk.injEq] at succeeds
            obtain ⟨rfl, rfl, rfl⟩ := succeeds
            exact Or.inr ⟨step, source, originLine, originColumn, extra, rfl, by omega, rfl, rfl,
              rfl⟩
  · cases succeeds

/-- A segment that is read adds its differences to the sums, and its mapping has the low bits of the
exact one. -/
theorem agree_of_decodeSegment
    (divides : modulus ∣ 2 ^ 64)
    (covers : 2 ^ 32 ∣ modulus)
    (columnAgrees : column ≡ columnTotal segment.line before [ZMOD modulus])
    (agree : SumsAgree modulus sums before)
    (read : NumbersAgree modulus numbers segment.numbers)
    (succeeds : decodeSegment segment.line column sums numbers =
      .ok (nextColumn, nextSums, mappings)) :
    nextColumn ≡ columnTotal segment.line (before ++ [segment]) [ZMOD modulus] ∧
      SumsAgree modulus nextSums (before ++ [segment]) ∧ segment.HasFields ∧
      mappings = (exactOf before segment).map ExactMapping.low := by
  have same := read.length
  have columns := word64_add_modEq divides columnAgrees (read.field 0)
  rcases decodeSegment_eq_ok succeeds with ⟨step, rfl, rfl, rfl, rfl⟩ |
    ⟨step, source, originLine, originColumn, extra, rfl, few, rfl, rfl, rfl⟩
  · refine ⟨columnTotal_concat before segment ▸ columns, ?_, Or.inl same.symm, ?_⟩
    · -- The other fields are missing, so their totals stay.
      constructor
      · simpa using agree.source.add (read.field 1)
      · simpa using agree.line.add (read.field 2)
      · simpa using agree.column.add (read.field 3)
    · have one : segment.numbers.length = 1 := same.symm
      rw [exactOf, if_pos one]
      rfl
  · have sources := word64_add_modEq divides agree.source (read.field 1)
    have lines := word64_add_modEq divides agree.line (read.field 2)
    have origins := word64_add_modEq divides agree.column (read.field 3)
    simp only [List.length_cons] at same
    refine ⟨columnTotal_concat before segment ▸ columns, ?_, ?_, ?_⟩
    · constructor
      · simpa using sources
      · simpa using lines
      · simpa using origins
    · unfold LineSegment.HasFields
      omega
    · rw [exactOf, if_neg (by omega)]
      simp only [List.map_cons, List.map_nil, ExactMapping.low, columnTotal_concat,
        fieldTotal_append, fieldTotal_singleton, ← word32_congr (columns.of_dvd covers),
        ← word32_congr (sources.of_dvd covers), ← word32_congr (lines.of_dvd covers),
        ← word32_congr (origins.of_dvd covers)]
      rfl

/-- A segment whose numbers are exact up to the word size is read if it has one, four or five fields
and no sum is negative, and only then. -/
theorem exists_decodeSegment_iff
    (columnAgrees : column ≡ columnTotal segment.line before [ZMOD 2 ^ 64])
    (agree : SumsAgree (2 ^ 64) sums before)
    (read : NumbersAgree (2 ^ 64) numbers segment.numbers) :
    (∃ reached, decodeSegment segment.line column sums numbers = .ok reached) ↔
      segment.HasFields ∧ ∀ row ∈ exactOf before segment, row.NotNegative := by
  have same := read.length
  unfold LineSegment.HasFields
  match numbers with
  | [step] =>
      have one : segment.numbers.length = 1 := same.symm
      rw [exactOf, if_pos one]
      exact iff_of_true ⟨_, rfl⟩ ⟨Or.inl one, List.forall_mem_nil _⟩
  | step :: source :: originLine :: originColumn :: extra =>
      simp only [List.length_cons] at same
      have columns := word64_congr (columnAgrees.add (read.field 0))
      have sources := word64_congr (agree.source.add (read.field 1))
      have lines := word64_congr (agree.line.add (read.field 2))
      have origins := word64_congr (agree.column.add (read.field 3))
      simp only [List.getD_cons_zero, List.getD_cons_succ] at columns sources lines origins
      have checked : (∀ row ∈ exactOf before segment, row.NotNegative) ↔
          ¬ (word64 (column + step) < 0 ∨ word64 (sums.source + source) < 0 ∨
            word64 (sums.line + originLine) < 0 ∨ word64 (sums.column + originColumn) < 0) := by
        rw [exactOf, if_neg (by omega), List.forall_mem_singleton, columns, sources, lines, origins]
        simp only [columnTotal_concat, fieldTotal_append, fieldTotal_singleton, not_or, Int.not_lt]
        constructor
        · rintro ⟨column, source, line, origin⟩
          exact ⟨column, source, line, origin⟩
        · rintro ⟨column, source, line, origin⟩
          exact ⟨column, source, line, origin⟩
      rw [checked]
      by_cases many : 1 < extra.length
      · refine iff_of_false ?_ ?_
        · rintro ⟨_, succeeds⟩
          simp only [decodeSegment, if_pos many, reduceCtorEq] at succeeds
        · rintro ⟨fields, _⟩
          omega
      · by_cases negative : word64 (column + step) < 0 ∨ word64 (sums.source + source) < 0 ∨
            word64 (sums.line + originLine) < 0 ∨ word64 (sums.column + originColumn) < 0
        · refine iff_of_false ?_ fun accepted => accepted.2 negative
          rintro ⟨_, succeeds⟩
          simp only [decodeSegment, if_neg many, if_pos negative, reduceCtorEq] at succeeds
        · simp only [decodeSegment, if_neg many, if_neg negative]
          exact iff_of_true ⟨_, rfl⟩ ⟨by omega, negative⟩
  | [] | [_, _] | [_, _, _] =>
      simp only [List.length_nil, List.length_cons] at same
      refine iff_of_false ?_ (by omega)
      rintro ⟨_, succeeds⟩
      cases succeeds

/-! ### Lines -/

variable {text : List Char} {texts : List (List Char)} {below : List LineSegment}
  {spells others : List Char → List Int → Prop}

/-- Cutting a text at separators is cutting it as a list. -/
theorem splitAt_eq_splitOn
    (separator : Char)
    (text : List Char) :
    splitAt separator text = text.splitOn separator := by
  induction text with
  | nil => rfl
  | cons c rest inductionHypothesis =>
      obtain ⟨first, more, parts⟩ := exists_splitAt separator rest
      rw [List.splitOn, List.splitOnP_cons_eq_if_modifyHead, ← List.splitOn, ← inductionHypothesis,
        splitAt, parts]
      by_cases cut : c = separator <;> simp [cut]

/-- A line is read segment by segment. -/
theorem decodeLine_cons_iff :
    decodeLine line column sums (text :: texts) = .ok (mappings, nextSums) ↔
      ∃ numbers nextColumn reached first more, decodeNumbers 0 0 text = .ok numbers ∧
        decodeSegment line column sums numbers = .ok (nextColumn, reached, first) ∧
        decodeLine line nextColumn reached texts = .ok (more, nextSums) ∧
        mappings = first ++ more := by
  rw [decodeLine]
  constructor
  · intro succeeds
    split at succeeds
    · cases succeeds
    · next numbers read =>
        split at succeeds
        · cases succeeds
        · next nextColumn reached first summed =>
            split at succeeds
            · cases succeeds
            · next more final rest =>
                cases succeeds
                exact ⟨numbers, nextColumn, reached, first, more, read, summed, rest, rfl⟩
  · rintro ⟨numbers, nextColumn, reached, first, more, read, summed, rest, rfl⟩
    simp only [read, summed, rest]

theorem segments_eq_splitOn
    (text : List Char) :
    segments text = (text.splitOn ',').filter fun written => !written.isEmpty := by
  rw [segments, splitAt_eq_splitOn]

/-- Mappings are read line by line. -/
theorem decodeLines_cons_iff :
    decodeLines line sums (text :: texts) = .ok mappings ↔
      ∃ first reached more, decodeLine line 0 sums (segments text) = .ok (first, reached) ∧
        decodeLines (line + 1) reached texts = .ok more ∧ mappings = first ++ more := by
  rw [decodeLines, ← segments]
  constructor
  · intro succeeds
    split at succeeds
    · cases succeeds
    · next first reached read =>
        split at succeeds
        · cases succeeds
        · next more rest =>
            cases succeeds
            exact ⟨first, reached, more, read, rest, rfl⟩
  · rintro ⟨first, reached, more, read, rest, rfl⟩
    simp only [read, rest]

theorem HoldsFrom.mono
    (holds : HoldsFrom spells line texts below)
    (implied : ∀ text numbers, spells text numbers → others text numbers) :
    HoldsFrom others line texts below := by
  induction holds with
  | nil => exact .nil
  | cons onLine spelled _ inductionHypothesis =>
      exact .cons onLine (spelled.imp fun _ _ => implied _ _) inductionHypothesis

/-- Only segments of numbers are read. -/
theorem exists_spells_of_decodeLine
    (succeeds : decodeLine line column sums texts = .ok (mappings, nextSums)) :
    ∃ here : List LineSegment, (∀ segment ∈ here, segment.line = line) ∧
      List.Forall₂ (fun written segment => SpellsNumbers 13 written segment.numbers) texts here := by
  induction texts generalizing column sums mappings with
  | nil => exact ⟨[], List.forall_mem_nil _, .nil⟩
  | cons text texts inductionHypothesis =>
      obtain ⟨numbers, nextColumn, reached, first, more, read, _, rest, _⟩ :=
        decodeLine_cons_iff.mp succeeds
      obtain ⟨exactNumbers, spelled⟩ := exists_spellsNumbers read
      obtain ⟨here, onLine, others⟩ := inductionHypothesis rest
      exact ⟨⟨line, exactNumbers⟩ :: here, List.forall_mem_cons.mpr ⟨rfl, onLine⟩,
        .cons spelled others⟩

/-- Only lines of segments are read. -/
theorem exists_holdsFrom
    (succeeds : decodeLines line sums texts = .ok mappings) :
    ∃ below, HoldsFrom (SpellsNumbers 13) line texts below := by
  induction texts generalizing line sums mappings with
  | nil => exact ⟨[], .nil⟩
  | cons text texts inductionHypothesis =>
      obtain ⟨first, reached, more, read, rest, _⟩ := decodeLines_cons_iff.mp succeeds
      obtain ⟨here, onLine, spelled⟩ := exists_spells_of_decodeLine read
      obtain ⟨below, others⟩ := inductionHypothesis rest
      exact ⟨here ++ below, .cons onLine (segments_eq_splitOn text ▸ spelled) others⟩

/-- A line that is read adds the differences of its segments to the sums, and its mappings have the
low bits of the exact ones. -/
theorem agree_of_decodeLine
    (divides : modulus ∣ 2 ^ 64)
    (covers : 2 ^ 32 ∣ modulus)
    (onLine : ∀ segment ∈ here, segment.line = line)
    (read : List.Forall₂ (fun written segment => ReadsModulo modulus written segment.numbers) texts here)
    (columnAgrees : column ≡ columnTotal line before [ZMOD modulus])
    (agree : SumsAgree modulus sums before)
    (succeeds : decodeLine line column sums texts = .ok (mappings, nextSums)) :
    SumsAgree modulus nextSums (before ++ here) ∧ (∀ segment ∈ here, segment.HasFields) ∧
      mappings = (exactFrom before here).map ExactMapping.low := by
  induction read generalizing column sums before mappings with
  | nil =>
      obtain ⟨rfl, rfl⟩ := by simpa [decodeLine] using succeeds
      rw [List.append_nil]
      exact ⟨agree, List.forall_mem_nil _, rfl⟩
  | @cons text segment texts rest first _ inductionHypothesis =>
      obtain ⟨rfl, onLine⟩ := List.forall_mem_cons.mp onLine
      obtain ⟨numbers, decoded, numbersAgree⟩ := first
      obtain ⟨numbers', nextColumn, reached, mapping, more, decoded', summed, others, rfl⟩ :=
        decodeLine_cons_iff.mp succeeds
      obtain rfl : numbers = numbers' := Except.ok.inj (decoded.symm.trans decoded')
      obtain ⟨columnAgrees, agree, fields, rfl⟩ :=
        agree_of_decodeSegment divides covers columnAgrees agree numbersAgree summed
      obtain ⟨agree, otherFields, rfl⟩ := inductionHypothesis onLine columnAgrees agree others
      rw [List.append_assoc, List.singleton_append] at agree
      exact ⟨agree, List.forall_mem_cons.mpr ⟨fields, otherFields⟩, by
        rw [exactFrom, List.map_append]⟩

/-- Lines that are read, below other segments, have mappings with the low bits of the exact ones. -/
theorem agree_of_decodeLines
    (divides : modulus ∣ 2 ^ 64)
    (covers : 2 ^ 32 ∣ modulus)
    (holds : HoldsFrom (ReadsModulo modulus) line texts below)
    (above : ∀ segment ∈ before, segment.line < line)
    (agree : SumsAgree modulus sums before)
    (succeeds : decodeLines line sums texts = .ok mappings) :
    (∀ segment ∈ below, segment.HasFields) ∧
      mappings = (exactFrom before below).map ExactMapping.low := by
  induction holds generalizing before sums mappings with
  | nil =>
      obtain rfl := by simpa [decodeLines] using succeeds
      exact ⟨List.forall_mem_nil _, rfl⟩
  | @cons line text texts here below onLine spelled _ inductionHypothesis =>
      obtain ⟨first, reached, more, read, others, rfl⟩ := decodeLines_cons_iff.mp succeeds
      rw [← segments_eq_splitOn] at spelled
      have start : (0 : Int) ≡ columnTotal line before [ZMOD modulus] := by
        rw [columnTotal_eq_zero above]
      obtain ⟨agree, fields, rfl⟩ :=
        agree_of_decodeLine divides covers onLine spelled start agree read
      obtain ⟨otherFields, rfl⟩ :=
        inductionHypothesis (forall_line_lt_of_append above onLine) agree others
      exact ⟨List.forall_mem_append.mpr ⟨fields, otherFields⟩, by
        rw [exactFrom_append, List.map_append]⟩

/-- A line whose numbers are exact up to the word size is read if its segments have one, four or
five fields and no sum is negative, and only then. -/
theorem exists_decodeLine_iff
    (onLine : ∀ segment ∈ here, segment.line = line)
    (read : List.Forall₂ (fun written segment => ReadsModulo (2 ^ 64) written segment.numbers) texts here)
    (columnAgrees : column ≡ columnTotal line before [ZMOD 2 ^ 64])
    (agree : SumsAgree (2 ^ 64) sums before) :
    (∃ mappings nextSums, decodeLine line column sums texts = .ok (mappings, nextSums)) ↔
      (∀ segment ∈ here, segment.HasFields) ∧ ∀ row ∈ exactFrom before here, row.NotNegative := by
  induction read generalizing column sums before with
  | nil => exact iff_of_true ⟨_, _, rfl⟩ ⟨List.forall_mem_nil _, List.forall_mem_nil _⟩
  | @cons text segment texts rest first _ inductionHypothesis =>
      obtain ⟨rfl, onLine⟩ := List.forall_mem_cons.mp onLine
      obtain ⟨numbers, decoded, numbersAgree⟩ := first
      have step := exists_decodeSegment_iff columnAgrees agree numbersAgree
      have goesOn {nextColumn : Int} {reached : Sums} {mapping : List Mapping}
          (summed : decodeSegment segment.line column sums numbers = .ok (nextColumn, reached, mapping)) :
          (∃ mappings nextSums,
            decodeLine segment.line nextColumn reached texts = .ok (mappings, nextSums)) ↔ _ :=
        have behind := agree_of_decodeSegment dvd_rfl (pow_dvd_pow 2 (by decide)) columnAgrees agree
          numbersAgree summed
        inductionHypothesis onLine behind.1 behind.2.1
      rw [exactFrom, List.forall_mem_cons, List.forall_mem_append]
      constructor
      · rintro ⟨_, nextSums, succeeds⟩
        obtain ⟨numbers', nextColumn, reached, mapping, more, decoded', summed, others, rfl⟩ :=
          decodeLine_cons_iff.mp succeeds
        obtain rfl : numbers = numbers' := Except.ok.inj (decoded.symm.trans decoded')
        obtain ⟨fields, natural⟩ := step.mp ⟨_, summed⟩
        obtain ⟨otherFields, otherNatural⟩ := (goesOn summed).mp ⟨_, _, others⟩
        exact ⟨⟨fields, otherFields⟩, natural, otherNatural⟩
      · rintro ⟨⟨fields, otherFields⟩, natural, otherNatural⟩
        obtain ⟨⟨nextColumn, reached, mapping⟩, summed⟩ := step.mpr ⟨fields, natural⟩
        obtain ⟨more, nextSums, others⟩ := (goesOn summed).mpr ⟨otherFields, otherNatural⟩
        exact ⟨mapping ++ more, nextSums, decodeLine_cons_iff.mpr
          ⟨numbers, nextColumn, reached, mapping, more, decoded, summed, others, rfl⟩⟩

/-- Lines whose numbers are exact up to the word size are read if their segments have one, four or
five fields and no sum is negative, and only then. -/
theorem exists_decodeLines_iff
    (holds : HoldsFrom (ReadsModulo (2 ^ 64)) line texts below)
    (above : ∀ segment ∈ before, segment.line < line)
    (agree : SumsAgree (2 ^ 64) sums before) :
    (∃ mappings, decodeLines line sums texts = .ok mappings) ↔
      (∀ segment ∈ below, segment.HasFields) ∧ ∀ row ∈ exactFrom before below, row.NotNegative := by
  induction holds generalizing before sums with
  | nil => exact iff_of_true ⟨_, rfl⟩ ⟨List.forall_mem_nil _, List.forall_mem_nil _⟩
  | @cons line text texts here below onLine spelled _ inductionHypothesis =>
      rw [← segments_eq_splitOn] at spelled
      have start : (0 : Int) ≡ columnTotal line before [ZMOD 2 ^ 64] := by
        rw [columnTotal_eq_zero above]
      have first := exists_decodeLine_iff onLine spelled start agree
      have above := forall_line_lt_of_append above onLine
      have goesOn {mappings : List Mapping} {reached : Sums}
          (read : decodeLine line 0 sums (segments text) = .ok (mappings, reached)) :
          (∃ mappings, decodeLines (line + 1) reached texts = .ok mappings) ↔ _ :=
        have behind := agree_of_decodeLine dvd_rfl (pow_dvd_pow 2 (by decide)) onLine spelled start
          agree read
        inductionHypothesis above behind.1
      rw [exactFrom_append, List.forall_mem_append, List.forall_mem_append]
      constructor
      · rintro ⟨_, succeeds⟩
        obtain ⟨mappings, reached, more, read, others, rfl⟩ := decodeLines_cons_iff.mp succeeds
        obtain ⟨fields, natural⟩ := first.mp ⟨_, _, read⟩
        obtain ⟨otherFields, otherNatural⟩ := (goesOn read).mp ⟨_, others⟩
        exact ⟨⟨fields, otherFields⟩, natural, otherNatural⟩
      · rintro ⟨⟨fields, otherFields⟩, natural, otherNatural⟩
        obtain ⟨mappings, reached, read⟩ := first.mpr ⟨fields, natural⟩
        obtain ⟨more, others⟩ := (goesOn read).mpr ⟨otherFields, otherNatural⟩
        exact ⟨mappings ++ more, decodeLines_cons_iff.mpr
          ⟨mappings, reached, more, read, others, rfl⟩⟩

/-! ### Texts -/

variable {limit : Nat} {whole : List LineSegment}

theorem SpellsSegments.mono
    {longer : Nat}
    (spelled : SpellsSegments limit text whole)
    (bound : limit ≤ longer) :
    SpellsSegments longer text whole :=
  HoldsFrom.mono spelled fun _ _ numbers => numbers.mono bound

theorem sumsAgree_nil
    (modulus : Int) :
    SumsAgree modulus ⟨0, 0, 0⟩ [] :=
  ⟨rfl, rfl, rfl⟩

/-- The mappings of all lines are put in order. -/
theorem decodeMappings_eq_ok_iff :
    decodeMappings text = .ok mappings ↔
      ∃ read, decodeLines 0 ⟨0, 0, 0⟩ (text.splitOn ';') = .ok read ∧
        mappings = read.mergeSort Mapping.isUpTo := by
  rw [decodeMappings, splitAt_eq_splitOn]
  cases decodeLines 0 ⟨0, 0, 0⟩ (text.splitOn ';') with
  | error problem => simp
  | ok read => simp [eq_comm]

/-- Only segments are read. -/
theorem exists_spellsSegments
    (succeeds : decodeMappings text = .ok mappings) :
    ∃ whole, SpellsSegments 13 text whole := by
  obtain ⟨read, succeeds, _⟩ := decodeMappings_eq_ok_iff.mp succeeds
  exact exists_holdsFrom succeeds

/-- The mappings that are read have the low bits of the exact ones. -/
theorem perm_of_decodeMappings
    (spelled : SpellsSegments 13 text whole)
    (succeeds : decodeMappings text = .ok mappings) :
    (∀ segment ∈ whole, segment.HasFields) ∧
      mappings.Perm ((exactMappings whole).map ExactMapping.low) := by
  obtain ⟨read, lines, rfl⟩ := decodeMappings_eq_ok_iff.mp succeeds
  have holds := HoldsFrom.mono spelled fun _ _ numbers => numbers.decodeNumbers_modEq
  obtain ⟨fields, rfl⟩ := agree_of_decodeLines (pow_dvd_pow 2 (by decide)) dvd_rfl holds
    (List.forall_mem_nil _) (sumsAgree_nil _) lines
  exact ⟨fields, List.mergeSort_perm _ _⟩

/-- Segments of short numbers are read if they have one, four or five fields and no sum is negative,
and only then. -/
theorem exists_decodeMappings_iff
    (spelled : SpellsSegments 12 text whole) :
    (∃ mappings, decodeMappings text = .ok mappings) ↔
      (∀ segment ∈ whole, segment.HasFields) ∧ ∀ row ∈ exactMappings whole, row.NotNegative := by
  have holds := HoldsFrom.mono spelled fun _ numbers short =>
    (⟨numbers, short.decodeNumbers_eq, .refl _ _⟩ : ReadsModulo (2 ^ 64) _ numbers)
  rw [exactMappings, ← exists_decodeLines_iff holds (List.forall_mem_nil _) (sumsAgree_nil _)]
  constructor
  · rintro ⟨_, succeeds⟩
    obtain ⟨read, lines, _⟩ := decodeMappings_eq_ok_iff.mp succeeds
    exact ⟨read, lines⟩
  · rintro ⟨read, lines⟩
    exact ⟨_, decodeMappings_eq_ok_iff.mpr ⟨read, lines, rfl⟩⟩

end PositionMap
end MessageExpansion
