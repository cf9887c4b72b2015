import MessageExpansion.Json.Parser
import MessageExpansion.Json.Printer

/-!
# Spellings of JSON values

The spellings that a printed value may have: strings in the escapes of string literals, whole
numbers, and arrays and objects with blanks in front of their items, before their ends and behind
the colons of their members.  Every such spelling is read as the value that it spells.
-/

namespace MessageExpansion
namespace Json

open Text (Reading stringLiteral)

/-! ### The grammar -/

/-- Nothing but blanks. -/
def IsGap (gap : List Char) : Prop := ∀ c ∈ gap, isSpace c = true

/-- The digits of a whole number, without a leading zero. -/
structure IsNumeral (digits : List Char) : Prop where
  nonempty : digits ≠ []
  all : ∀ c ∈ digits, c.isDigit = true
  /-- A zero stands for itself only. -/
  leads : digits.head? = some '0' → digits = ['0']

mutual

/-- A value has a spelling. -/
inductive Spells : Json → List Char → Prop
  | null : Spells .null "null".toList
  | yes : Spells (.boolean true) "true".toList
  | no : Spells (.boolean false) "false".toList
  | numeral
      {digits : List Char}
      (numeral : IsNumeral digits) :
      Spells (.number (String.ofList digits)) digits
  | string
      (text : String) :
      Spells (.text text) (stringLiteral text).toList
  | emptyArray : Spells (.array []) ['[', ']']
  | array
      {items : List Json}
      {text : List Char}
      (spelled : SpellsItems items text) :
      Spells (.array items) ('[' :: text)
  | emptyObject : Spells (.object []) ['\x7b', '\x7d']
  | object
      {members : List (Option String × Json)}
      {text : List Char}
      (spelled : SpellsMembers members text) :
      Spells (.object members) ('\x7b' :: text)

/-- The items of an array have a spelling, together with the bracket behind them. -/
inductive SpellsItems : List Json → List Char → Prop
  | last
      {gap text close : List Char}
      {item : Json}
      (before : IsGap gap)
      (spelled : Spells item text)
      (behind : IsGap close) :
      SpellsItems [item] (gap ++ (text ++ (close ++ [']'])))
  | more
      {gap text others : List Char}
      {item : Json}
      {items : List Json}
      (before : IsGap gap)
      (spelled : Spells item text)
      (onward : SpellsItems items others) :
      SpellsItems (item :: items) (gap ++ (text ++ ',' :: others))

/-- The members of an object have a spelling, together with the brace behind them. -/
inductive SpellsMembers : List (Option String × Json) → List Char → Prop
  | last
      {gap middle text close : List Char}
      {value : Json}
      (name : String)
      (before : IsGap gap)
      (between : IsGap middle)
      (spelled : Spells value text)
      (behind : IsGap close) :
      SpellsMembers [(some name, value)]
        (gap ++ ((stringLiteral name).toList ++ ':' :: (middle ++ (text ++ (close ++ ['\x7d'])))))
  | more
      {gap middle text others : List Char}
      {value : Json}
      {members : List (Option String × Json)}
      (name : String)
      (before : IsGap gap)
      (between : IsGap middle)
      (spelled : Spells value text)
      (onward : SpellsMembers members others) :
      SpellsMembers ((some name, value) :: members)
        (gap ++ ((stringLiteral name).toList ++ ':' :: (middle ++ (text ++ ',' :: others))))

end

/-! ### Strings -/

/-- A reader yields a value and leaves a text. -/
def Reads {bound : Nat} {α : Type} (outcome : Option (Reading bound α)) (value : α)
    (rest : List Char) : Prop :=
  ∃ shorter, outcome = some ⟨value, rest, shorter⟩

/-- The spelling of a character of a string is read as that character. -/
theorem stringPoints_encodeChar
    (c : Char)
    (rest : List Char) :
    stringPoints (Text.StringLiteral.encodeChar c ++ rest) =
      consPoint c.toNat (stringPoints rest) := by
  unfold Text.StringLiteral.encodeChar
  split
  · next quote =>
      subst quote
      simp [stringPoints, shortEscape?]
  split
  · next backslash =>
      subst backslash
      simp [stringPoints, shortEscape?]
  split
  · next feed =>
      subst feed
      simp [stringPoints, shortEscape?]
  split
  · next carriage =>
      subst carriage
      simp [stringPoints, shortEscape?]
  split
  · next tab =>
      subst tab
      simp [stringPoints, shortEscape?]
  split
  · next backspace =>
      rw [backspace]
      simp [stringPoints, shortEscape?]
  split
  · next formFeed =>
      rw [formFeed]
      simp [stringPoints, shortEscape?]
  split
  · next control =>
      simp [stringPoints, Text.hexUnit?_of_control control]
  · next noQuote noBackslash _ _ _ _ _ visible =>
      have plain : ¬ (c.toNat < 0x20 ∨ c = '\\') := not_or.mpr ⟨visible, noBackslash⟩
      rw [List.singleton_append, stringPoints.eq_def]
      split
      · next equal => cases equal
      · next equal =>
          cases equal
          exact absurd rfl noQuote
      · next equal =>
          cases equal
          exact absurd rfl noBackslash
      · next equal =>
          cases equal
          exact absurd rfl noBackslash
      · next equal =>
          cases equal
          rw [if_neg plain]

/-- A string is read to its closing quote. -/
theorem stringPoints_encode
    (text rest : List Char) :
    stringPoints (Text.StringLiteral.encode text ++ '"' :: rest) =
      some (text.map Char.toNat, rest) := by
  induction text with
  | nil => simp [stringPoints]
  | cons c more inductionHypothesis =>
      rw [Text.StringLiteral.encode_cons, List.append_assoc, stringPoints_encodeChar,
        inductionHypothesis]
      rfl

theorem reads_stringBody
    (text : String)
    (rest : List Char) :
    Reads (stringBody (Text.StringLiteral.encode text.toList ++ '"' :: rest)) (some text) rest := by
  have known := stringPoints_encode text.toList rest
  unfold stringBody
  split
  · next points left read =>
      cases read.symm.trans known
      refine ⟨length_stringPoints_lt known, ?_⟩
      rw [Text.joinSurrogates_map_toNat, Option.map_some, String.ofList_toList]
  · next missing =>
      rw [known] at missing
      cases missing

/-- A literal begins with a quote, and a string body follows it. -/
theorem stringLiteral_append
    (text : String)
    (rest : List Char) :
    (stringLiteral text).toList ++ rest =
      '"' :: (Text.StringLiteral.encode text.toList ++ '"' :: rest) := by
  rw [stringLiteral, String.toList_ofList]
  simp

theorem reads_value_string
    (text : String)
    (rest : List Char) :
    Reads (value ((stringLiteral text).toList ++ rest)) (.text text) rest := by
  obtain ⟨shorter, body⟩ := reads_stringBody text rest
  rw [stringLiteral_append, value]
  simp only [body]
  exact ⟨_, rfl⟩

/-! ### Numbers and words -/

/-- The text does not go on with a number. -/
def EndsNumber (rest : List Char) : Prop :=
  ∀ c ∈ rest.head?, c.isDigit = false ∧ c ≠ '.' ∧ c ≠ 'e' ∧ c ≠ 'E'

theorem unsignedNumber_append
    {digits rest : List Char}
    (numeral : IsNumeral digits)
    (ends : EndsNumber rest) :
    unsignedNumber (digits ++ rest) = some (digits, rest) := by
  have span : spanDigits (digits ++ rest) = (digits, rest) := by
    have stops : rest.takeWhile Char.isDigit = [] ∧ rest.dropWhile Char.isDigit = rest := by
      cases rest with
      | nil => exact ⟨rfl, rfl⟩
      | cons c rest =>
          have noDigit := (ends c rfl).1
          simp [noDigit]
    rw [spanDigits, List.takeWhile_append_of_pos numeral.all,
      List.dropWhile_append_of_pos numeral.all, stops.1, stops.2, List.append_nil]
  have integral : integralPart (digits ++ rest) = some (digits, rest) := by
    unfold integralPart
    rw [span]
    obtain ⟨nonempty, _, leads⟩ := numeral
    split
    · next empty =>
        cases empty
        exact absurd rfl nonempty
    · next zero =>
        cases zero
        rfl
    · next more noZero zero =>
        cases zero
        have alone := leads rfl
        simp at alone
        subst alone
        exact (noZero rfl).elim
    · next same =>
        cases same
        rfl
  have fraction : fractionPart rest = some ([], rest) := by
    unfold fractionPart
    split
    · next more =>
        exact absurd rfl (ends '.' rfl).2.1
    · rfl
  have exponent : exponentPart rest = some ([], rest) := by
    unfold exponentPart
    split
    · rfl
    · next c more =>
        have plain := ends c rfl
        rw [if_neg (by simp [plain])]
  simp only [unsignedNumber, integral, fraction, exponent, List.append_nil]

theorem reads_value_numeral
    {digits rest : List Char}
    (numeral : IsNumeral digits)
    (ends : EndsNumber rest) :
    Reads (value (digits ++ rest)) (.number (String.ofList digits)) rest := by
  have read := unsignedNumber_append numeral ends
  obtain ⟨nonempty, all, _⟩ := numeral
  obtain ⟨c, more, rfl⟩ := List.exists_cons_of_ne_nil nonempty
  have digit := all c List.mem_cons_self
  have literal : numberLiteral (c :: more ++ rest) = some (c :: more, rest) := by
    unfold numberLiteral
    split
    · next equal =>
        cases equal
        cases digit
    · exact read
  have shorter : rest.length < (c :: more ++ rest).length := by
    rw [List.length_append, List.length_cons]
    omega
  have number : numberValue (c :: more ++ rest) =
      some ⟨.number (String.ofList (c :: more)), rest, shorter⟩ := by
    simp only [numberValue, literal, dif_pos shorter]
  refine ⟨shorter, ?_⟩
  rw [← number]
  show value (c :: (more ++ rest)) = numberValue (c :: (more ++ rest))
  rw [value]
  · exact List.cons_ne_nil _ _
  all_goals
    intro _ equal
    cases equal
    cases digit

theorem reads_keyword
    {name : String}
    (json : Json)
    (rest : List Char)
    (nonempty : name.toList ≠ []) :
    Reads (keyword name json (name.toList ++ rest)) json rest := by
  have positive := List.length_pos_iff.mpr nonempty
  have shorter : rest.length < (name.toList ++ rest).length := by
    rw [List.length_append]
    omega
  have dropped : (name.toList ++ rest).drop name.toList.length = rest := List.drop_left
  refine ⟨shorter, ?_⟩
  unfold keyword
  rw [if_pos (by simp)]
  simp only [dropped, dif_pos shorter]

/-! ### Blanks -/

theorem skipSpace_append
    {gap text : List Char}
    (blank : IsGap gap)
    (begins : ∀ c ∈ text.head?, isSpace c = false) :
    skipSpace (gap ++ text) = text := by
  rw [skipSpace, List.dropWhile_append_of_pos blank]
  cases text with
  | nil => rfl
  | cons c rest => simp [begins c rfl]

/-- A number ends before blanks and a mark. -/
theorem endsNumber_append
    {gap : List Char}
    (blank : IsGap gap)
    (mark : Char)
    (rest : List Char)
    (plain : mark.isDigit = false ∧ mark ≠ '.' ∧ mark ≠ 'e' ∧ mark ≠ 'E') :
    EndsNumber (gap ++ mark :: rest) := by
  intro c first
  cases gap with
  | nil =>
      cases first
      exact plain
  | cons space more =>
      cases first
      have isBlank := blank c List.mem_cons_self
      simp only [isSpace, Bool.or_eq_true, beq_iff_eq] at isBlank
      rcases isBlank with ((rfl | rfl) | rfl) | rfl <;> decide

/-- A spelling begins with a character of the value. -/
theorem Spells.exists_head
    {json : Json}
    {text : List Char}
    (spelled : Spells json text) :
    ∃ c rest, text = c :: rest ∧ isSpace c = false ∧ c ≠ ']' := by
  cases spelled with
  | null => exact ⟨'n', _, rfl, by decide, by decide⟩
  | yes => exact ⟨'t', _, rfl, by decide, by decide⟩
  | no => exact ⟨'f', _, rfl, by decide, by decide⟩
  | numeral numeral =>
      obtain ⟨c, more, rfl⟩ := List.exists_cons_of_ne_nil numeral.nonempty
      have digit := numeral.all c List.mem_cons_self
      refine ⟨c, more, rfl, ?_, ?_⟩
      · rw [Bool.eq_false_iff]
        intro blank
        simp only [isSpace, Bool.or_eq_true, beq_iff_eq] at blank
        rcases blank with ((rfl | rfl) | rfl) | rfl <;> cases digit
      · rintro rfl
        cases digit
  | string text =>
      have literal := stringLiteral_append text []
      rw [List.append_nil] at literal
      exact ⟨'"', _, literal, by decide, by decide⟩
  | emptyArray => exact ⟨'[', _, rfl, by decide, by decide⟩
  | array => exact ⟨'[', _, rfl, by decide, by decide⟩
  | emptyObject => exact ⟨'\x7b', _, rfl, by decide, by decide⟩
  | object => exact ⟨'\x7b', _, rfl, by decide, by decide⟩

/-- Blanks in front of a spelling are skipped. -/
theorem Spells.skipSpace_gap
    {json : Json}
    {gap text : List Char}
    (spelled : Spells json text)
    (blank : IsGap gap)
    (rest : List Char) :
    skipSpace (gap ++ (text ++ rest)) = text ++ rest := by
  obtain ⟨c, more, rfl, visible, _⟩ := spelled.exists_head
  exact skipSpace_append blank fun first same => by
    cases same
    exact visible

/-! ### Arrays and objects -/

theorem reads_value_array
    {rest after : List Char}
    {values : List Json}
    (opened : (skipSpace rest).head? ≠ some ']')
    (read : Reads (items (skipSpace rest)) values after) :
    Reads (value ('[' :: rest)) (.array values) after := by
  obtain ⟨shorter, read⟩ := read
  rw [value]
  split
  · next closed =>
      rw [closed] at opened
      exact absurd rfl opened
  · simp only [read]
    exact ⟨_, rfl⟩

theorem reads_value_object
    {rest after : List Char}
    {pairs : List (Option String × Json)}
    (opened : (skipSpace rest).head? ≠ some '\x7d')
    (read : Reads (members (skipSpace rest)) pairs after) :
    Reads (value ('\x7b' :: rest)) (.object pairs) after := by
  obtain ⟨shorter, read⟩ := read
  rw [value]
  split
  · next closed =>
      rw [closed] at opened
      exact absurd rfl opened
  · simp only [read]
    exact ⟨_, rfl⟩

theorem reads_items_last
    {input rest after : List Char}
    {item : Json}
    (first : Reads (value input) item rest)
    (closed : skipSpace rest = ']' :: after) :
    Reads (items input) [item] after := by
  obtain ⟨shorter, first⟩ := first
  rw [items]
  simp only [first]
  split
  · next separated =>
      rw [closed] at separated
      cases separated
  · next ended =>
      cases closed.symm.trans ended
      exact ⟨_, rfl⟩
  · next other =>
      exact absurd closed (other after)

theorem reads_items_more
    {input rest after final : List Char}
    {item : Json}
    {more : List Json}
    (first : Reads (value input) item rest)
    (separated : skipSpace rest = ',' :: after)
    (others : Reads (items (skipSpace after)) more final) :
    Reads (items input) (item :: more) final := by
  obtain ⟨shorter, first⟩ := first
  obtain ⟨fewer, others⟩ := others
  rw [items]
  simp only [first]
  split
  · next known =>
      cases separated.symm.trans known
      simp only [others]
      exact ⟨_, rfl⟩
  · next ended =>
      rw [separated] at ended
      cases ended
  · next other _ =>
      exact absurd separated (other after)

theorem reads_members_last
    {input named rest after final : List Char}
    {name : Option String}
    {item : Json}
    (quoted : Reads (stringBody input) name named)
    (colon : skipSpace named = ':' :: rest)
    (first : Reads (value (skipSpace rest)) item after)
    (closed : skipSpace after = '\x7d' :: final) :
    Reads (members ('"' :: input)) [(name, item)] final := by
  obtain ⟨shorter, quoted⟩ := quoted
  obtain ⟨fewer, first⟩ := first
  rw [members]
  simp only [quoted]
  split
  · next known =>
      cases colon.symm.trans known
      simp only [first]
      split
      · next separated =>
          rw [closed] at separated
          cases separated
      · next ended =>
          cases closed.symm.trans ended
          exact ⟨_, rfl⟩
      · next other =>
          exact absurd closed (other final)
  · next other => exact absurd colon (other rest)

theorem reads_members_more
    {input named rest after others final : List Char}
    {name : Option String}
    {item : Json}
    {more : List (Option String × Json)}
    (quoted : Reads (stringBody input) name named)
    (colon : skipSpace named = ':' :: rest)
    (first : Reads (value (skipSpace rest)) item after)
    (separated : skipSpace after = ',' :: others)
    (onward : Reads (members (skipSpace others)) more final) :
    Reads (members ('"' :: input)) ((name, item) :: more) final := by
  obtain ⟨shorter, quoted⟩ := quoted
  obtain ⟨fewer, first⟩ := first
  obtain ⟨least, onward⟩ := onward
  rw [members]
  simp only [quoted]
  split
  · next known =>
      cases colon.symm.trans known
      simp only [first]
      split
      · next known =>
          cases separated.symm.trans known
          simp only [onward]
          exact ⟨_, rfl⟩
      · next ended =>
          rw [separated] at ended
          cases ended
      · next other _ =>
          exact absurd separated (other others)
  · next other => exact absurd colon (other rest)

/-! ### Reading what is spelled -/

theorem isGap_nil : IsGap [] := List.forall_mem_nil _

theorem endsNumber_comma
    (rest : List Char) :
    EndsNumber (',' :: rest) :=
  endsNumber_append isGap_nil ',' rest (by decide)

/-- The items of an array do not begin with the bracket behind them. -/
theorem SpellsItems.head?_ne
    {values : List Json}
    {text : List Char}
    (spelled : SpellsItems values text)
    (rest : List Char) :
    (skipSpace (text ++ rest)).head? ≠ some ']' := by
  cases spelled with
  | last before spelled behind =>
      obtain ⟨c, more, first, _, noBracket⟩ := spelled.exists_head
      rw [List.append_assoc, List.append_assoc, spelled.skipSpace_gap before, first]
      simpa using noBracket
  | more before spelled onward =>
      obtain ⟨c, more, first, _, noBracket⟩ := spelled.exists_head
      rw [List.append_assoc, List.append_assoc, spelled.skipSpace_gap before, first]
      simpa using noBracket

/-- The members of an object begin with a quote. -/
theorem SpellsMembers.head?_ne
    {pairs : List (Option String × Json)}
    {text : List Char}
    (spelled : SpellsMembers pairs text)
    (rest : List Char) :
    (skipSpace (text ++ rest)).head? ≠ some '\x7d' := by
  cases spelled with
  | last name before between spelled behind =>
      rw [List.append_assoc, List.append_assoc, (Spells.string name).skipSpace_gap before,
        stringLiteral_append]
      simp
  | more name before between spelled onward =>
      rw [List.append_assoc, List.append_assoc, (Spells.string name).skipSpace_gap before,
        stringLiteral_append]
      simp

mutual

/-- A spelling is read as its value if no number goes on behind it. -/
theorem Spells.reads
    {json : Json}
    {text rest : List Char}
    (spelled : Spells json text)
    (ends : EndsNumber rest) :
    Reads (value (text ++ rest)) json rest := by
  cases spelled with
  | null =>
      show Reads (value ('n' :: ('u' :: 'l' :: 'l' :: rest))) .null rest
      rw [value]
      exact reads_keyword .null rest (by decide)
  | yes =>
      show Reads (value ('t' :: ('r' :: 'u' :: 'e' :: rest))) (.boolean true) rest
      rw [value]
      exact reads_keyword (.boolean true) rest (by decide)
  | no =>
      show Reads (value ('f' :: ('a' :: 'l' :: 's' :: 'e' :: rest))) (.boolean false) rest
      rw [value]
      exact reads_keyword (.boolean false) rest (by decide)
  | numeral numeral => exact reads_value_numeral numeral ends
  | string text => exact reads_value_string text rest
  | emptyArray =>
      have closed : skipSpace (']' :: rest) = ']' :: rest := rfl
      show Reads (value ('[' :: (']' :: rest))) (.array []) rest
      rw [value]
      split
      · next opened =>
          cases closed.symm.trans opened
          exact ⟨_, rfl⟩
      · next other => exact absurd closed (other rest)
  | array spelled => exact reads_value_array (spelled.head?_ne rest) (spelled.reads rest)
  | emptyObject =>
      have closed : skipSpace ('\x7d' :: rest) = '\x7d' :: rest := rfl
      show Reads (value ('\x7b' :: ('\x7d' :: rest))) (.object []) rest
      rw [value]
      split
      · next opened =>
          cases closed.symm.trans opened
          exact ⟨_, rfl⟩
      · next other => exact absurd closed (other rest)
  | object spelled => exact reads_value_object (spelled.head?_ne rest) (spelled.reads rest)

theorem SpellsItems.reads
    {values : List Json}
    {text : List Char}
    (spelled : SpellsItems values text)
    (rest : List Char) :
    Reads (items (skipSpace (text ++ rest))) values rest := by
  cases spelled with
  | @last gap text close item before spelled behind =>
      have shape : gap ++ (text ++ (close ++ [']'])) ++ rest =
          gap ++ (text ++ (close ++ ']' :: rest)) := by simp
      rw [shape, spelled.skipSpace_gap before]
      exact reads_items_last (spelled.reads (endsNumber_append behind ']' rest (by decide)))
        (skipSpace_append behind (by simp [isSpace]))
  | @more gap text others item items before spelled onward =>
      have shape : gap ++ (text ++ ',' :: others) ++ rest =
          gap ++ (text ++ ',' :: (others ++ rest)) := by simp
      rw [shape, spelled.skipSpace_gap before]
      exact reads_items_more (spelled.reads (endsNumber_comma _)) rfl (onward.reads rest)

theorem SpellsMembers.reads
    {pairs : List (Option String × Json)}
    {text : List Char}
    (spelled : SpellsMembers pairs text)
    (rest : List Char) :
    Reads (members (skipSpace (text ++ rest))) pairs rest := by
  cases spelled with
  | @last gap middle text close item name before between spelled behind =>
      have shape : gap ++ ((stringLiteral name).toList ++
            ':' :: (middle ++ (text ++ (close ++ ['\x7d'])))) ++ rest =
          gap ++ ((stringLiteral name).toList ++
            ':' :: (middle ++ (text ++ (close ++ '\x7d' :: rest)))) := by simp
      have first := spelled.reads (endsNumber_append behind '\x7d' rest (by decide))
      rw [← spelled.skipSpace_gap between] at first
      rw [shape, (Spells.string name).skipSpace_gap before, stringLiteral_append]
      exact reads_members_last (reads_stringBody name _) rfl first
        (skipSpace_append behind (by simp [isSpace]))
  | @more gap middle text others item members name before between spelled onward =>
      have shape : gap ++ ((stringLiteral name).toList ++
            ':' :: (middle ++ (text ++ ',' :: others))) ++ rest =
          gap ++ ((stringLiteral name).toList ++
            ':' :: (middle ++ (text ++ ',' :: (others ++ rest)))) := by simp
      have first := spelled.reads (endsNumber_comma (others ++ rest))
      rw [← spelled.skipSpace_gap between] at first
      rw [shape, (Spells.string name).skipSpace_gap before, stringLiteral_append]
      exact reads_members_more (reads_stringBody name _) rfl first rfl (onward.reads rest)

end

/-- A document that spells a value is read as this value. -/
theorem read?_of_spells
    {json : Json}
    {document : String}
    (spelled : Spells json document.toList) :
    read? document = some json := by
  have ends : EndsNumber [] := fun _ first => by cases first
  have read := spelled.reads ends
  have begins := spelled.skipSpace_gap isGap_nil []
  rw [List.append_nil] at read begins
  rw [← show skipSpace document.toList = document.toList from begins] at read
  obtain ⟨shorter, read⟩ := read
  unfold read?
  simp only [read]
  rfl

/-! ### Values on one line -/

theorem spells_compactItems
    {items : List Json}
    (nonempty : items ≠ [])
    (each : ∀ item ∈ items, Spells item item.compact.toList) :
    SpellsItems items ((compactItems items).toList ++ [']']) := by
  induction items with
  | nil => exact absurd rfl nonempty
  | cons item rest inductionHypothesis =>
      obtain ⟨first, others⟩ := List.forall_mem_cons.mp each
      cases rest with
      | nil => exact .last isGap_nil first isGap_nil
      | cons next more =>
          have onward := inductionHypothesis (List.cons_ne_nil _ _) others
          have text : (compactItems (item :: next :: more)).toList ++ [']'] =
              item.compact.toList ++ ',' :: ((compactItems (next :: more)).toList ++ [']']) := by
            simp [compactItems]
          rw [text]
          exact .more isGap_nil first onward

/-- An array on one line is spelled if its items are. -/
theorem spells_compact_array
    {items : List Json}
    (each : ∀ item ∈ items, Spells item item.compact.toList) :
    Spells (.array items) (Json.array items).compact.toList := by
  have text : (Json.array items).compact.toList =
      '[' :: ((compactItems items).toList ++ [']']) := by
    simp [compact]
  rw [text]
  by_cases empty : items = []
  · subst empty
    exact .emptyArray
  · exact .array (spells_compactItems empty each)

theorem spells_compactMembers
    {members : List (String × Json)}
    (nonempty : members ≠ [])
    (each : ∀ member ∈ members, Spells member.2 member.2.compact.toList) :
    SpellsMembers (members.map fun member => (some member.1, member.2))
      ((compactMembers (members.map fun member => (some member.1, member.2))).toList ++
        ['\x7d']) := by
  induction members with
  | nil => exact absurd rfl nonempty
  | cons member rest inductionHypothesis =>
      obtain ⟨first, others⟩ := List.forall_mem_cons.mp each
      cases rest with
      | nil =>
          have text : (compactMembers [(some member.1, member.2)]).toList ++ ['\x7d'] =
              (stringLiteral member.1).toList ++ ':' :: (member.2.compact.toList ++ ['\x7d']) := by
            simp [compactMembers]
          have spelled := SpellsMembers.last member.1 isGap_nil isGap_nil first isGap_nil
          rw [List.map_singleton, text]
          simpa only [List.nil_append] using spelled
      | cons next more =>
          have onward := inductionHypothesis (List.cons_ne_nil _ _) others
          rw [List.map_cons] at onward
          have text : (compactMembers ((some member.1, member.2) :: (some next.1, next.2) ::
                more.map fun member => (some member.1, member.2))).toList ++ ['\x7d'] =
              (stringLiteral member.1).toList ++ ':' :: (member.2.compact.toList ++
                ',' :: ((compactMembers ((some next.1, next.2) ::
                  more.map fun member => (some member.1, member.2))).toList ++ ['\x7d'])) := by
            simp [compactMembers]
          have spelled := SpellsMembers.more member.1 isGap_nil isGap_nil first onward
          rw [List.map_cons, List.map_cons, text]
          simpa only [List.nil_append] using spelled

/-- An object on one line is spelled if the values of its members are. -/
theorem spells_compact_ofMembers
    {members : List (String × Json)}
    (each : ∀ member ∈ members, Spells member.2 member.2.compact.toList) :
    Spells (.ofMembers members) (Json.ofMembers members).compact.toList := by
  have text : (Json.ofMembers members).compact.toList =
      '\x7b' :: ((compactMembers (members.map fun member => (some member.1, member.2))).toList ++
        ['\x7d']) := by
    simp [ofMembers, compact]
  rw [text]
  by_cases empty : members = []
  · subst empty
    exact .emptyObject
  · exact .object (spells_compactMembers empty each)

end Json
end MessageExpansion
