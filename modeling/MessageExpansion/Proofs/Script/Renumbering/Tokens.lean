import MessageExpansion.Proofs.Script.Renumbering.Literals
import MessageExpansion.Script.Parser

/-!
# Tokens of renumbered texts

Renumbered texts have the same tokens, except that a name that ends with a number is another one.
Such names have an underscore in them and no keyword has, so they are never keywords.
-/

namespace MessageExpansion
namespace Script

/-! ### Places behind characters -/

theorem rest_skip
    (place : Place)
    (count : Nat) :
    (place.skip count).rest = place.rest.drop count :=
  rfl

/-- Places behind the same characters agree if no number begins there. -/
theorem Place.Agree.skip
    {first second : Place}
    (agree : first.Agree second)
    {front : List Char}
    (starts : front <+: first.rest)
    (plain : '_' ∉ front) :
    (first.skip front.length).Agree (second.skip front.length) := by
  obtain ⟨rest, equal⟩ := starts
  rw [Place.Agree, ← equal] at agree
  obtain ⟨others, otherEqual, onward⟩ := agree.exists_eq_append front plain
  rw [Place.Agree, rest_skip, rest_skip, ← equal, otherEqual, List.drop_left, List.drop_left]
  exact onward

/-! ### Numbers -/

theorem uniform_isHexPart : Renumbered.Uniform isHexPart := Renumbered.uniform_of_digits (by decide)

theorem uniform_isDecimalPart : Renumbered.Uniform isDecimalPart :=
  Renumbered.uniform_of_digits (by decide)

section

variable {first second : Place}

/-- Places behind one character agree if it is no underscore. -/
theorem Place.Agree.skip_one
    (agree : first.Agree second)
    {c : Char}
    (starts : first.rest.head? = some c)
    (plain : c ≠ '_') :
    (first.skip 1).Agree (second.skip 1) := by
  obtain ⟨rest, equal⟩ := List.head?_eq_some_iff.mp starts
  have begins : [c] <+: first.rest := ⟨rest, equal.symm⟩
  exact agree.skip begins (by simpa using plain.symm)

theorem skipBigMark_eq
    (place : Place) :
    skipBigMark place = if place.rest.head? = some 'n' then place.skip 1 else place := by
  unfold skipBigMark
  split
  · next starts => rw [starts]; rfl
  · next noMark =>
      refine (if_neg fun starts => ?_).symm
      exact (List.head?_eq_some_iff.mp starts).elim noMark

theorem skipFraction_eq
    (place : Place) :
    skipFraction place =
      if place.rest.head? = some '.' then (place.skip 1).skipWhile isDecimalPart else place := by
  unfold skipFraction
  split
  · next starts => rw [starts]; rfl
  · next noMark =>
      refine (if_neg fun starts => ?_).symm
      exact (List.head?_eq_some_iff.mp starts).elim noMark

theorem agree_skipBigMark
    (agree : first.Agree second) :
    (skipBigMark first).Agree (skipBigMark second) := by
  rw [skipBigMark_eq, skipBigMark_eq, agree.head?_eq]
  split
  · next mark => exact agree.skip_one (agree.head?_eq.trans mark) (by decide)
  · exact agree

theorem agree_skipFraction
    (agree : first.Agree second) :
    (skipFraction first).Agree (skipFraction second) := by
  rw [skipFraction_eq, skipFraction_eq, agree.head?_eq]
  split
  · next dot =>
      exact (agree.skip_one (agree.head?_eq.trans dot) (by decide)).skipWhile uniform_isDecimalPart
  · exact agree

theorem agree_skipExponent
    (agree : first.Agree second) :
    (skipExponent first).Agree (skipExponent second) := by
  obtain ⟨offset, text⟩ := first
  obtain ⟨other, otherText⟩ := second
  have renumbered : Renumbered text otherText := agree
  have noDigit : '_'.isDigit = false := by decide
  unfold skipExponent
  cases renumbered with
  | nil => exact agree
  | number => grind
  | @cons e text otherText onward =>
      cases onward with
      | nil => exact agree
      | number => grind
      | @cons sign text otherText onward =>
          have behindMark : (Place.skip ⟨offset, e :: sign :: text⟩ 1).Agree
              (Place.skip ⟨other, e :: sign :: otherText⟩ 1) := .cons sign onward
          have behindSign : (Place.skip ⟨offset, e :: sign :: text⟩ 2).Agree
              (Place.skip ⟨other, e :: sign :: otherText⟩ 2) := onward
          simp only [onward.head?_eq]
          split
          · split
            · exact behindMark.skipWhile uniform_isDecimalPart
            · split
              · exact behindSign.skipWhile uniform_isDecimalPart
              · exact agree
          · exact agree

theorem agree_skipNumber
    (agree : first.Agree second) :
    (skipNumber first).Agree (skipNumber second) := by
  have decimal := agree_skipBigMark (agree_skipExponent (agree_skipFraction
    (agree.skipWhile uniform_isDecimalPart)))
  obtain ⟨offset, text⟩ := first
  obtain ⟨other, otherText⟩ := second
  have renumbered : Renumbered text otherText := agree
  unfold skipNumber
  cases renumbered with
  | nil => exact decimal
  | number => exact decimal
  | @cons zero text otherText onward =>
      cases onward with
      | nil => grind
      | number => grind
      | @cons base text otherText onward =>
          have behindBase : (Place.skip ⟨offset, zero :: base :: text⟩ 2).Agree
              (Place.skip ⟨other, zero :: base :: otherText⟩ 2) := onward
          have based := agree_skipBigMark (behindBase.skipWhile uniform_isHexPart)
          grind

/-- A number is followed by the same character in both texts. -/
theorem endsNumber_eq
    (agree : first.Agree second) :
    endsNumber first.rest = endsNumber second.rest := by
  have heads (text : List Char) : endsNumber text = (text.head?.map fun c =>
      !Text.isIdentifierStart c && c != '\\' && !c.isDigit).getD true := by
    cases text <;> rfl
  rw [heads, heads, agree.head?_eq]

/-! ### Punctuators -/

/-- No punctuator has an underscore. -/
theorem plain_of_mem_table
    {entry : List Char × Punctuator}
    (present : entry ∈ Punctuator.table) :
    '_' ∉ entry.1 := by
  have all : ∀ entry ∈ Punctuator.table, '_' ∉ entry.1 := by decide
  exact all entry present

/-- What has no underscore stands at the front of both texts or of none. -/
theorem prefix_iff
    {front text otherText : List Char}
    (renumbered : Renumbered text otherText)
    (plain : '_' ∉ front) :
    front <+: text ↔ front <+: otherText := by
  have onward {text otherText : List Char} (renumbered : Renumbered text otherText)
      (starts : front <+: text) : front <+: otherText := by
    obtain ⟨rest, rfl⟩ := starts
    obtain ⟨others, rfl, -⟩ := renumbered.exists_eq_append front plain
    exact List.prefix_append front others
  exact ⟨onward renumbered, onward renumbered.symm⟩

theorem punctuatorAt?_eq
    {text otherText : List Char}
    (renumbered : Renumbered text otherText) :
    punctuatorAt? text = punctuatorAt? otherText := by
  have table : (Punctuator.table.find? fun entry => entry.1.isPrefixOf text) =
      Punctuator.table.find? fun entry => entry.1.isPrefixOf otherText := by
    rw [← List.head?_filter, ← List.head?_filter, List.filter_congr]
    intro entry present
    rw [Bool.eq_iff_iff, List.isPrefixOf_iff_prefix, List.isPrefixOf_iff_prefix]
    exact prefix_iff renumbered (plain_of_mem_table present)
  unfold punctuatorAt?
  cases renumbered with
  | nil => rfl
  | number => exact table
  | cons c onward =>
      cases onward with
      | nil => rfl
      | number => grind
      | @cons d text otherText onward =>
          have heads := onward.head?_eq
          cases onward <;> grind

/-- The text begins with the spelling of its punctuator. -/
theorem prefix_of_punctuatorAt?
    {text : List Char}
    {entry : List Char × Punctuator}
    (found : punctuatorAt? text = some entry) :
    entry.1 <+: text ∧ '_' ∉ entry.1 := by
  unfold punctuatorAt? at found
  split at found
  · split at found <;> cases found
    · exact ⟨⟨_, rfl⟩, by decide⟩
    · exact ⟨⟨_, rfl⟩, by decide⟩
  · exact ⟨List.isPrefixOf_iff_prefix.mp (List.find?_some found :),
      plain_of_mem_table (List.mem_of_find?_eq_some found)⟩

/-! ### Kinds of tokens -/

end

/-- What tokens of renumbered texts have in common. -/
inductive TokenKind.Agree : TokenKind → TokenKind → Prop
  | same (kind : TokenKind) : Agree kind kind
  | names {first second : String} (inFirst : '_' ∈ first.toList) (inSecond : '_' ∈ second.toList)
      (escaped : Bool) : Agree (.name first escaped) (.name second escaped)
  | strings (first second : Option String) : Agree (.string first) (.string second)

theorem TokenKind.Agree.punctuator_iff
    {first second : TokenKind}
    (agree : first.Agree second)
    (which : Punctuator) :
    first = .punctuator which ↔ second = .punctuator which := by
  cases agree <;> simp

/-- What two readers of tokens found. -/
structure TokensAgree (first second : TokenKind × Place) : Prop where
  kind : first.1.Agree second.1
  stop : first.2.Agree second.2

section

variable {first second : Place}

/-- No name begins at the place. -/
theorem agree_skip_of_readName
    (agree : first.Agree second)
    (noName : ∀ name, readName true none first.offset first.rest = some name → name.chars = []) :
    (first.skip 1).Agree (second.skip 1) := by
  obtain ⟨offset, text⟩ := first
  obtain ⟨other, otherText⟩ := second
  have renumbered : Renumbered text otherText := agree
  cases renumbered with
  | nil => exact .nil
  | cons c onward => exact onward
  | number areDigits othersAreDigits onward =>
      obtain ⟨behind, read⟩ := exists_readName_number areDigits true offset _
      exact absurd (noName _ read) (List.cons_ne_nil _ _)

/-- A name without characters ends where it begins, and no escape is read before it. -/
theorem stop_of_readName
    {first : Bool}
    {braced : Option Nat}
    {offset : Nat}
    {text : List Char}
    {name : NameReading}
    (read : readName first braced offset text = some name)
    (empty : name.chars = []) :
    braced = none ∧ name.stop = ⟨offset, text⟩ := by
  have begun {c : Char} {escaped : Bool} {rest : Option NameReading}
      (read : rest.map (.cons c escaped) = some name) : False := by
    obtain ⟨later, -, rfl⟩ := Option.map_eq_some_iff.mp read
    exact absurd empty (List.cons_ne_nil _ _)
  fun_induction readName first braced offset text <;> grind

theorem NamesAgree.eq_nil_iff
    {first second : List Char}
    (agree : NamesAgree first second) :
    first = [] ↔ second = [] := by
  rcases agree with rfl | ⟨inFirst, inSecond⟩
  · exact Iff.rfl
  · exact iff_of_false (List.ne_nil_of_mem inFirst) (List.ne_nil_of_mem inSecond)

theorem NamesAgree.tokens
    {first second : List Char}
    (agree : NamesAgree first second)
    (escaped : Bool) :
    TokenKind.Agree (.name (.ofList first) escaped) (.name (.ofList second) escaped) := by
  rcases agree with rfl | ⟨inFirst, inSecond⟩
  · exact .same _
  · exact .names (by simpa using inFirst) (by simpa using inSecond) escaped

theorem agree_nameToken
    (agree : first.Agree second) :
    TokensAgree (nameToken first) (nameToken second) := by
  have names := renumbered_readName agree true none first.offset second.offset
  have skipped := agree_skip_of_readName agree
  unfold nameToken
  rcases optionRel_cases names with ⟨read, otherRead⟩ | ⟨name, otherName, read, otherRead, alike⟩ <;>
    simp only [read, otherRead]
  · exact ⟨.same _, skipped (by simp [read])⟩
  · obtain ⟨chars, escaped, stop⟩ := name
    obtain ⟨otherChars, otherEscaped, otherStop⟩ := otherName
    obtain ⟨sameChars, sameEscaped, sameStop⟩ := alike
    obtain rfl : escaped = otherEscaped := sameEscaped
    cases chars with
    | nil =>
        obtain rfl := sameChars.eq_nil_iff.mp rfl
        obtain ⟨-, stays⟩ := stop_of_readName read rfl
        obtain ⟨-, otherStays⟩ := stop_of_readName otherRead rfl
        simp only at stays otherStays
        rw [stays, otherStays]
        exact ⟨.same _, skipped (by simp [read])⟩
    | cons c chars =>
        cases otherChars with
        | nil => exact absurd (sameChars.eq_nil_iff.mpr rfl) (List.cons_ne_nil _ _)
        | cons d otherChars => exact ⟨sameChars.tokens escaped, sameStop⟩

theorem agree_tokenAt
    (agree : first.Agree second) :
    TokensAgree (tokenAt first) (tokenAt second) := by
  obtain ⟨offset, text⟩ := first
  obtain ⟨other, otherText⟩ := second
  have renumbered : Renumbered text otherText := agree
  have named := agree_nameToken agree
  have numbered := agree_skipNumber agree
  unfold tokenAt
  cases renumbered with
  | nil => exact ⟨.same _, agree⟩
  | number =>
      have underscore : '_'.isDigit = false ∧ Text.isIdentifierStart '_' = true := by decide
      simpa [underscore] using named
  | @cons c text otherText onward =>
      have behind : (Place.skip ⟨offset, c :: text⟩ 1).Agree (Place.skip ⟨other, c :: otherText⟩ 1) :=
        onward
      simp only [onward.head?_eq]
      split
      · rw [endsNumber_eq numbered]
        split <;> exact ⟨.same _, numbered⟩
      · split
        · next quote =>
            have separate : c ≠ '_' ∧ c.isDigit = false := by
              rcases quote with rfl | rfl <;> decide
            have literals := renumbered_readLiteral separate onward none (offset + 1) (other + 1)
            rcases optionRel_cases literals with
              ⟨read, otherRead⟩ | ⟨literal, otherLiteral, read, otherRead, alike⟩ <;>
              simp only [read, otherRead]
            · exact ⟨.same _, behind⟩
            · rw [alike.malformed]
              split
              · exact ⟨.same _, alike.stop⟩
              · exact ⟨.strings _ _, alike.stop⟩
        · split
          · have hidden := agree_nameToken behind
            generalize nameToken (Place.skip ⟨offset, c :: text⟩ 1) = token,
              nameToken (Place.skip ⟨other, c :: otherText⟩ 1) = otherToken at hidden
            obtain ⟨kind, stop⟩ := token
            obtain ⟨otherKind, otherStop⟩ := otherToken
            obtain ⟨kinds, stops⟩ := hidden
            cases kinds with
            | same => cases kind <;> exact ⟨.same _, stops⟩
            | names | strings => exact ⟨.same _, stops⟩
          · split
            · exact named
            · rw [punctuatorAt?_eq (.cons c onward)]
              split
              · next found =>
                  have starts := prefix_of_punctuatorAt?
                    ((punctuatorAt?_eq (.cons c onward)).trans found)
                  exact ⟨.same _, agree.skip starts.1 starts.2⟩
              · exact ⟨.same _, behind⟩

end

/-! ### Cursors -/

/-- Cursors at tokens that renumbered texts have in common. -/
structure Cursor.Agree (first second : Cursor) : Prop where
  kind : first.kind.Agree second.kind
  newline : first.newline = second.newline
  start : first.start.Agree second.start
  stop : first.stop.Agree second.stop

theorem agree_after
    {first second : Place}
    (agree : first.Agree second) :
    (Cursor.after first).Agree (Cursor.after second) := by
  have gaps := renumbered_skipGap agree .blank false first.offset second.offset
  unfold Cursor.after
  rcases optionRel_cases gaps with ⟨read, otherRead⟩ | ⟨gap, otherGap, read, otherRead, same⟩ <;>
    simp only [read, otherRead]
  · refine ⟨.same _, rfl, agree, ?_⟩
    rw [Place.Agree, rest_skip, rest_skip, List.drop_length, List.drop_length]
    exact .nil
  · have tokens := agree_tokenAt same.2
    exact ⟨tokens.kind, same.1, same.2, tokens.stop⟩

/-- The place behind a line that names an interpreter, if there is one. -/
def behindInterpreter (place : Place) : Place :=
  if ['#', '!'] <+: place.rest then place.skipWhile fun c => !Text.isLineTerminator c else place

theorem agree_behindInterpreter
    {first second : Place}
    (agree : first.Agree second) :
    (behindInterpreter first).Agree (behindInterpreter second) := by
  have uniform : Renumbered.Uniform fun c => !Text.isLineTerminator c :=
    Renumbered.uniform_of_digits (by decide)
  simp only [behindInterpreter, prefix_iff agree (show '_' ∉ ['#', '!'] by decide)]
  split
  · exact agree.skipWhile uniform
  · exact agree

theorem firstPlace_eq
    (text : List Char) :
    firstPlace text =
      behindInterpreter (if text.head? = some '\ufeff' then Place.skip ⟨0, text⟩ 1 else ⟨0, text⟩) := by
  unfold firstPlace behindInterpreter
  by_cases marked : text.head? = some '\ufeff'
  · obtain ⟨rest, rfl⟩ := List.head?_eq_some_iff.mp marked
    simp only [if_pos marked]
    split
    · next starts => rw [if_pos ⟨_, starts.symm⟩]
    · next noName => rw [if_neg fun ⟨_, starts⟩ => noName _ starts.symm]
  · -- Without the mark, the text is read from its beginning.
    have unmarked : ∀ rest, text = '\ufeff' :: rest → False := fun rest begins =>
      marked (begins ▸ rfl)
    simp only [if_neg marked]
    split
    · exact (if_pos ⟨_, rfl⟩).symm
    · next noName => rw [if_neg fun ⟨_, starts⟩ => noName _ starts.symm]

/-- The first tokens stand behind the same marks. -/
theorem agree_firstPlace
    {text otherText : List Char}
    (renumbered : Renumbered text otherText) :
    (firstPlace text).Agree (firstPlace otherText) := by
  rw [firstPlace_eq, firstPlace_eq, renumbered.head?_eq]
  apply agree_behindInterpreter
  split
  · next starts =>
      have places : Place.Agree ⟨0, text⟩ ⟨0, otherText⟩ := renumbered
      exact places.skip_one (renumbered.head?_eq.trans starts) (by decide)
  · exact renumbered

end Script
end MessageExpansion
