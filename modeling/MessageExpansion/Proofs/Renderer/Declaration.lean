import MessageExpansion.Renderer.CompiledPattern
import MessageExpansion.Proofs.Renderer.Grouping
import MessageExpansion.Proofs.Renderer.Translation

/-!
# Declarations of renderers

The text of a renderer is a comment that takes up a line and the declaration of a function.  No
string that flows into a renderer ends one of its literals.  Of the comment, only the locale can end
the line, as a literal may contain the separators of lines and paragraphs.
-/

namespace MessageExpansion

open Script (Declares Derives IsName IsNameText Lexeme Spells Term rendererLexemes rendererText)
open Text (isLineTerminator stringLiteral)

/-! ### Names of functions -/

theorem isLineTerminator_eq_false_of_isIdentifierPart
    {c : Char}
    (part : Text.isIdentifierPart c = true) :
    isLineTerminator c = false := by
  have terminators : ∀ c ∈ ['\n', '\r', '\u2028', '\u2029'], Text.isIdentifierPart c = false :=
    Script.forall_mem_of_all (by decide +kernel)
  cases ends : isLineTerminator c with
  | false => rfl
  | true =>
      have plain := terminators c (by simpa [isLineTerminator, or_assoc] using ends)
      rw [part] at plain
      cases plain

theorem toList_generatedName
    (host : String)
    (index : Nat) :
    (generatedName host index).toList =
      '_' :: '_' :: (host.toList.map (fun c => if Text.isNameChar c then c else '_') ++
        '_' :: (toString index).toList) := by
  simp [generatedName]

/-- A function that stands for calls of a variable has a name. -/
theorem isName_generatedName
    {host : String}
    (isNameText : IsNameText host.toList)
    (index : Nat) :
    IsName (generatedName host index).toList := by
  refine ⟨'_', _, toList_generatedName host index, by decide, ?_⟩
  have underscore : Text.isIdentifierPart '_' = true := by decide
  simp only [List.forall_mem_cons, List.forall_mem_append, List.forall_mem_map]
  refine ⟨underscore, fun c present => ?_, underscore, fun d present => ?_⟩
  · split
    · exact isNameText c present
    · exact underscore
  · exact Text.forall_isDigit (Text.isIdentifierPart · = true) (by decide)
      (Text.isDigit_of_mem_toString present)

theorem generatedName_not_reserved
    (host : String)
    (index : Nat) :
    generatedName host index ∉ Script.reservedWords := by
  have words : ∀ word ∈ Script.reservedWords, word.toList.head? ≠ some '_' := by decide
  intro reserved
  exact words _ reserved (by rw [toList_generatedName]; rfl)

/-! ### Comments -/

/-- The spelling of a character ends a line only where a separator stands for itself. -/
theorem eq_of_isLineTerminator_of_mem_encodeChar
    {c d : Char}
    (ends : isLineTerminator c = true)
    (present : c ∈ Text.StringLiteral.encodeChar d) :
    c = d ∧ (c = '\u2028' ∨ c = '\u2029') := by
  have noDigit (k : Nat) : c ≠ Nat.digitChar k := by
    rintro rfl
    simp [isLineTerminator] at ends
  have terminator : c = '\n' ∨ c = '\r' ∨ c = '\u2028' ∨ c = '\u2029' := by
    simpa [isLineTerminator, or_assoc] using ends
  unfold Text.StringLiteral.encodeChar at present
  repeat' split at present
  all_goals
    simp only [List.mem_cons, List.not_mem_nil, or_false, noDigit] at present
    grind

/-- Of the characters that end a line, a literal contains the separators of its value only. -/
theorem mem_of_isLineTerminator_of_mem_stringLiteral
    {c : Char}
    {text : String}
    (ends : isLineTerminator c = true)
    (present : c ∈ (stringLiteral text).toList) :
    c ∈ text.toList ∧ (c = '\u2028' ∨ c = '\u2029') := by
  have spelling : (stringLiteral text).toList =
      '"' :: (Text.StringLiteral.encode text.toList ++ ['"']) := String.toList_ofList
  have noQuote : c ≠ '"' := by
    rintro rfl
    exact absurd ends (by decide)
  rw [spelling] at present
  simp only [List.mem_cons, List.mem_append, List.not_mem_nil, or_false, noQuote,
    false_or] at present
  obtain ⟨d, inText, inSpelling⟩ := List.mem_flatMap.mp present
  obtain ⟨rfl, separator⟩ := eq_of_isLineTerminator_of_mem_encodeChar ends inSpelling
  exact ⟨inText, separator⟩

/-- A separator stands for itself in a literal. -/
theorem mem_stringLiteral_of_separator
    {c : Char}
    {text : String}
    (separator : c = '\u2028' ∨ c = '\u2029')
    (present : c ∈ text.toList) :
    c ∈ (stringLiteral text).toList := by
  have spelling : (stringLiteral text).toList =
      '"' :: (Text.StringLiteral.encode text.toList ++ ['"']) := String.toList_ofList
  have itself : c ∈ Text.StringLiteral.encodeChar c := by
    rcases separator with rfl | rfl <;> decide
  have inside : c ∈ Text.StringLiteral.encode text.toList :=
    List.mem_flatMap.mpr ⟨c, present, itself⟩
  simp [spelling, inside]

namespace RenderFunction

/-- What the comment of a function says. -/
def comment (function : RenderFunction) : List Char :=
  ' ' :: (function.host.toList ++ ("() message compiled for ".toList ++
    (stringLiteral function.locale).toList))

/-- The declaration of a function, without the comment. -/
def declaration (function : RenderFunction) : List Char :=
  rendererText function.name (function.result.print (stringLiteral function.locale)).toList

/-- The value that a function returns. -/
def returned (function : RenderFunction) : Term := function.result.term function.locale

/-- A function stands for calls of a variable, has the name of a variable itself, and returns what a
pattern was compiled to. -/
structure Proper (function : RenderFunction) : Prop where
  host : IsNameText function.host.toList
  name : IsName function.name.toList
  notReserved : function.name ∉ Script.reservedWords
  grouped : function.result.IsGrouped

/-- No separator of lines or paragraphs stands in the locale. -/
def HasPlainLocale (function : RenderFunction) : Prop :=
  '\u2028' ∉ function.locale.toList ∧ '\u2029' ∉ function.locale.toList

variable {function : RenderFunction} {functions : List RenderFunction}

theorem toList_print
    (function : RenderFunction) :
    function.print.toList =
      '/' :: '/' :: function.comment ++ '\n' :: (function.declaration ++ ['\n']) := by
  unfold print comment declaration rendererText
  simp

/-- Only separators in the locale end the line of a comment. -/
theorem mem_of_isLineTerminator_of_mem_comment
    (proper : function.Proper)
    {c : Char}
    (ends : isLineTerminator c = true)
    (present : c ∈ function.comment) :
    c ∈ function.locale.toList ∧ (c = '\u2028' ∨ c = '\u2029') := by
  have words : ∀ c ∈ ' ' :: "() message compiled for ".toList, isLineTerminator c = false :=
    Script.forall_mem_of_all (by decide)
  have noWord {text : List Char} (plain : ∀ c ∈ text, isLineTerminator c = false) : c ∉ text := by
    intro inside
    rw [plain c inside] at ends
    cases ends
  have noHost : c ∉ function.host.toList := noWord fun c inside =>
    isLineTerminator_eq_false_of_isIdentifierPart (proper.host c inside)
  have noPhrase := noWord words
  rw [List.mem_cons, not_or] at noPhrase
  simp only [comment, List.mem_cons, List.mem_append, noPhrase, noHost, false_or] at present
  exact mem_of_isLineTerminator_of_mem_stringLiteral ends present

/-- The declaration of a function spells what it is meant to, whatever follows it. -/
theorem exists_spells_declaration
    (proper : function.Proper)
    (back : List Char) :
    ∃ value rest, Derives (.sum function.returned) value ∧
      Spells function.declaration (.word "function" :: rest) back ∧
      (Lexeme.word "function").onNewLine :: rest = rendererLexemes function.name value := by
  obtain ⟨first, more, spells, derives⟩ :=
    (function.result.isWritten function.locale proper.grouped (';' :: '\n' :: '\x7d' :: back)
      ⟨';', _, rfl, by decide⟩).1
  obtain ⟨rest, spelled, equal⟩ := Script.spells_rendererText proper.name spells
  exact ⟨_, rest, derives, spelled, equal⟩

/-- A comment stays in its line if, and only if, the locale is plain. -/
theorem comment_inLine_iff
    (proper : function.Proper) :
    (∀ c ∈ function.comment, isLineTerminator c = false) ↔ function.HasPlainLocale := by
  constructor
  · intro inLine
    have absent (c : Char) (separator : c = '\u2028' ∨ c = '\u2029') : c ∉ function.locale.toList := by
      intro present
      have inComment : c ∈ function.comment := by
        simp [comment, mem_stringLiteral_of_separator separator present]
      have stays := inLine c inComment
      rcases separator with rfl | rfl <;> cases stays
    exact ⟨absent _ (.inl rfl), absent _ (.inr rfl)⟩
  · intro plain c present
    cases ends : isLineTerminator c with
    | false => rfl
    | true =>
        obtain ⟨inLocale, rfl | rfl⟩ := mem_of_isLineTerminator_of_mem_comment proper ends present
        · exact absurd inLocale plain.1
        · exact absurd inLocale plain.2

/-- Strings that flow into a function become no code of its declaration, and none of its comment
either as long as the locale is plain. -/
structure Contains (function : RenderFunction) : Prop where
  /-- The function is a comment and a declaration. -/
  printed : function.print.toList =
    '/' :: '/' :: function.comment ++ '\n' :: (function.declaration ++ ['\n'])
  /-- The comment stays in its line unless the locale contains a separator. -/
  comment : (∀ c ∈ function.comment, isLineTerminator c = false) ↔ function.HasPlainLocale
  /-- The declaration spells that of a function which returns a certain value, and nothing else. -/
  declaration : ∀ back, ∃ value rest, Derives (.sum function.returned) value ∧
    Spells function.declaration (.word "function" :: rest) back ∧
    (Lexeme.word "function").onNewLine :: rest = rendererLexemes function.name value

theorem Proper.contains
    (proper : function.Proper) :
    function.Contains :=
  ⟨toList_print function, comment_inLine_iff proper, exists_spells_declaration proper⟩

/-- A function whose locale is plain is a comment line and a declaration. -/
theorem exists_spells_print
    (proper : function.Proper)
    (plain : function.HasPlainLocale)
    (back : List Char) :
    ∃ value, Derives (.sum function.returned) value ∧
      Spells ('/' :: '/' :: function.comment ++ '\n' :: function.declaration)
        (rendererLexemes function.name value) back := by
  obtain ⟨value, rest, derives, spelled, equal⟩ := exists_spells_declaration proper back
  exact ⟨value, derives, equal ▸ spelled.comment ((comment_inLine_iff proper).mpr plain)⟩

/-- The text of some functions, one after the other. -/
def printAll (functions : List RenderFunction) : List Char :=
  functions.flatMap (·.print.toList)

/-- Functions with plain locales are comment lines and declarations. -/
theorem exists_declares_printAll
    (nonempty : functions ≠ [])
    (proper : ∀ function ∈ functions, function.Proper)
    (plain : ∀ function ∈ functions, function.HasPlainLocale) :
    ∃ text lexemes,
      printAll functions = '/' :: text ++ ['\n'] ∧
        Spells ('/' :: text) lexemes ['\n'] ∧
        Declares (functions.map fun function => (function.name, function.returned)) lexemes := by
  induction functions with
  | nil => exact absurd rfl nonempty
  | cons function rest inductionHypothesis =>
      rw [List.forall_mem_cons] at proper plain
      by_cases last : rest = []
      · subst last
        obtain ⟨value, derives, spelled⟩ := exists_spells_print proper.1 plain.1 ['\n']
        refine ⟨_, _, ?_, spelled, ?_⟩
        · simp [printAll, toList_print]
        · have declared := Declares.cons proper.1.notReserved derives .nil
          rwa [List.append_nil] at declared
      · obtain ⟨text, lexemes, printed, spells, declares⟩ :=
          inductionHypothesis last proper.2 plain.2
        obtain ⟨value, derives, spelled⟩ :=
          exists_spells_print proper.1 plain.1 ('\n' :: '/' :: text ++ ['\n'])
        have onward : Spells ('\n' :: '/' :: text) lexemes ['\n'] := by
          obtain ⟨next, others, rfl⟩ := List.exists_cons_of_ne_nil last
          rw [List.map_cons] at declares
          cases declares with
          | cons => exact spells.newline
        refine ⟨_, _, ?_, spelled.append onward, .cons proper.1.notReserved derives declares⟩
        rw [printAll, List.flatMap_cons, ← printAll, printed, toList_print]
        simp

end RenderFunction
end MessageExpansion
