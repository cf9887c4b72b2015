import MessageExpansion.Proofs.Script.Terms

/-!
# Writing phrases

How texts of phrases are put together from texts of their parts: one rule for every production that
renderers use, with blanks where renderers have them.
-/

namespace MessageExpansion
namespace Script

open Text (isIdentifierPart)

/-- In front of a certain text, another one is a phrase. -/
def Writes (text : List Char) (phrase : Phrase) (back : List Char) : Prop :=
  ∃ first more, Spells text (first :: more) back ∧ Derives phrase (first :: more)

/-! ### Punctuators -/

/-- The marks that no longer punctuator begins with. -/
def soleMarks : List (Char × Punctuator) := [
  ('(', .openParen), (')', .closeParen), ('[', .openBracket), (']', .closeBracket),
  ('\x7b', .openBrace), ('\x7d', .closeBrace), (',', .comma), (':', .colon), (';', .semicolon)]

theorem spells_soleMark
    {c : Char}
    {which : Punctuator}
    (sole : (c, which) ∈ soleMarks)
    (back : List Char) :
    Spells [c] [.mark which [c]] back := by
  have all : ∀ mark ∈ soleMarks,
      Spells [mark.1] [.mark mark.2 [mark.1]] back := by
    simp only [soleMarks, List.forall_mem_cons]
    refine ⟨?_, ?_, ?_, ?_, ?_, ?_, ?_, ?_, ?_, fun _ member => absurd member List.not_mem_nil⟩ <;>
      exact spells_punctuator (by decide) rfl
  exact all _ sole

/-- The operators of renderers. -/
def operatorMarks : List (List Char × Punctuator) := [
  (['+'], .plus), (['-'], .minus), (['=', '=', '='], .operator), (['='], .assign),
  (['|', '|'], .operator)]

theorem spells_operatorMark
    {spelling : List Char}
    {which : Punctuator}
    (isOperator : (spelling, which) ∈ operatorMarks)
    (back : List Char) :
    Spells spelling [.mark which spelling] (' ' :: back) := by
  have all : ∀ mark ∈ operatorMarks, Spells mark.1 [.mark mark.2 mark.1] (' ' :: back) := by
    simp only [operatorMarks, List.forall_mem_cons]
    refine ⟨?_, ?_, ?_, ?_, ?_, fun _ member => absurd member List.not_mem_nil⟩ <;>
      exact spells_punctuator (by decide) rfl
  exact all _ isOperator

namespace Spells

variable {text back : List Char} {lexeme : Lexeme} {lexemes : List Lexeme}

/-- A mark that no longer punctuator begins with may stand before any text. -/
theorem mark
    {c : Char}
    {which : Punctuator}
    (sole : (c, which) ∈ soleMarks)
    (spells : Spells text lexemes back) :
    Spells (c :: text) (.mark which [c] :: lexemes) back :=
  (spells_soleMark sole (text ++ back)).append spells

/-- A name may stand before a text that does not go on with it. -/
theorem word
    (name : String)
    (isName : IsName name.toList)
    (ends : EndsName (text ++ back))
    (spells : Spells text lexemes back) :
    Spells (name.toList ++ text) (.word name :: lexemes) back :=
  (spells_word isName ends).append spells

/-- A dot may stand before a name. -/
theorem dot
    {name : String}
    (isName : IsName name.toList)
    (ends : EndsName (text ++ back))
    (spells : Spells text lexemes back) :
    Spells ('.' :: (name.toList ++ text)) (.dot :: .word name :: lexemes) back := by
  have onward := spells.word name isName ends
  obtain ⟨c, rest, equal, begins, -⟩ := isName
  have noDot : ['.', '.'].isPrefixOf (c :: (rest ++ text ++ back)) = false := by
    simp [List.isPrefixOf, (ne_of_isIdentifierStart begins (by decide) : c ≠ '.').symm]
  rw [equal] at onward ⊢
  have found : punctuatorAt? ('.' :: c :: (rest ++ text ++ back)) = some (['.'], .dot) := by
    rw [List.append_assoc] at noDot ⊢
    simp [punctuatorAt?, Punctuator.table, noDot]
  exact (spells_dot (isDigit_eq_false_of_isIdentifierStart begins) found).append onward

/-- An operator may stand before a text that is set off by a blank. -/
theorem operator
    {spelling : List Char}
    {which : Punctuator}
    (isOperator : (spelling, which) ∈ operatorMarks)
    (spells : Spells text (lexeme :: lexemes) back) :
    Spells (spelling ++ ' ' :: text) (.mark which spelling :: lexeme :: lexemes) back :=
  (spells_operatorMark isOperator (text ++ back)).append spells.space

end Spells

/-! ### Expressions -/

namespace Writes

variable {front text back : List Char} {term object key first second : Term} {name : String}

theorem sum
    (writes : Writes text (.operand term) back) :
    Writes text (.sum term) back := by
  obtain ⟨lexeme, more, spells, derives⟩ := writes
  exact ⟨lexeme, more, spells, .single (.plain derives)⟩

theorem literal
    (value : String)
    (back : List Char) :
    Writes (Text.stringLiteral value).toList (.operand (.text value)) back :=
  ⟨_, _, spells_literal value back, .text value _⟩

theorem numeral
    (value : Nat)
    (ends : EndsNumeral back) :
    Writes (toString value).toList (.operand (.numeral value)) back :=
  ⟨_, _, spells_numeral value ends, .numeral value⟩

theorem ofVariable
    (isName : IsName name.toList)
    (isVariable : IsVariable name)
    (ends : EndsName back) :
    Writes name.toList (.operand (.variable name)) back :=
  ⟨_, _, spells_word isName ends, .named isVariable⟩

theorem index
    (base : Writes front (.operand object) ('[' :: (text ++ [']']) ++ back))
    (inside : Writes text (.sum key) (']' :: back)) :
    Writes (front ++ '[' :: (text ++ [']'])) (.operand (.index object key)) back := by
  obtain ⟨lexeme, more, spells, derives⟩ := base
  obtain ⟨lexeme', more', spells', derives'⟩ := inside
  have closing : Spells (text ++ [']']) ((lexeme' :: more') ++ [Lexeme.closeBracket]) back :=
    spells'.append (spells_soleMark (by decide) back)
  exact ⟨lexeme, _, spells.append (.mark (by decide) closing), .index derives derives'⟩

theorem call
    {arguments : List Term}
    (base : Writes front (.operand object) ('(' :: (text ++ [')']) ++ back))
    (inside : Writes text (.arguments arguments) (')' :: back)) :
    Writes (front ++ '(' :: (text ++ [')'])) (.operand (.call object arguments)) back := by
  obtain ⟨lexeme, more, spells, derives⟩ := base
  obtain ⟨lexeme', more', spells', derives'⟩ := inside
  have closing : Spells (text ++ [')']) ((lexeme' :: more') ++ [Lexeme.closeParen]) back :=
    spells'.append (spells_soleMark (by decide) back)
  exact ⟨lexeme, _, spells.append (.mark (by decide) closing), .call derives derives'⟩

/-- A call of a method. -/
theorem method
    {arguments : List Term}
    (base : Writes front (.operand object) ('.' :: (name.toList ++ '(' :: (text ++ [')'])) ++ back))
    (isName : IsName name.toList)
    (inside : Writes text (.arguments arguments) (')' :: back)) :
    Writes (front ++ '.' :: (name.toList ++ '(' :: (text ++ [')'])))
      (.operand (.call (.member object name) arguments)) back := by
  obtain ⟨lexeme, more, spells, derives⟩ := base
  obtain ⟨lexeme', more', spells', derives'⟩ := inside
  have closing : Spells (text ++ [')']) ((lexeme' :: more') ++ [Lexeme.closeParen]) back :=
    spells'.append (spells_soleMark (by decide) back)
  have parentheses : Spells ('(' :: (text ++ [')']))
      (.openParen :: ((lexeme' :: more') ++ [Lexeme.closeParen])) back :=
    .mark (by decide) closing
  have whole := spells.append (.dot isName (endsName_cons (by decide)) parentheses)
  have derived : Derives (.operand (.call (.member object name) arguments)) _ :=
    .call (.member derives) derives'
  rw [List.append_assoc] at derived
  exact ⟨lexeme, _, whole, derived⟩

theorem concatenation
    (left : Writes front (.sum first) (' ' :: '+' :: ' ' :: text ++ back))
    (right : Writes text (.operand second) back) :
    Writes (front ++ ' ' :: '+' :: ' ' :: text) (.sum (.add first second)) back := by
  obtain ⟨lexeme, more, spells, derives⟩ := left
  obtain ⟨lexeme', more', spells', derives'⟩ := right
  have operator : Spells ('+' :: ' ' :: text) (.plus :: lexeme' :: more') back :=
    spells'.operator (by decide)
  exact ⟨lexeme, _, spells.append operator.space, .add derives (.plain derives')⟩

theorem difference
    (left : Writes front (.sum first) (' ' :: '-' :: ' ' :: text ++ back))
    (right : Writes text (.operand second) back) :
    Writes (front ++ ' ' :: '-' :: ' ' :: text) (.sum (.subtract first second)) back := by
  obtain ⟨lexeme, more, spells, derives⟩ := left
  obtain ⟨lexeme', more', spells', derives'⟩ := right
  have operator : Spells ('-' :: ' ' :: text) (.minus :: lexeme' :: more') back :=
    spells'.operator (by decide)
  exact ⟨lexeme, _, spells.append operator.space, .subtract derives (.plain derives')⟩

/-- A member of a variable converted to a number. -/
theorem toNumber
    (isName : IsName name.toList)
    (operand : Writes (name.toList ++ '[' :: text) (.operand term) back) :
    Writes ('+' :: (name.toList ++ '[' :: text)) (.sum (.toNumber term)) back := by
  obtain ⟨lexeme, more, spells, derives⟩ := operand
  obtain ⟨c, rest, equal, begins, -⟩ := isName
  rw [equal] at spells ⊢
  have noPlus : ('+' == c) = false := by
    simp [(ne_of_isIdentifierStart begins (by decide) : c ≠ '+').symm]
  have noEqual : ('=' == c) = false := by
    simp [(ne_of_isIdentifierStart begins (by decide) : c ≠ '=').symm]
  have found : punctuatorAt? ('+' :: ((c :: rest ++ '[' :: text) ++ back)) =
      some (['+'], .plus) := by
    simp [punctuatorAt?, Punctuator.table, List.isPrefixOf, noPlus, noEqual]
  have plus : Spells ['+'] [.plus] ((c :: rest ++ '[' :: text) ++ back) :=
    spells_punctuator (by decide) found
  exact ⟨_, _, plus.append spells, .single (.toNumber (.plain derives))⟩

theorem argument
    (value : Writes text (.sum term) back) :
    Writes text (.arguments [term]) back := by
  obtain ⟨lexeme, more, spells, derives⟩ := value
  exact ⟨lexeme, more, spells, .lastArgument derives⟩

theorem arguments
    {rest : List Char}
    {terms : List Term}
    (value : Writes text (.sum term) (',' :: ' ' :: rest ++ back))
    (onward : Writes rest (.arguments terms) back) :
    Writes (text ++ ',' :: ' ' :: rest) (.arguments (term :: terms)) back := by
  obtain ⟨lexeme, more, spells, derives⟩ := value
  obtain ⟨lexeme', more', spells', derives'⟩ := onward
  have comma : Spells (',' :: ' ' :: rest) (.comma :: lexeme' :: more') back :=
    .mark (by decide) spells'.space
  exact ⟨lexeme, _, spells.append comma, .argument derives derives'⟩

theorem lastField
    (isName : IsName name.toList)
    (value : Writes text (.sum term) back) :
    Writes (name.toList ++ ':' :: ' ' :: text) (.fields [(name, term)]) back := by
  obtain ⟨lexeme, more, spells, derives⟩ := value
  have colon : Spells (':' :: ' ' :: text) (.colon :: lexeme :: more) back :=
    .mark (by decide) spells.space
  exact ⟨_, _, .word name isName (endsName_cons (by decide)) colon, .lastField derives⟩

theorem field
    {rest : List Char}
    {fields : List (String × Term)}
    (isName : IsName name.toList)
    (value : Writes text (.sum term) (',' :: ' ' :: rest ++ back))
    (onward : Writes rest (.fields fields) back) :
    Writes (name.toList ++ ':' :: ' ' :: (text ++ ',' :: ' ' :: rest))
      (.fields ((name, term) :: fields)) back := by
  obtain ⟨lexeme, more, spells, derives⟩ := value
  obtain ⟨lexeme', more', spells', derives'⟩ := onward
  have comma : Spells (',' :: ' ' :: rest) (.comma :: lexeme' :: more') back :=
    .mark (by decide) spells'.space
  have colon : Spells (':' :: ' ' :: (text ++ ',' :: ' ' :: rest))
      (.colon :: ((lexeme :: more) ++ Lexeme.comma :: lexeme' :: more')) back :=
    .mark (by decide) (spells.append comma).space
  exact ⟨_, _, .word name isName (endsName_cons (by decide)) colon, .field derives derives'⟩

theorem emptyRecord
    (back : List Char) :
    Writes ['\x7b', '\x7d'] (.operand (.record [])) back :=
  ⟨.openBrace, [.closeBrace], .mark (by decide) (spells_soleMark (by decide) back),
    .record .noFields⟩

theorem record
    {fields : List (String × Term)}
    (inside : Writes text (.fields fields) (' ' :: '\x7d' :: back)) :
    Writes ('\x7b' :: ' ' :: (text ++ [' ', '\x7d'])) (.operand (.record fields)) back := by
  obtain ⟨lexeme, more, spells, derives⟩ := inside
  have brace : Spells ['\x7d'] [.closeBrace] back := spells_soleMark (by decide) back
  have closing : Spells (text ++ [' ', '\x7d']) ((lexeme :: more) ++ [Lexeme.closeBrace]) back :=
    spells.append brace.space
  exact ⟨.openBrace, _, .mark (by decide) closing.space, .record derives⟩

/-- An object made by a constructor that is a member of a variable. -/
theorem construction
    {space : String}
    {arguments : List Term}
    (spaceName : IsName space.toList)
    (isVariable : IsVariable space)
    (isName : IsName name.toList)
    (inside : Writes text (.arguments arguments) (')' :: back)) :
    Writes ("new".toList ++ ' ' :: (space.toList ++ '.' :: (name.toList ++ '(' :: (text ++ [')']))))
      (.operand (.construct (.member (.variable space) name) arguments)) back := by
  obtain ⟨lexeme, more, spells, derives⟩ := inside
  have closing : Spells (text ++ [')']) ((lexeme :: more) ++ [Lexeme.closeParen]) back :=
    spells.append (spells_soleMark (by decide) back)
  have parentheses : Spells ('(' :: (text ++ [')']))
      (.openParen :: ((lexeme :: more) ++ [Lexeme.closeParen])) back :=
    .mark (by decide) closing
  have path : Spells (space.toList ++ '.' :: (name.toList ++ '(' :: (text ++ [')'])))
      (.word space :: .dot :: .word name :: .openParen ::
        ((lexeme :: more) ++ [Lexeme.closeParen])) back :=
    .word space spaceName (endsName_cons (by decide))
      (.dot isName (endsName_cons (by decide)) parentheses)
  exact ⟨_, _, .word "new" (by decide) (endsName_cons (by decide)) path.space,
    .construct (.branch (.root isVariable)) derives⟩

/-- A function that is applied where it stands. -/
theorem application
    {steps : List Step}
    (isName : IsName name.toList)
    (isVariable : IsVariable name)
    (inside : Writes front (.body steps)
      (' ' :: '\x7d' :: ')' :: '(' :: (text ++ [')']) ++ back))
    (operand : Writes text (.sum term) (')' :: back)) :
    Writes ('(' :: ("function".toList ++ ' ' :: '(' :: (name.toList ++ ')' :: ' ' :: '\x7b' :: ' ' ::
        (front ++ ' ' :: '\x7d' :: ')' :: '(' :: (text ++ [')'])))))
      (.operand (.apply name steps term)) back := by
  obtain ⟨lexeme, more, spells, derives⟩ := inside
  obtain ⟨lexeme', more', spells', derives'⟩ := operand
  have closing : Spells (text ++ [')']) ((lexeme' :: more') ++ [Lexeme.closeParen]) back :=
    spells'.append (spells_soleMark (by decide) back)
  have finish : Spells ('\x7d' :: ')' :: '(' :: (text ++ [')']))
      (.closeBrace :: .closeParen :: .openParen ::
        ((lexeme' :: more') ++ [Lexeme.closeParen])) back :=
    .mark (by decide) (.mark (by decide) (.mark (by decide) closing))
  have body := spells.append finish.space
  have block : Spells ('\x7b' :: ' ' :: (front ++ ' ' :: '\x7d' :: ')' :: '(' :: (text ++ [')'])))
      (.openBrace :: ((lexeme :: more) ++ Lexeme.closeBrace :: .closeParen :: .openParen ::
        ((lexeme' :: more') ++ [Lexeme.closeParen]))) back :=
    .mark (by decide) body.space
  have parameter : Spells (')' :: ' ' :: _) (.closeParen :: _) back := .mark (by decide) block.space
  have head : Spells ('(' :: (name.toList ++ _)) (.openParen :: _) back :=
    .mark (by decide) (.word name isName (endsName_cons (by decide)) parameter)
  have keyword := Spells.word "function" (by decide)
    (endsName_cons (by decide)) head.space
  exact ⟨.openParen, _, .mark (by decide) keyword, .apply isVariable derives derives'⟩

/-! ### Statements -/

theorem answer
    (value : Writes text (.sum term) (';' :: back)) :
    Writes ("return".toList ++ ' ' :: (text ++ [';'])) (.body [.answer term]) back := by
  obtain ⟨lexeme, more, spells, derives⟩ := value
  have closing : Spells (text ++ [';']) ((lexeme :: more) ++ [Lexeme.semicolon]) back :=
    spells.append (spells_soleMark (by decide) back)
  exact ⟨_, _, .word "return" (by decide) (endsName_cons (by decide)) closing.space,
    .answer derives .noSteps⟩

theorem test
    {left right rest : List Char}
    {steps : List Step}
    (leftSide : ∀ back, Writes left (.operand first) (' ' :: back))
    (rightSide : ∀ back, Writes right (.operand second) (')' :: back))
    (value : ∀ back, Writes text (.sum term) (';' :: back))
    (onward : Writes rest (.body steps) back) :
    Writes ("if".toList ++ ' ' :: '(' :: (left ++ ' ' :: ("===".toList ++ ' ' :: (right ++
        ')' :: ' ' :: ("return".toList ++ ' ' :: (text ++ ';' :: ' ' :: rest))))))
      (.body (.test first second term :: steps)) back := by
  obtain ⟨_, _, leftSpells, leftDerives⟩ := leftSide _
  obtain ⟨_, _, rightSpells, rightDerives⟩ := rightSide _
  obtain ⟨_, _, valueSpells, valueDerives⟩ := value _
  obtain ⟨_, _, spells, derives⟩ := onward
  have ending : Spells (';' :: ' ' :: rest) (.semicolon :: _) back := .mark (by decide) spells.space
  have answer := Spells.word "return" (by decide) (endsName_cons (by decide))
    (valueSpells.append ending).space
  have branch : Spells (')' :: ' ' :: _) (.closeParen :: _) back := .mark (by decide) answer.space
  have comparison : Spells ("===".toList ++ ' ' :: _) (.identical :: _) back :=
    (rightSpells.append branch).operator (by decide)
  have condition : Spells ('(' :: _) (.openParen :: _) back :=
    .mark (by decide) (leftSpells.append comparison.space)
  exact ⟨_, _, .word "if" (by decide) (endsName_cons (by decide)) condition.space,
    .test leftDerives rightDerives valueDerives derives⟩

theorem lastCase
    (label : ∀ back, Writes front (.sum first) (':' :: back))
    (value : Writes text (.sum second) (';' :: back)) :
    Writes ("case".toList ++ ' ' :: (front ++ ':' :: ' ' :: ("return".toList ++ ' ' :: (text ++ [';']))))
      (.cases [(first, second)]) back := by
  obtain ⟨_, _, labelSpells, labelDerives⟩ := label _
  obtain ⟨lexeme, more, valueSpells, valueDerives⟩ := value
  have ending : Spells (text ++ [';']) ((lexeme :: more) ++ [Lexeme.semicolon]) back :=
    valueSpells.append (spells_soleMark (by decide) back)
  have answer := Spells.word "return" (by decide) (endsName_cons (by decide))
    ending.space
  have branch : Spells (':' :: ' ' :: _) (.colon :: _) back := .mark (by decide) answer.space
  exact ⟨_, _, .word "case" (by decide) (endsName_cons (by decide))
    (labelSpells.append branch).space, .case labelDerives valueDerives .noCases⟩

theorem case
    {rest : List Char}
    {cases : List (Term × Term)}
    (label : ∀ back, Writes front (.sum first) (':' :: back))
    (value : ∀ back, Writes text (.sum second) (';' :: back))
    (onward : Writes rest (.cases cases) back) :
    Writes ("case".toList ++ ' ' :: (front ++ ':' :: ' ' :: ("return".toList ++ ' ' ::
        (text ++ ';' :: ' ' :: rest)))) (.cases ((first, second) :: cases)) back := by
  obtain ⟨_, _, labelSpells, labelDerives⟩ := label _
  obtain ⟨_, _, valueSpells, valueDerives⟩ := value _
  obtain ⟨_, _, spells, derives⟩ := onward
  have ending : Spells (';' :: ' ' :: rest) (.semicolon :: _) back := .mark (by decide) spells.space
  have answer := Spells.word "return" (by decide) (endsName_cons (by decide))
    (valueSpells.append ending).space
  have branch : Spells (':' :: ' ' :: _) (.colon :: _) back := .mark (by decide) answer.space
  exact ⟨_, _, .word "case" (by decide) (endsName_cons (by decide))
    (labelSpells.append branch).space, .case labelDerives valueDerives derives⟩

/-- Cases, which may be missing, between blanks. -/
theorem spells_inset
    {cases : List (Term × Term)}
    {lexeme : Lexeme}
    {more : List Lexeme}
    (labelled : front = [] ∧ cases = [] ∨ ∀ back, Writes front (.cases cases) (' ' :: back))
    (spells : Spells text (lexeme :: more) back) :
    ∃ lexemes, Spells (' ' :: (front ++ ' ' :: text)) (lexemes ++ lexeme :: more) back ∧
      Derives (.cases cases) lexemes := by
  rcases labelled with ⟨rfl, rfl⟩ | writes
  · exact ⟨[], spells.space.space, .noCases⟩
  · obtain ⟨_, _, inside, derives⟩ := writes (text ++ back)
    exact ⟨_, (inside.append spells.space).space, derives⟩

/-- A `switch` statement, whose cases may be missing. -/
theorem choice
    {rest : List Char}
    {cases : List (Term × Term)}
    (subject : ∀ back, Writes front (.sum first) (')' :: back))
    (labelled : text = [] ∧ cases = [] ∨ ∀ back, Writes text (.cases cases) (' ' :: back))
    (fallback : ∀ back, Writes rest (.sum second) (';' :: back)) :
    Writes ("switch".toList ++ ' ' :: '(' :: (front ++ ')' :: ' ' :: '\x7b' :: ' ' :: (text ++
        ' ' :: ("default".toList ++ ':' :: ' ' :: ("return".toList ++ ' ' ::
          (rest ++ ';' :: ' ' :: ['\x7d']))))))
      (.body [.choose first cases second]) back := by
  obtain ⟨_, _, finalSpells, finalDerives⟩ := fallback _
  have closing : Spells ['\x7d'] [.closeBrace] back := spells_soleMark (by decide) back
  have ending : Spells (';' :: ' ' :: ['\x7d']) (.semicolon :: _) back :=
    .mark (by decide) closing.space
  have answer := Spells.word "return" (by decide) (endsName_cons (by decide))
    (finalSpells.append ending).space
  have branch : Spells (':' :: ' ' :: _) (.colon :: _) back := .mark (by decide) answer.space
  have final := Spells.word "default" (by decide) (endsName_cons (by decide)) branch
  obtain ⟨_, inside, derives⟩ := spells_inset labelled final
  have block : Spells ('\x7b' :: ' ' :: _) (.openBrace :: _) back := .mark (by decide) inside
  have test : Spells (')' :: ' ' :: _) (.closeParen :: _) back := .mark (by decide) block.space
  obtain ⟨_, _, subjectSpells, subjectDerives⟩ := subject _
  have condition : Spells ('(' :: _) (.openParen :: _) back :=
    .mark (by decide) (subjectSpells.append test)
  exact ⟨_, _, .word "switch" (by decide) (endsName_cons (by decide))
    condition.space, .choose subjectDerives derives finalDerives .noSteps⟩

end Writes

/-! ### Declarations -/

/-- The text of a function that returns the value of an expression. -/
def rendererText (name : String) (text : List Char) : List Char :=
  "function".toList ++ ' ' :: (name.toList ++ '(' :: ("args".toList ++ ')' :: ' ' :: '\x7b' :: '\n' ::
    ' ' :: ' ' :: ("args".toList ++ ' ' :: (['='] ++ ' ' :: ("args".toList ++ ' ' :: (['|', '|'] ++ ' ' ::
      '\x7b' :: '\x7d' :: ';' :: '\n' :: ' ' :: ' ' :: ("return".toList ++ ' ' ::
        (text ++ [';', '\n', '\x7d']))))))))

theorem spells_rendererText
    {name : String}
    {text back : List Char}
    {first : Lexeme}
    {more : List Lexeme}
    (isName : IsName name.toList)
    (value : Spells text (first :: more) (';' :: '\n' :: '\x7d' :: back)) :
    ∃ rest, Spells (rendererText name text) (.word "function" :: rest) back ∧
      (Lexeme.word "function").onNewLine :: rest = rendererLexemes name (first :: more) := by
  have brace : Spells ['\x7d'] [.closeBrace] back := spells_soleMark (by decide) back
  have ending : Spells [';', '\n', '\x7d'] [.semicolon, Lexeme.closeBrace.onNewLine] back :=
    .mark (by decide) brace.newline
  have answer := Spells.word "return" (by decide) (endsName_cons (by decide))
    (value.append ending).space
  have record : Spells ('\x7b' :: '\x7d' :: ';' :: _)
      (.openBrace :: .closeBrace :: .semicolon :: _) back :=
    .mark (by decide) (.mark (by decide) (.mark (by decide) answer.space.space.newline))
  have choice := Spells.word "args" (by decide) (endsName_cons (by decide))
    (record.operator (by decide : (['|', '|'], Punctuator.operator) ∈ operatorMarks)).space
  have default := Spells.word "args" (by decide) (endsName_cons (by decide))
    (choice.operator (by decide : (['='], Punctuator.assign) ∈ operatorMarks)).space
  have block : Spells (')' :: ' ' :: '\x7b' :: '\n' :: ' ' :: ' ' :: _)
      (.closeParen :: .openBrace :: _) back :=
    .mark (by decide) (Spells.mark (by decide) default.space.space.newline).space
  have parameter := Spells.word "args" (by decide) (endsName_cons (by decide)) block
  have parentheses : Spells ('(' :: _) (.openParen :: _) back := .mark (by decide) parameter
  have named := Spells.word name isName (endsName_cons (by decide)) parentheses
  have whole := Spells.word "function" (by decide) (endsName_cons (by decide))
    named.space
  exact ⟨_, whole, by simp [rendererLexemes, functionLexemes]⟩

end Script
end MessageExpansion
