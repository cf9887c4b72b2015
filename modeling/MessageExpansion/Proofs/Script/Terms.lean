import MessageExpansion.Proofs.Script.Spelling

/-!
# Terms

The part of the language of scripts that renderers are written in: its expressions and statements
as trees, and which sequences of lexemes derive which tree.  The grammar has one level for every
level of precedence, so a sequence of lexemes does not derive a tree that groups its operators in
another way.
-/

namespace MessageExpansion
namespace Script

mutual

/-- An expression. -/
inductive Term where
  /-- A string literal. -/
  | text (value : String)
  /-- A decimal numeral. -/
  | numeral (value : Nat)
  | variable (name : String)
  /-- A member that is named after a dot. -/
  | member (object : Term) (name : String)
  /-- A member whose name is a value. -/
  | index (object key : Term)
  | call (callee : Term) (arguments : List Term)
  /-- An object made by a constructor. -/
  | construct (callee : Term) (arguments : List Term)
  /-- An object literal. -/
  | record (fields : List (String × Term))
  /-- The operator that converts to a number. -/
  | toNumber (operand : Term)
  | add (left right : Term)
  | subtract (left right : Term)
  /-- A function of one parameter that is applied where it stands. -/
  | apply (parameter : String) (body : List Step) (argument : Term)

/-- A statement. -/
inductive Step where
  /-- Return a value. -/
  | answer (result : Term)
  /-- Return a value if two others are strictly equal. -/
  | test (left right result : Term)
  /-- Return the value of the first case whose label is strictly equal to the subject. -/
  | choose (subject : Term) (cases : List (Term × Term)) (otherwise : Term)

end

/-! ### Lexemes with a meaning of their own -/

namespace Lexeme

abbrev openParen : Lexeme := mark .openParen ['(']
abbrev closeParen : Lexeme := mark .closeParen [')']
abbrev openBracket : Lexeme := mark .openBracket ['[']
abbrev closeBracket : Lexeme := mark .closeBracket [']']
abbrev openBrace : Lexeme := mark .openBrace ['\x7b']
abbrev closeBrace : Lexeme := mark .closeBrace ['\x7d']
abbrev dot : Lexeme := mark .dot ['.']
abbrev comma : Lexeme := mark .comma [',']
abbrev colon : Lexeme := mark .colon [':']
abbrev semicolon : Lexeme := mark .semicolon [';']
abbrev plus : Lexeme := mark .plus ['+']
abbrev minus : Lexeme := mark .minus ['-']
abbrev identical : Lexeme := mark .operator ['=', '=', '=']

end Lexeme

/-- The words that mean something of their own in some places, although they can name variables. -/
def contextualWords : List String := [
  "abstract", "async", "await", "declare", "global", "interface", "let", "module", "namespace",
  "type", "yield"]

/-- A word that is the name of a variable wherever it stands. -/
def IsVariable (name : String) : Prop := name ∉ reservedWords ∧ name ∉ contextualWords

instance (name : String) : Decidable (IsVariable name) := inferInstanceAs (Decidable (_ ∧ _))

/-! ### The grammar -/

/-- What lexemes may derive. -/
inductive Phrase where
  /-- What `new` is applied to: a variable or a member of one. -/
  | path (term : Term)
  /-- An expression that operators cannot take apart. -/
  | operand (term : Term)
  /-- An operand with prefix operators. -/
  | unary (term : Term)
  /-- Operands joined by the operators of addition, which group to the left. -/
  | sum (term : Term)
  /-- Expressions separated by commas. -/
  | arguments (terms : List Term)
  /-- The fields of an object literal. -/
  | fields (fields : List (String × Term))
  /-- The statements of a function body. -/
  | body (steps : List Step)
  /-- The labelled cases of a `switch` statement. -/
  | cases (cases : List (Term × Term))

open Lexeme in
/-- A sequence of lexemes derives a phrase. -/
inductive Derives : Phrase → List Lexeme → Prop
  | root {name : String} (isVariable : IsVariable name) :
      Derives (.path (.variable name)) [word name]
  | branch {object : Term} {left : List Lexeme} {name : String}
      (base : Derives (.path object) left) :
      Derives (.path (.member object name)) (left ++ [dot, word name])
  | text (value : String) (spelling : List Char) :
      Derives (.operand (.text value)) [{ kind := .string (some value), spelling }]
  | numeral (value : Nat) : Derives (.operand (.numeral value)) [.numeral value]
  | named {name : String} (isVariable : IsVariable name) :
      Derives (.operand (.variable name)) [word name]
  | member {object : Term} {left : List Lexeme} {name : String}
      (base : Derives (.operand object) left) :
      Derives (.operand (.member object name)) (left ++ [dot, word name])
  | index {object key : Term} {left inner : List Lexeme}
      (base : Derives (.operand object) left)
      (inside : Derives (.sum key) inner) :
      Derives (.operand (.index object key)) (left ++ openBracket :: (inner ++ [closeBracket]))
  | call {callee : Term} {arguments : List Term} {left inner : List Lexeme}
      (base : Derives (.operand callee) left)
      (inside : Derives (.arguments arguments) inner) :
      Derives (.operand (.call callee arguments)) (left ++ openParen :: (inner ++ [closeParen]))
  | construct {callee : Term} {arguments : List Term} {left inner : List Lexeme}
      (base : Derives (.path callee) left)
      (inside : Derives (.arguments arguments) inner) :
      Derives (.operand (.construct callee arguments))
        (word "new" :: (left ++ openParen :: (inner ++ [closeParen])))
  | record {fields : List (String × Term)} {inner : List Lexeme}
      (inside : Derives (.fields fields) inner) :
      Derives (.operand (.record fields)) (openBrace :: (inner ++ [closeBrace]))
  | apply {parameter : String} {steps : List Step} {argument : Term} {inner last : List Lexeme}
      (isVariable : IsVariable parameter)
      (inside : Derives (.body steps) inner)
      (operand : Derives (.sum argument) last) :
      Derives (.operand (.apply parameter steps argument))
        (openParen :: word "function" :: openParen :: word parameter :: closeParen :: openBrace ::
          (inner ++ closeBrace :: closeParen :: openParen :: (last ++ [closeParen])))
  | plain {term : Term} {lexemes : List Lexeme}
      (operand : Derives (.operand term) lexemes) :
      Derives (.unary term) lexemes
  | toNumber {term : Term} {lexemes : List Lexeme}
      (operand : Derives (.unary term) lexemes) :
      Derives (.unary (.toNumber term)) (plus :: lexemes)
  | single {term : Term} {lexemes : List Lexeme}
      (operand : Derives (.unary term) lexemes) :
      Derives (.sum term) lexemes
  | add {first second : Term} {left right : List Lexeme}
      (front : Derives (.sum first) left)
      (back : Derives (.unary second) right) :
      Derives (.sum (.add first second)) (left ++ plus :: right)
  | subtract {first second : Term} {left right : List Lexeme}
      (front : Derives (.sum first) left)
      (back : Derives (.unary second) right) :
      Derives (.sum (.subtract first second)) (left ++ minus :: right)
  | lastArgument {term : Term} {lexemes : List Lexeme}
      (value : Derives (.sum term) lexemes) :
      Derives (.arguments [term]) lexemes
  | argument {term : Term} {terms : List Term} {left right : List Lexeme}
      (value : Derives (.sum term) left)
      (onward : Derives (.arguments terms) right) :
      Derives (.arguments (term :: terms)) (left ++ comma :: right)
  | noFields : Derives (.fields []) []
  | lastField {name : String} {term : Term} {lexemes : List Lexeme}
      (value : Derives (.sum term) lexemes) :
      Derives (.fields [(name, term)]) (word name :: colon :: lexemes)
  | field {name : String} {term : Term} {fields : List (String × Term)} {left right : List Lexeme}
      (value : Derives (.sum term) left)
      (onward : Derives (.fields fields) right) :
      Derives (.fields ((name, term) :: fields)) (word name :: colon :: (left ++ comma :: right))
  | noSteps : Derives (.body []) []
  | answer {term : Term} {steps : List Step} {left right : List Lexeme}
      (value : Derives (.sum term) left)
      (onward : Derives (.body steps) right) :
      Derives (.body (.answer term :: steps)) (word "return" :: (left ++ semicolon :: right))
  | test {first second result : Term} {steps : List Step} {left right value more : List Lexeme}
      (front : Derives (.operand first) left)
      (back : Derives (.operand second) right)
      (answer : Derives (.sum result) value)
      (onward : Derives (.body steps) more) :
      Derives (.body (.test first second result :: steps))
        (word "if" :: openParen :: (left ++ identical :: (right ++ closeParen :: word "return" ::
          (value ++ semicolon :: more))))
  | choose {subject otherwise : Term} {cases : List (Term × Term)} {steps : List Step}
      {left inner final more : List Lexeme}
      (chosen : Derives (.sum subject) left)
      (labelled : Derives (.cases cases) inner)
      (fallback : Derives (.sum otherwise) final)
      (onward : Derives (.body steps) more) :
      Derives (.body (.choose subject cases otherwise :: steps))
        (word "switch" :: openParen :: (left ++ closeParen :: openBrace :: (inner ++
          word "default" :: colon :: word "return" :: (final ++ semicolon :: closeBrace :: more))))
  | noCases : Derives (.cases []) []
  | case {label result : Term} {cases : List (Term × Term)} {left right more : List Lexeme}
      (test : Derives (.sum label) left)
      (answer : Derives (.sum result) right)
      (onward : Derives (.cases cases) more) :
      Derives (.cases ((label, result) :: cases))
        (word "case" :: (left ++ colon :: word "return" :: (right ++ semicolon :: more)))

/-! ### Declarations -/

/-- The tokens of a function declaration with one parameter. -/
def functionLexemes (opening : Lexeme) (name parameter : String) (body : List Lexeme)
    (closing : Lexeme) : List Lexeme :=
  opening :: .word name :: ([.openParen, .word parameter, .closeParen] ++
    .openBrace :: (body ++ [closing]))

/-- The tokens of a function that returns a value: the function declares `args`, and takes an empty
object for it where it is called without one. -/
def rendererLexemes (name : String) (value : List Lexeme) : List Lexeme :=
  functionLexemes (Lexeme.word "function").onNewLine name "args"
    ((Lexeme.word "args").onNewLine :: .mark .assign ['='] ::
        ([.word "args", .mark .operator ['|', '|'], .openBrace, .closeBrace] ++ [.semicolon]) ++
      (Lexeme.word "return").onNewLine :: (value ++ [.semicolon]))
    Lexeme.closeBrace.onNewLine

/-- The lexemes are declarations of functions with given names, each of which returns the value of a
term. -/
inductive Declares : List (String × Term) → List Lexeme → Prop
  | nil : Declares [] []
  | cons
      {name : String}
      {term : Term}
      {functions : List (String × Term)}
      {value more : List Lexeme}
      (isIdentifier : name ∉ reservedWords)
      (returned : Derives (.sum term) value)
      (onward : Declares functions more) :
      Declares ((name, term) :: functions) (rendererLexemes name value ++ more)

end Script
end MessageExpansion
