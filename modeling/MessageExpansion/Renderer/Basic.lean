import MessageExpansion.Pattern.Basic

/-!
# Renderers

The program that renders a message: an expression over the arguments of the message, in the small
part of JavaScript that messages need.  An expression may bind a variable by applying a function to
a value; the body of such a function tests the variable and answers with an expression.
-/

namespace MessageExpansion
namespace Renderer

/-- What a variable of a renderer holds. -/
inductive VariableKind where
  /-- The number that a plural chooses by. -/
  | number
  /-- The text that a select chooses by. -/
  | text
deriving DecidableEq, Repr

/-- A variable of a renderer: no two of one renderer have the same index. -/
structure Variable where
  /-- What the variable holds. -/
  kind : VariableKind
  /-- The number the variable is told apart by. -/
  index : Nat
deriving DecidableEq, Repr

/-- The formatters of the run-time library, each made for the locale of the renderer. -/
inductive Formatter where
  /-- Numbers; without a style, the formatter is made without options. -/
  | number (style : Option NumberStyle)
  | date (style : DateTimeStyle)
  | time (style : DateTimeStyle)
deriving DecidableEq, Repr

mutual

/-- An expression that renders (part of) a message. -/
inductive Expression where
  /-- A fixed text. -/
  | text (value : String)
  /-- Two texts, one after the other. -/
  | concatenation (left right : Expression)
  /-- The message argument `name`, as it was passed. -/
  | argument (name : String)
  /-- The value of a variable. -/
  | variable (name : Variable)
  /-- A number less a constant. -/
  | minus (operand : Expression) (offset : UInt32)
  /-- A value converted to text. -/
  | asText (operand : Expression)
  /-- A value converted to a number. -/
  | asNumber (operand : Expression)
  /-- A value as a formatter shows it. -/
  | format (formatter : Formatter) (operand : Expression)
  /-- The answer of `body` when `parameter` holds the value of `operand`. -/
  | apply (parameter : Variable) (body : Body) (operand : Expression)

/-- The body of a function of one variable. -/
inductive Body where
  /-- Answer with a value. -/
  | answer (result : Expression)
  /-- Answer with `result` when the variable equals `value`, and go on with `rest` otherwise. -/
  | test (subject : Variable) (value : UInt64) (result : Expression) (rest : Body)
  /-- Answer by the plural category of a number. -/
  | byCategory (ordinal : Bool) (subject : Expression) (cases : Cases) (otherwise : Expression)
  /-- Answer by a text. -/
  | byText (subject : Expression) (cases : Cases) (otherwise : Expression)

/-- Labelled answers, tried in order. -/
inductive Cases where
  | none
  | more (label : String) (result : Expression) (rest : Cases)

end

/-- Labelled answers from a list. -/
def Cases.ofList : List (String × Expression) → Cases
  | [] => .none
  | (label, result) :: rest => .more label result (ofList rest)

end Renderer
end MessageExpansion
