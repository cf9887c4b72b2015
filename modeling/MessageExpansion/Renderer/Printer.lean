import MessageExpansion.Renderer.Compilation
import MessageExpansion.Text.StringLiteral

/-!
# Renderers as program text

The spelling of a renderer as a JavaScript function declaration.  The locale of the message is
written into every formatter, so the function takes nothing but the arguments of the message.
-/

namespace MessageExpansion
namespace Renderer

open Text (stringLiteral)

/-- The name of a variable. -/
def Variable.name (name : Variable) : String :=
  (match name.kind with
    | .number => "n"
    | .text => "s") ++ toString name.index

/-- The options of a number formatter. -/
def numberOptions : NumberStyle → String
  | .decimal => "\x7b\x7d"
  | .integer => "\x7b maximumFractionDigits: 0 \x7d"
  | .percent => "\x7b style: \"percent\" \x7d"
  | .currency => "\x7b style: \"currency\", currency: \"USD\" \x7d"

/-- The options of a date formatter. -/
def dateOptions : DateTimeStyle → String
  | .short => "\x7b month: \"numeric\", day: \"numeric\", year: \"2-digit\" \x7d"
  | .medium => "\x7b month: \"short\", day: \"numeric\", year: \"numeric\" \x7d"
  | .long => "\x7b month: \"long\", day: \"numeric\", year: \"numeric\" \x7d"
  | .full =>
      "\x7b weekday: \"long\", month: \"long\", day: \"numeric\", year: \"numeric\" \x7d"

/-- The options of a time formatter; there is nothing fuller than a long time. -/
def timeOptions : DateTimeStyle → String
  | .short => "\x7b hour: \"numeric\", minute: \"numeric\" \x7d"
  | .medium => "\x7b hour: \"numeric\", minute: \"numeric\", second: \"numeric\" \x7d"
  | .long | .full =>
      "\x7b hour: \"numeric\", minute: \"numeric\", second: \"numeric\", " ++
        "timeZoneName: \"short\" \x7d"

/-- The expression that makes a formatter; `locale` is a string literal. -/
def Formatter.print (locale : String) : Formatter → String
  | .number none => "new Intl.NumberFormat(" ++ locale ++ ")"
  | .number (some style) => "new Intl.NumberFormat(" ++ locale ++ ", " ++ numberOptions style ++ ")"
  | .date style => "new Intl.DateTimeFormat(" ++ locale ++ ", " ++ dateOptions style ++ ")"
  | .time style => "new Intl.DateTimeFormat(" ++ locale ++ ", " ++ timeOptions style ++ ")"

/-- The expression that makes the plural rules. -/
def printPluralRules (locale : String) (ordinal : Bool) : String :=
  "new Intl.PluralRules(" ++ locale ++ ", \x7b type: \"" ++
    (if ordinal then "ordinal" else "cardinal") ++ "\" \x7d)"

mutual

/-- The text of an expression. -/
def Expression.print (locale : String) : Expression → String
  | .text value => stringLiteral value
  | .concatenation left right => left.print locale ++ " + " ++ right.print locale
  | .argument name => "args[" ++ stringLiteral name ++ "]"
  | .variable name => name.name
  | .minus operand offset => operand.print locale ++ " - " ++ toString offset.toNat
  | .asText operand => "String(" ++ operand.print locale ++ ")"
  | .asNumber operand => "+" ++ operand.print locale
  | .format formatter operand =>
      formatter.print locale ++ ".format(" ++ operand.print locale ++ ")"
  | .apply parameter body operand =>
      "(function (" ++ parameter.name ++ ") \x7b " ++ body.print locale ++ " \x7d)(" ++
        operand.print locale ++ ")"

/-- The text of a function body. -/
def Body.print (locale : String) : Body → String
  | .answer result => "return " ++ result.print locale ++ ";"
  | .test subject value result rest =>
      "if (" ++ subject.name ++ " === " ++ toString value.toNat ++ ") return " ++
        result.print locale ++ "; " ++ rest.print locale
  | .byCategory ordinal subject cases otherwise =>
      "switch (" ++ printPluralRules locale ordinal ++ ".select(" ++ subject.print locale ++
        ")) \x7b " ++ cases.print locale (fun name => "\"" ++ name ++ "\"") ++
        " default: return " ++ otherwise.print locale ++ "; \x7d"
  | .byText subject cases otherwise =>
      "switch (String(" ++ subject.print locale ++ ")) \x7b " ++
        cases.print locale stringLiteral ++ " default: return " ++ otherwise.print locale ++
        "; \x7d"

/-- The text of labelled answers, separated by spaces. -/
def Cases.print (locale : String) (label : String → String) : Cases → String
  | .none => ""
  | .more key result .none =>
      "case " ++ label key ++ ": return " ++ result.print locale ++ ";"
  | .more key result rest =>
      "case " ++ label key ++ ": return " ++ result.print locale ++ "; " ++
        rest.print locale label

end

end Renderer

/-- A function declaration that renders one message. -/
structure RenderFunction where
  /-- The name of the call that the function stands for. -/
  host : String
  /-- The locale of the message. -/
  locale : String
  /-- The name of the function. -/
  name : String
  /-- What the function returns. -/
  result : Renderer.Expression

/-- The text of the declaration, under a comment that says where it comes from. -/
def RenderFunction.print (function : RenderFunction) : String :=
  let locale := Text.stringLiteral function.locale
  "// " ++ function.host ++ "() message compiled for " ++ locale ++ "\nfunction " ++
    function.name ++ "(args) \x7b\n  args = args || \x7b\x7d;\n  return " ++
    function.result.print locale ++ ";\n\x7d\n"

end MessageExpansion
