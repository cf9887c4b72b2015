import MessageExpansion.Renderer.Basic

/-!
# From patterns to renderers

Compilation gives every plural and every select a variable of its own, numbered in the order in
which they begin, and turns their options into the body of a function of that variable.
-/

namespace MessageExpansion
namespace Renderer

/-- The plural around an element: the variable that holds its number, and its offset. -/
structure Enclosing where
  /-- The variable of the plural. -/
  subject : Variable
  /-- What the plural takes off its number. -/
  offset : UInt32

/-- The number of a plural less its offset; nothing is taken off when the offset is zero. -/
def Enclosing.difference (enclosing : Enclosing) : Expression :=
  if enclosing.offset = 0 then .variable enclosing.subject
  else .minus (.variable enclosing.subject) enclosing.offset

/-- The text shown for `#`; outside of every plural it stands for itself. -/
def pluralValue : Option Enclosing → Expression
  | some enclosing => .format (.number none) enclosing.difference
  | none => .text "#"

/-- The expression for the options that `other` selects: the last one counts. -/
def otherwise (results : List Expression) : Expression := results.getLast?.getD (.text "")

/-- The answers for the options that ask for an exact number. -/
def exactResults (options : List (PluralSelector × Expression)) : List (UInt64 × Expression) :=
  options.filterMap fun
    | (.exact value, result) => some (value, result)
    | (.category _, _) => none

/-- The answers for the options that name a category, the catch-all excepted. -/
def categoryResults (options : List (PluralSelector × Expression)) :
    List (String × Expression) :=
  options.filterMap fun
    | (.exact _, _) => none
    | (.category name, result) => if name == "other" then none else some (name, result)

/-- The answers for the catch-all options of a plural. -/
def otherResults (options : List (PluralSelector × Expression)) : List Expression :=
  options.filterMap fun (selector, result) => if selector.isOther then some result else none

/-- Test for exact numbers one after the other, then go on with `rest`. -/
def testAll (subject : Variable) (rest : Body) : List (UInt64 × Expression) → Body
  | [] => rest
  | (value, result) :: more => .test subject value result (testAll subject rest more)

/-- The body of the function that chooses among the options of a plural. -/
def pluralBody (enclosing : Enclosing) (ordinal : Bool)
    (options : List (PluralSelector × Expression)) : Body :=
  let final := otherwise (otherResults options)
  let rest := match categoryResults options with
    | [] => .answer final
    | cases => .byCategory ordinal enclosing.difference (Cases.ofList cases) final
  testAll enclosing.subject rest (exactResults options)

/-- The body of the function that chooses among the options of a select. -/
def selectBody (subject : Variable) (options : List (String × Expression)) : Body :=
  .byText (.variable subject)
    (Cases.ofList (options.filter fun option => option.1 != "other"))
    (otherwise ((options.filter fun option => option.1 == "other").map (·.2)))

mutual

/-- The expression for one element, and the index of the next fresh variable. -/
def compileElement (enclosing : Option Enclosing) (next : Nat) : Element → Expression × Nat
  | .text value => (.text value, next)
  | .argument name => (.asText (.argument name), next)
  | .number name style => (.format (.number (some style)) (.argument name), next)
  | .date name style => (.format (.date style) (.argument name), next)
  | .time name style => (.format (.time style) (.argument name), next)
  | .pluralValue => (pluralValue enclosing, next)
  | .plural name ordinal offset options =>
      let inner : Enclosing := ⟨⟨.number, next⟩, offset⟩
      let (results, next) := compilePluralOptions (some inner) (next + 1) options
      (.apply inner.subject (pluralBody inner ordinal results) (.asNumber (.argument name)), next)
  | .select name options =>
      let subject : Variable := ⟨.text, next⟩
      let (results, next) := compileSelectOptions enclosing (next + 1) options
      (.apply subject (selectBody subject results) (.argument name), next)

/-- The expression for `front` followed by more elements. -/
def compileAfter (enclosing : Option Enclosing) (next : Nat) (front : Expression) :
    List Element → Expression × Nat
  | [] => (front, next)
  | element :: rest =>
      let (back, next) := compileElement enclosing next element
      compileAfter enclosing next (.concatenation front back) rest

/-- The expression for a pattern; the empty pattern renders to nothing. -/
def compilePattern (enclosing : Option Enclosing) (next : Nat) :
    List Element → Expression × Nat
  | [] => (.text "", next)
  | element :: rest =>
      let (front, next) := compileElement enclosing next element
      compileAfter enclosing next front rest

/-- The expressions for the options of a plural, each with its selector. -/
def compilePluralOptions (enclosing : Option Enclosing) (next : Nat) :
    List PluralOption → List (PluralSelector × Expression) × Nat
  | [] => ([], next)
  | .mk selector value :: rest =>
      let (result, next) := compilePattern enclosing next value
      let (results, next) := compilePluralOptions enclosing next rest
      ((selector, result) :: results, next)

/-- The expressions for the options of a select, each with its key. -/
def compileSelectOptions (enclosing : Option Enclosing) (next : Nat) :
    List SelectOption → List (String × Expression) × Nat
  | [] => ([], next)
  | .mk key value :: rest =>
      let (result, next) := compilePattern enclosing next value
      let (results, next) := compileSelectOptions enclosing next rest
      ((key, result) :: results, next)

end

/-- The expression that renders a whole pattern. -/
def compile (pattern : Pattern) : Expression := (compilePattern none 0 pattern).1

end Renderer
end MessageExpansion
