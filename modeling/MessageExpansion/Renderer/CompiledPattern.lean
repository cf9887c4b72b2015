import MessageExpansion.Pattern.Parser
import MessageExpansion.Renderer.Printer
import MessageExpansion.Text.IdentifierName

/-!
# Compiled patterns

What becomes of the text of a pattern: nothing, a constant, or a function to be called.
-/

namespace MessageExpansion

/-- The outcome of compiling a pattern. -/
inductive CompiledPattern where
  /-- The pattern renders to nothing. -/
  | empty
  /-- The pattern always renders to the same text. -/
  | constant (text : String)
  /-- The pattern needs arguments. -/
  | function (declaration : RenderFunction)

/-- The name of the function number `index` that stands for calls of `host`. -/
def generatedName (host : String) (index : Nat) : String :=
  "__" ++ String.ofList (host.toList.map fun c => if Text.isNameChar c then c else '_') ++ "_" ++
    toString index

/-- The text of a pattern that always renders to the same text. -/
def Pattern.constant? : Pattern → Option String
  | [] => some ""
  | [.text value] => some value
  | _ => none

/-- Compile a pattern that was read before. -/
def CompiledPattern.ofPattern (host locale name : String) (pattern : Pattern) : CompiledPattern :=
  match pattern with
  | [] => .empty
  | [.text value] => .constant value
  | _ => .function ⟨host, locale, name, Renderer.compile pattern⟩

/-- Compile the text of a pattern. -/
def CompiledPattern.ofText (host locale name text : String) :
    Except PatternSyntaxError CompiledPattern :=
  match Pattern.parse text with
  | .error error => .error error
  | .ok pattern => .ok (ofPattern host locale name pattern)

end MessageExpansion
