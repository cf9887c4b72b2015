/-!
# Styles

Coloured text for terminals.  A styled piece of text stands between an escape sequence that sets
its style and one that resets it.
-/

namespace MessageExpansion
namespace Report

/-- The colours that reports use. -/
inductive Colour where
  | red
  | green
  | yellow
  | blue
  | cyan
deriving DecidableEq, Repr

/-- The code of a colour. -/
def Colour.code : Colour → Nat
  | red => 31
  | green => 32
  | yellow => 33
  | blue => 34
  | cyan => 36

/-- How a piece of text is shown. -/
structure Style where
  /-- Whether it is bold. -/
  bold : Bool
  /-- Whether it is dimmed. -/
  dimmed : Bool
  /-- Its colour, if it has one. -/
  colour : Option Colour
deriving DecidableEq, Repr

namespace Style

/-- Text in a colour. -/
def plain (colour : Colour) : Style := ⟨false, false, some colour⟩

/-- Bold text in a colour. -/
def strong (colour : Colour) : Style := ⟨true, false, some colour⟩

/-- Dimmed text in a colour. -/
def faint (colour : Colour) : Style := ⟨false, true, some colour⟩

/-- The codes of a style: attributes first. -/
def codes (style : Style) : List Nat :=
  (if style.bold then [1] else []) ++ (if style.dimmed then [2] else []) ++
    style.colour.toList.map Colour.code

/-- The sequence that sets a style. -/
def opening (style : Style) : String :=
  "\x1b[" ++ String.intercalate ";" (style.codes.map toString) ++ "m"

/-- The sequence that resets the style. -/
def closing : String := "\x1b[0m"

/-- A text that goes on in its style after every reset inside it. -/
def reopen (opening : List Char) : List Char → List Char
  | '\x1b' :: '[' :: '0' :: 'm' :: rest => closing.toList ++ opening ++ reopen opening rest
  | c :: rest => c :: reopen opening rest
  | [] => []

/-- A piece of text in a style; without colours it stays as it is. -/
def paint (style : Style) (coloured : Bool) (text : String) : String :=
  if coloured then
    style.opening ++ String.ofList (reopen style.opening.toList text.toList) ++ closing
  else text

end Style

/-- As many blanks as a number says. -/
def blanks (count : Nat) : String := String.ofList (List.replicate count ' ')

/-- A count with the word for what is counted. -/
def counted (count : Nat) (one many : String) : String :=
  toString count ++ " " ++ if count = 1 then one else many

/-- The mark of success. -/
def successMark : String := "\u2713"

/-- The mark of failure. -/
def failureMark : String := "\u2718"

end Report
end MessageExpansion
