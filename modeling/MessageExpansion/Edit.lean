import MessageExpansion.PositionMap.Basic

/-!
# Edits

Replacing stretches of a text.  Everything outside the edited stretches is kept as it is, and the
printed text comes with a map that leads back to where it comes from.
-/

namespace MessageExpansion

open Text (Position)

/-- A replacement for the stretch of a text between two byte offsets. -/
structure Edit where
  /-- Where the stretch begins. -/
  start : Nat
  /-- Where the stretch ends. -/
  stop : Nat
  /-- What takes its place. -/
  text : List Char
deriving DecidableEq, Repr

/-- The text between two offsets with edits applied, which lie between them in order. -/
def splice (source : List Char) (start stop : Nat) : List Edit → List Char
  | [] => Text.slice start stop source
  | edit :: rest =>
      Text.slice start edit.start source ++ edit.text ++ splice source edit.stop stop rest

/-- A text being printed, and the mappings of what was printed so far. -/
structure Printing where
  /-- The text so far. -/
  text : List Char
  /-- The place where it ends. -/
  place : Position
  /-- The mappings so far. -/
  mappings : List Mapping

namespace Printing

/-- Nothing is printed yet. -/
def start : Printing := ⟨[], .start, []⟩

/-- Print a piece of text. -/
def push (printing : Printing) (piece : List Char) : Printing :=
  { printing with text := printing.text ++ piece, place := printing.place.advance piece }

/-- Record that what is printed next comes from a place of the source. -/
def mark (printing : Printing) (origin : Position) : Printing :=
  { printing with
    mappings := PositionMap.appendMapping printing.mappings ⟨printing.place, 0, origin⟩ }

/-- Copy a stretch of the source; the lines that begin inside it begin at the given offsets. -/
def copyLines (source : List Char) (start stop : Nat) (printing : Printing) :
    List Nat → Printing
  | [] => printing.push (Text.slice start stop source)
  | next :: rest =>
      let printing := printing.push (Text.slice start next source)
      let printing :=
        if next < stop then printing.mark (.ofOffset source next) else printing
      copyLines source next stop printing rest

/-- Copy a stretch of the source, with a mapping for its start and for each line in it. -/
def copy (source : List Char) (start stop : Nat) (printing : Printing) : Printing :=
  if start = stop then printing
  else
    copyLines source start stop (printing.mark (.ofOffset source start))
      (Text.lineStartsFrom start (Text.slice start stop source))

/-- Print the source from an offset on with edits applied. -/
def copyEdited (source : List Char) (start : Nat) (printing : Printing) :
    List Edit → Printing
  | [] => copy source start (Text.byteLength source) printing
  | edit :: rest =>
      let printing := copy source start edit.start printing
      let printing := printing.mark (.ofOffset source edit.start)
      copyEdited source edit.stop (printing.push edit.text) rest

/-- Print more text at the end, on a line of its own. -/
def pushTrailer (printing : Printing) (trailer : List Char) : Printing :=
  let printing :=
    if !printing.text.isEmpty && !Text.endsLine printing.text then printing.push ['\n']
    else printing
  printing.push trailer

end Printing

/-- A printed text and its map. -/
structure Printed where
  /-- The text. -/
  text : List Char
  /-- The map back to the source. -/
  map : PositionMap

/-- Print the text of the source `name` with edits applied and a trailer behind it. -/
def Printed.ofEdits (name : String) (source : List Char) (edits : List Edit)
    (trailer : Option (List Char)) : Printed :=
  let printing := Printing.copyEdited source 0 .start edits
  let printing := match trailer with
    | some trailer => printing.pushTrailer trailer
    | none => printing
  ⟨printing.text,
    { PositionMap.ofSource name (some (String.ofList source)) with
      mappings := printing.mappings }⟩

end MessageExpansion
