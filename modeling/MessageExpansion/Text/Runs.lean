/-!
# Runs of characters

The maximal runs of characters of one class in a text, such as its words.
-/

namespace MessageExpansion
namespace Text

/-- The run held in reverse, unless it is empty. -/
def finishRun (reversed : List Char) : List (List Char) :=
  if reversed.isEmpty then [] else [reversed.reverse]

/-- The runs of a text that continues a run held in reverse. -/
def runsAfter (keep : Char → Bool) (reversed : List Char) : List Char → List (List Char)
  | [] => finishRun reversed
  | c :: rest =>
      if keep c then runsAfter keep (c :: reversed) rest
      else finishRun reversed ++ runsAfter keep [] rest

/-- The maximal non-empty runs of characters that satisfy `keep`, in order. -/
def runs (keep : Char → Bool) (text : List Char) : List (List Char) := runsAfter keep [] text

/-- Runs put together again with one separator between neighbours. -/
def joinRuns (separator : Char) : List (List Char) → List Char
  | [] => []
  | [run] => run
  | run :: rest => run ++ separator :: joinRuns separator rest

/-- The text without the `unwanted` characters it ends with. -/
def dropTrailing (unwanted : Char) : List Char → List Char
  | [] => []
  | c :: rest =>
      match dropTrailing unwanted rest with
      | [] => if c = unwanted then [] else [c]
      | kept => c :: kept

end Text
end MessageExpansion
