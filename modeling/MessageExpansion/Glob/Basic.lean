/-!
# Wildcards

Patterns for paths.  A question mark stands for one character, a star for any text, brackets for
one of the characters in them, or none of them after an exclamation mark.  Two stars are a whole
component and stand for any directories.  A pattern with stars or brackets in other places is no
pattern.
-/

namespace MessageExpansion

/-- A range of characters between brackets; its ends belong to it. -/
structure CharRange where
  /-- The first character. -/
  first : Char
  /-- The last character. -/
  last : Char
deriving DecidableEq, Repr

/-- The character is in the range. -/
def CharRange.contains (range : CharRange) (c : Char) : Bool := range.first ≤ c && c ≤ range.last

/-- A part of a pattern. -/
inductive GlobToken where
  /-- The character itself. -/
  | char (c : Char)
  /-- Any character. -/
  | anyChar
  /-- Any text, slashes included. -/
  | anyText
  /-- Any directories, or none. -/
  | anyDirectories
  /-- A character in one of the ranges. -/
  | among (ranges : List CharRange)
  /-- A character in none of the ranges. -/
  | except (ranges : List CharRange)
deriving DecidableEq, Repr

/-- A pattern for paths. -/
abbrev Glob := List GlobToken

namespace Glob

/-- The ranges that are spelled between brackets: a dash between two characters makes a range,
and any other character is one by itself. -/
def ranges : List Char → List CharRange
  | [] => []
  | first :: '-' :: last :: rest => ⟨first, last⟩ :: ranges rest
  | c :: rest => ⟨c, c⟩ :: ranges rest

mutual

/-- The tokens of a pattern.  `atStart` says that a component starts here. -/
def tokens? (atStart : Bool) : List Char → Option Glob
  | [] => some []
  | '?' :: rest => (tokens? false rest).map (.anyChar :: ·)
  | '*' :: '*' :: '/' :: rest =>
      if atStart then (tokens? true rest).map (.anyDirectories :: ·) else none
  | ['*', '*'] => if atStart then some [.anyDirectories] else none
  | '*' :: '*' :: _ => none
  | '*' :: rest => (tokens? false rest).map (.anyText :: ·)
  | '[' :: '!' :: first :: rest => bracketed? .except [first] rest
  | ['[', '!'] => none
  | '[' :: first :: rest => bracketed? .among [first] rest
  | ['['] => none
  | c :: rest => (tokens? (c == '/') rest).map (.char c :: ·)

/-- The tokens of a pattern from inside brackets on.  What stands between the brackets so far is
listed backwards; its first character, which may be a closing bracket, is there already. -/
def bracketed? (token : List CharRange → GlobToken) (content : List Char) :
    List Char → Option Glob
  | [] => none
  | ']' :: rest => (tokens? false rest).map (token (ranges content.reverse) :: ·)
  | c :: rest => bracketed? token (c :: content) rest

end

/-- The pattern that a text spells, if it spells one. -/
def parse? (text : String) : Option Glob := tokens? true text.toList

/-- The text has a character that makes it a pattern and not the path of a file. -/
def isWild (text : String) : Bool := text.toList.any fun c => c == '*' || c == '?' || c == '['

/-- One character matches a token that stands for one. -/
def acceptsChar (token : GlobToken) (c : Char) : Bool :=
  match token with
  | .char own => own == c
  | .anyChar => true
  | .among ranges => ranges.any (·.contains c)
  | .except ranges => !ranges.any (·.contains c)
  | _ => false

/-- The ends of a text that start after a slash. -/
def afterSlashes : List Char → List (List Char)
  | [] => []
  | c :: rest => if c = '/' then rest :: afterSlashes rest else afterSlashes rest

/-- The ends of a text, the text itself first. -/
def ends : List Char → List (List Char)
  | [] => [[]]
  | c :: rest => (c :: rest) :: ends rest

/-- A text matches a pattern as a whole. -/
def accepts : Glob → List Char → Bool
  | [], text => text.isEmpty
  | .anyText :: rest, text => (ends text).any (accepts rest)
  | .anyDirectories :: rest, text =>
      (text :: afterSlashes text ++ [[]]).any (accepts rest)
  | token :: rest, c :: text => acceptsChar token c && accepts rest text
  | _ :: _, [] => false

/-- The path matches the pattern, as a whole and in its spelling. -/
def matchesPath (pattern : Glob) (path : String) : Bool := accepts pattern path.toList

end Glob
end MessageExpansion
