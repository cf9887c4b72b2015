import MessageExpansion.Digest.Sha256
import MessageExpansion.Text.Blank
import MessageExpansion.Text.Case
import MessageExpansion.Text.Letter
import MessageExpansion.Text.Runs

/-!
# Catalog keys

A catalog files a pattern under a key that is derived from the pattern's text.  Extraction and
lookup have to use the same strategy.
-/

namespace MessageExpansion

/-- How keys are derived from patterns. -/
inductive KeyStrategy where
  /-- The pattern itself. -/
  | literal
  /-- The words of the pattern with one blank between them. -/
  | normalized
  /-- The runs of letters and digits of the pattern in lower case, joined by underscores. -/
  | underscored
  /-- The underscored key followed by a hash of the pattern. -/
  | underscoredHash
deriving DecidableEq, Repr

namespace KeyStrategy

/-- All strategies. -/
def all : List KeyStrategy := [.literal, .normalized, .underscored, .underscoredHash]

/-- The name of a strategy on the command line and in configuration files. -/
def name : KeyStrategy → String
  | .literal => "literal"
  | .normalized => "normalized"
  | .underscored => "underscored"
  | .underscoredHash => "underscored_hash"

/-- The strategy of a name. -/
def ofName? (name : String) : Option KeyStrategy := all.find? (·.name == name)

end KeyStrategy

namespace Key

/-- The greatest number of characters of an underscored key. -/
def maxSlugLength : Nat := 50

/-- The words of a text with one blank between them. -/
def normalized (pattern : String) : String :=
  String.ofList (Text.joinRuns ' ' (Text.runs (fun c => !Text.isBlank c) pattern.toList))

/-- A character that an underscored key keeps. -/
def isSlugChar (c : Char) : Bool := Text.isLetter c || Text.isNumber c

/-- The lower-case runs of letters and digits joined by underscores, cut to the greatest length. -/
def underscored (pattern : String) : String :=
  let slug := Text.joinRuns '_' (Text.runs isSlugChar (Text.lower pattern.toList))
  String.ofList (Text.dropTrailing '_' (slug.take maxSlugLength))

/-- The underscored key, if it is not empty, and the hash of the pattern. -/
def underscoredHash (pattern : String) : String :=
  let slug := underscored pattern
  let hash := Digest.shortHash pattern
  if slug.isEmpty then hash else slug ++ "_" ++ hash

end Key

/-- What a strategy makes of a pattern; an empty text is no key. -/
def KeyStrategy.derive (strategy : KeyStrategy) (pattern : String) : String :=
  match strategy with
  | .literal => pattern
  | .normalized => Key.normalized pattern
  | .underscored => Key.underscored pattern
  | .underscoredHash => Key.underscoredHash pattern

/-- The key of a pattern; there is none when the strategy leaves nothing of the pattern. -/
def KeyStrategy.key? (strategy : KeyStrategy) (pattern : String) : Option String :=
  let key := strategy.derive pattern
  if key.isEmpty then none else some key

end MessageExpansion
