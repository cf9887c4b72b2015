/-!
# Tokens of scripts

The kinds of tokens that the grammar of scripts tells apart.  Operators that it treats alike share
one kind.
-/

namespace MessageExpansion
namespace Script

/-- Punctuation and operators. -/
inductive Punctuator where
  | openBrace
  | closeBrace
  | openParen
  | closeParen
  | openBracket
  | closeBracket
  | semicolon
  | comma
  | dot
  | ellipsis
  | question
  | questionDot
  | colon
  | arrow
  | atSign
  | backtick
  /-- Plain assignment. -/
  | assign
  /-- Assignment combined with an operator, other than `/=`. -/
  | compoundAssign
  | slash
  | slashAssign
  | less
  | greater
  | plus
  | minus
  | star
  | ampersand
  | bar
  | bang
  | tilde
  /-- `++` and `--`. -/
  | increment
  /-- Any other operator with two operands. -/
  | operator
deriving DecidableEq, Repr

namespace Punctuator

/-- The spellings of punctuators, longer ones first. -/
def table : List (List Char × Punctuator) := [
  (">>>=".toList, compoundAssign),
  ("...".toList, ellipsis), ("===".toList, operator), ("!==".toList, operator),
  (">>>".toList, operator), ("**=".toList, compoundAssign), ("<<=".toList, compoundAssign),
  (">>=".toList, compoundAssign), ("&&=".toList, compoundAssign), ("||=".toList, compoundAssign),
  ("??=".toList, compoundAssign),
  ("=>".toList, arrow), ("==".toList, operator), ("!=".toList, operator), ("<=".toList, operator),
  (">=".toList, operator), ("&&".toList, operator), ("||".toList, operator),
  ("??".toList, operator), ("?.".toList, questionDot), ("++".toList, increment),
  ("--".toList, increment), ("+=".toList, compoundAssign), ("-=".toList, compoundAssign),
  ("*=".toList, compoundAssign), ("/=".toList, slashAssign), ("%=".toList, compoundAssign),
  ("&=".toList, compoundAssign), ("|=".toList, compoundAssign), ("^=".toList, compoundAssign),
  ("<<".toList, operator), (">>".toList, operator), ("**".toList, operator),
  (['\x7b'], openBrace), (['\x7d'], closeBrace), (['('], openParen), ([')'], closeParen),
  (['['], openBracket), ([']'], closeBracket), ([';'], semicolon), ([','], comma), (['.'], dot),
  (['?'], question), ([':'], colon), (['@'], atSign), (['\x60'], backtick), (['='], assign),
  (['/'], slash), (['<'], less), (['>'], greater), (['+'], plus), (['-'], minus), (['*'], star),
  (['%'], operator), (['&'], ampersand), (['|'], bar), (['^'], operator), (['!'], bang),
  (['~'], tilde)]

end Punctuator

/-- The words that cannot name a variable. -/
def reservedWords : List String := [
  "break", "case", "catch", "class", "const", "continue", "debugger", "default", "delete", "do",
  "else", "enum", "export", "extends", "false", "finally", "for", "function", "if", "import",
  "in", "instanceof", "new", "null", "return", "super", "switch", "this", "throw", "true", "try",
  "typeof", "var", "void", "while", "with"]

/-- What a token is. -/
inductive TokenKind where
  /-- A name or keyword; a keyword written with escapes has no meaning of its own. -/
  | name (text : String) (escaped : Bool)
  /-- A name that is private to a class. -/
  | privateName
  | punctuator (which : Punctuator)
  | number
  /-- A string literal; one whose escapes name a lone surrogate has no text. -/
  | string (text : Option String)
  /-- Characters that form no token. -/
  | invalid
  | endOfText
deriving DecidableEq, Repr

end Script
end MessageExpansion
