/-!
# Call trees

What the expansion of messages needs to know about a script: its calls, what their arguments look
like, and which calls stand inside which.  The calls inside a call are listed in the order in which
they are visited, which is that of the text except that the test of a `do` statement comes before
its body, the body of a class before its heritage, and a value, an argument or a body before the
types that are written in front of it.
-/

namespace MessageExpansion
namespace Script

/-- A stretch of a text between two byte offsets. -/
structure Span where
  /-- Where the stretch begins. -/
  start : Nat
  /-- Where the stretch ends. -/
  stop : Nat
deriving DecidableEq, Repr

/-- What an expression looks like, redundant parentheses aside. -/
inductive Shape where
  /-- A variable. -/
  | variable (name : String)
  /-- A string literal. -/
  | string (text : String)
  /-- A template without interpolations. -/
  | template (text : String)
  | other
deriving DecidableEq, Repr

/-- An argument of a call. -/
structure Argument where
  /-- The whole argument, with its parentheses and the dots of a spread. -/
  span : Span
  /-- The argument is spread over several parameters. -/
  isSpread : Bool
  /-- The expression without redundant parentheses. -/
  core : Span
  /-- What the expression looks like. -/
  shape : Shape
deriving DecidableEq, Repr

/-- A call. -/
structure Call where
  /-- The whole call. -/
  span : Span
  /-- The variable that is called, if it is one. -/
  callee : Option String
  /-- The arguments. -/
  arguments : List Argument
deriving DecidableEq, Repr

/-- A call and the calls inside it. -/
inductive CallTree where
  | node (call : Call) (inner : List CallTree)

namespace CallTree

/-- The outermost call. -/
def call : CallTree → Call
  | .node call _ => call

mutual

/-- All calls of a tree, every call after those inside it. -/
def visits : CallTree → List Call
  | .node call inner => visitsAll inner ++ [call]

/-- All calls of a list of trees, one tree after the other. -/
def visitsAll : List CallTree → List Call
  | [] => []
  | tree :: rest => visits tree ++ visitsAll rest

end

end CallTree

end Script
end MessageExpansion
