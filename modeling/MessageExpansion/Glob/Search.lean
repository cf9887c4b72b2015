import MessageExpansion.Glob.Basic
import MessageExpansion.Workspace

/-!
# Searching for paths

The paths in a workspace that match a pattern, in order.  A search goes through the components of
the pattern one by one.  A component without wildcards names the next entry and is not compared
with others; a component of two stars stands for all that is below a directory.
-/

namespace MessageExpansion

/-- A pattern as it is searched for. -/
structure GlobSearch where
  /-- The pattern starts at the root. -/
  isAbsolute : Bool
  /-- The components of the pattern. -/
  pieces : List Glob
  /-- The pattern ends in a slash, which only directories match. -/
  directoriesOnly : Bool

namespace GlobSearch

/-- The pieces between the slashes of a text; a slash at the end adds no empty piece. -/
def piecesOf (text : List Char) : List (List Char) :=
  let pieces := Path.splitSlashes text
  if pieces.getLast? == some [] then pieces.dropLast else pieces

/-- The search that a text spells, if it spells a pattern and each of its components does. -/
def parse? (text : String) : Option GlobSearch :=
  match Glob.parse? text with
  | none => none
  | some _ =>
      let isAbsolute := Path.isAbsolute text
      let relative := if isAbsolute then text.toList.tail else text.toList
      ((piecesOf relative).mapM (Glob.tokens? true)).map fun pieces =>
        ⟨isAbsolute, pieces, text.toList.getLast? == some '/'⟩

/-- The name that a component without wildcards spells. -/
def literal? (piece : Glob) : Option (List Char) :=
  piece.mapM fun
    | .char c => some c
    | _ => none

/-- The component stands for any directories. -/
def isAnyDirectories (piece : Glob) : Bool := piece == [.anyDirectories]

/-- What the paths in a directory start with; those in the current directory are names. -/
def stem (path : String) : String := if Path.components path == [.current] then "" else path

/-- The entries of the directory that lead on from a path and match a component; the directory
itself and the one above do so only if the component starts with a dot. -/
def matching (workspace : Workspace) (piece : Glob) (path : String) : List String :=
  let special :=
    if piece.head? == some (.char '.') then
      ["..", "."].filter fun name => Glob.accepts piece name.toList
    else []
  special.map (Path.join path) ++
    ((workspace.list path).filter fun name => Glob.accepts piece name.toList).map
      (Path.join (stem path))

/-- All that is below a path, each with its path and whether a test holds of its own name. -/
def belowWith (workspace : Workspace) (test : String → Bool) (path : String) :
    List (String × FileTree) :=
  ((workspace.below path).filter fun found => test (found.1.getLast?.getD "")).map fun found =>
    (found.1.foldl Path.join (stem path), found.2)

/-- The paths that lead on from a path by the components of a pattern. -/
def pathsFrom (workspace : Workspace) : List Glob → String → List String
  | [], path => [path]
  | [piece], path => stepsFrom piece path
  | piece :: next :: rest, path =>
      if isAnyDirectories piece then
        if isAnyDirectories next then pathsFrom workspace (next :: rest) path
        else
          (belowWith workspace (fun name => Glob.accepts next name.toList) path).flatMap
            fun found => pathsFrom workspace rest found.1
      else (stepsFrom piece path).flatMap (pathsFrom workspace (next :: rest))
where
  /-- The paths that lead on by one component. -/
  stepsFrom (piece : Glob) (path : String) : List String :=
    if isAnyDirectories piece then
      ((belowWith workspace (fun _ => true) path).filter (·.2.isDirectory)).map (·.1)
    else
      match literal? piece with
      | some name =>
          let next := Path.join (stem path) (String.ofList name)
          let isThere :=
            if name = ['.'] ∨ name = ['.', '.'] then workspace.isDirectory path
            else workspace.exists? next
          if isThere then [next] else []
      | none => if workspace.isDirectory path then matching workspace piece path else []

/-- The paths in a workspace that match the pattern. -/
def run (search : GlobSearch) (workspace : Workspace) : List String :=
  (pathsFrom workspace search.pieces (if search.isAbsolute then "/" else ".")).filter fun path =>
    !search.directoriesOnly || workspace.isDirectory path

end GlobSearch
end MessageExpansion
