import MessageExpansion.FileTree
import MessageExpansion.Path

/-!
# Workspaces

A file tree seen from one of its directories.  A path is followed piece by piece, so `..` leads to
the directory above the place reached so far, and only a directory can be gone through.
-/

namespace MessageExpansion

/-- A file tree and the directory in it where relative paths start. -/
structure Workspace where
  /-- The tree. -/
  root : FileTree
  /-- The place of the current directory. -/
  here : Place

/-- The absolute path of a place. -/
def Place.path (place : Place) : String := place.foldl Path.join "/"

namespace Workspace

/-- The place where a path starts. -/
def start (workspace : Workspace) (path : String) : Place :=
  if Path.isAbsolute path then [] else workspace.here

/-- Go on from a place by one piece of a path. -/
def step? (workspace : Workspace) (place : Place) (piece : List Char) : Option Place :=
  match workspace.root.get? place with
  | none => none
  | some (.file _) => none
  | some (.directory entries) =>
      match Path.componentOf piece with
      | some (.normal name) =>
          if entries.any (·.1 == name) then some (place ++ [name]) else none
      | some .parent => some place.dropLast
      | _ => some place

/-- The place that a path leads to; the empty path leads nowhere. -/
def locate? (workspace : Workspace) (path : String) : Option Place :=
  if path.isEmpty then none
  else (Path.splitSlashes path.toList).foldlM workspace.step? (workspace.start path)

/-- What a path leads to. -/
def find? (workspace : Workspace) (path : String) : Option FileTree :=
  (workspace.locate? path).bind workspace.root.get?

/-- The path leads to something. -/
def exists? (workspace : Workspace) (path : String) : Bool := (workspace.find? path).isSome

/-- The path leads to a file. -/
def isFile (workspace : Workspace) (path : String) : Bool :=
  (workspace.find? path).any FileTree.isFile

/-- The path leads to a directory. -/
def isDirectory (workspace : Workspace) (path : String) : Bool :=
  (workspace.find? path).any FileTree.isDirectory

/-- The text of the file that a path leads to. -/
def read? (workspace : Workspace) (path : String) : Option String :=
  match workspace.find? path with
  | some (.file text) => text
  | _ => none

/-- The names in the directory that a path leads to. -/
def list (workspace : Workspace) (path : String) : List String :=
  match workspace.find? path with
  | some tree => tree.entries.map (·.1)
  | none => []

/-- All that is below the directory that a path leads to, by the names that lead on from there. -/
def below (workspace : Workspace) (path : String) : List (Place × FileTree) :=
  match workspace.find? path with
  | some tree => tree.descendants
  | none => []

/-- Go on from a place by one piece of a path, into a new directory if there is nothing. -/
def enter? (state : FileTree × Place) (piece : List Char) : Option (FileTree × Place) :=
  match state.1.get? state.2 with
  | none => none
  | some (.file _) => none
  | some (.directory entries) =>
      match Path.componentOf piece with
      | some (.normal name) =>
          let place := state.2 ++ [name]
          if entries.any (·.1 == name) then some (state.1, place)
          else (FileTree.put? .empty place state.1).map fun tree => (tree, place)
      | some .parent => some (state.1, state.2.dropLast)
      | _ => some state

/-- The workspace with all directories on a path made; nothing if a file is in the way. -/
def makeDirectories? (workspace : Workspace) (path : String) : Option Workspace :=
  if path.isEmpty then some workspace
  else
    match (Path.splitSlashes path.toList).foldlM enter?
        (workspace.root, workspace.start path) with
    | some (tree, place) =>
        if (tree.get? place).any FileTree.isDirectory then some { workspace with root := tree }
        else none
    | none => none

/-- The workspace with a text written to the file that a path leads to.  The file may be new, its
directory has to be there. -/
def write? (workspace : Workspace) (path text : String) : Option Workspace :=
  let pieces := Path.splitSlashes path.toList
  match Path.componentOf (pieces.getLast?.getD []) with
  | some (.normal name) =>
      match pieces.dropLast.foldlM workspace.step? (workspace.start path) with
      | none => none
      | some place =>
          if (workspace.root.get? (place ++ [name])).any FileTree.isDirectory then none
          else
            (FileTree.put? (.file (some text)) (place ++ [name]) workspace.root).map fun tree =>
              { workspace with root := tree }
  | _ => none

end Workspace
end MessageExpansion
