import MessageExpansion.SortedMap

/-!
# File trees

Files and directories, with the entries of a directory in the order of their names.  A place in a
tree is the list of the names that lead to it from the root.
-/

namespace MessageExpansion

/-- A file or a directory. -/
inductive FileTree where
  /-- A file with a content; there is no text in it if its bytes are not UTF-8. -/
  | file (text : Option String)
  /-- A directory with its entries by name. -/
  | directory (entries : List (String × FileTree))

/-- The names that lead from the root of a tree to a file or directory in it. -/
abbrev Place := List String

namespace FileTree

/-- The directory without entries. -/
def empty : FileTree := .directory []

/-- It is a file. -/
def isFile : FileTree → Bool
  | .file _ => true
  | .directory _ => false

/-- It is a directory. -/
def isDirectory : FileTree → Bool
  | .file _ => false
  | .directory _ => true

/-- The entries of a directory; a file has none. -/
def entries : FileTree → List (String × FileTree)
  | .file _ => []
  | .directory entries => entries

/-- The entry of a directory with a name. -/
def child? (tree : FileTree) (name : String) : Option FileTree :=
  (tree.entries.find? (·.1 == name)).map (·.2)

/-- What is at a place. -/
def get? (tree : FileTree) : Place → Option FileTree
  | [] => some tree
  | name :: rest => (tree.child? name).bind (·.get? rest)

/-- The tree with something put at a place; the directory that gets it has to be there. -/
def put? (new : FileTree) : Place → FileTree → Option FileTree
  | [], _ => some new
  | _ :: _, .file _ => none
  | [name], .directory entries => some (.directory (SortedMap.insertEntry name new entries))
  | name :: next :: rest, .directory entries =>
      match (FileTree.directory entries).child? name with
      | none => none
      | some child =>
          (put? new (next :: rest) child).map fun child =>
            .directory (SortedMap.insertEntry name child entries)

mutual

/-- All that is below a directory, by the names that lead there: an entry comes before what is
below it, and with that before the next entry. -/
def descendants : FileTree → List (Place × FileTree)
  | .file _ => []
  | .directory entries => descendantsOf entries

/-- The entries of a directory with all that is below them. -/
def descendantsOf : List (String × FileTree) → List (Place × FileTree)
  | [] => []
  | (name, child) :: rest =>
      ([name], child) ::
        (descendants child).map (fun found => (name :: found.1, found.2)) ++
          descendantsOf rest

end

/-- The texts of the files that are new in a tree, or differ from those of an earlier tree. -/
def changes (before after : FileTree) : List (Place × String) :=
  after.descendants.filterMap fun found =>
    match found.2, before.get? found.1 with
    | .file (some text), some (.file (some old)) =>
        if text = old then none else some (found.1, text)
    | .file (some text), _ => some (found.1, text)
    | _, _ => none

end FileTree
end MessageExpansion
