/-!
# Paths

The lexical structure of paths: components between slashes.  Repeated slashes and inner `.`
components have no meaning and are not listed; nothing here looks at a file tree.  Two paths with
the same components are spellings of one path.
-/

namespace MessageExpansion

/-- One step of a path. -/
inductive PathComponent where
  /-- The root of the tree. -/
  | root
  /-- The directory itself; listed only at the start of a path. -/
  | current
  /-- The directory above. -/
  | parent
  /-- An entry of the directory. -/
  | normal (name : String)
deriving DecidableEq, Repr

namespace Path

/-- A text cut at its slashes. -/
def splitSlashes : List Char → List (List Char)
  | [] => [[]]
  | c :: rest =>
      if c = '/' then [] :: splitSlashes rest
      else
        match splitSlashes rest with
        | first :: more => (c :: first) :: more
        | [] => [[c]]

/-- Pieces with slashes between them. -/
def joinSlashes (pieces : List (List Char)) : List Char := ['/'].intercalate pieces

/-- A piece that leads nowhere: empty, or the directory itself. -/
def isIdle (piece : List Char) : Bool := piece == [] || piece == ['.']

/-- The component for a piece between slashes; an idle piece is none. -/
def componentOf (piece : List Char) : Option PathComponent :=
  if isIdle piece then none
  else if piece = ['.', '.'] then some .parent
  else some (.normal (String.ofList piece))

/-- The components of a path. -/
def components (path : String) : List PathComponent :=
  let pieces := splitSlashes path.toList
  let start : List PathComponent :=
    match pieces with
    | [] :: _ :: _ => [.root]
    | ['.'] :: _ => [.current]
    | _ => []
  start ++ pieces.filterMap componentOf

/-- The path starts at the root. -/
def isAbsolute (path : String) : Bool := path.toList.head? == some '/'

/-- The names among the components: without the root, and without steps to the directory itself
and the directory above. -/
def names (path : String) : List String :=
  (components path).filterMap fun
    | .normal name => some name
    | _ => none

/-- A path that starts where another one ends; an absolute path stays as it is. -/
def join (base path : String) : String :=
  if isAbsolute path || base.isEmpty then path
  else if base.toList.getLast? == some '/' then base ++ path
  else base ++ "/" ++ path

/-- Pieces without the idle ones at the end. -/
def dropIdleEnd (pieces : List (List Char)) : List (List Char) :=
  (pieces.reverse.dropWhile isIdle).reverse

/-- The text of the components before the last, as it stands in the path; nothing if there is no
last one to take away. -/
def parent? (path : String) : Option String :=
  match splitSlashes path.toList with
  | [] :: piece :: rest =>
      if (dropIdleEnd (piece :: rest)).isEmpty then none
      else some (String.ofList ('/' :: joinSlashes (before (piece :: rest))))
  | ['.'] :: rest =>
      if (dropIdleEnd rest).isEmpty then some ""
      else some (String.ofList (joinSlashes (['.'] :: before rest)))
  | pieces =>
      if (dropIdleEnd pieces).isEmpty then none
      else some (String.ofList (joinSlashes (before pieces)))
where
  /-- The pieces before the last one that leads somewhere. -/
  before (pieces : List (List Char)) : List (List Char) :=
    dropIdleEnd (dropIdleEnd pieces).dropLast

/-- Pieces behind the first `count` ones that lead somewhere, from the next one of these on. -/
def dropBusy : (count : Nat) → List (List Char) → List (List Char)
  | _, [] => []
  | 0, piece :: rest => if isIdle piece then dropBusy 0 rest else piece :: rest
  | count + 1, piece :: rest =>
      if isIdle piece then dropBusy (count + 1) rest else dropBusy count rest

/-- The text of what follows a base in a path, if the path begins with the components of the
base. -/
def behind? (base path : String) : Option String :=
  if base.isEmpty then some path
  else if (components base).isPrefixOf (components path) then
    let steps := (splitSlashes base.toList).filter fun piece => !isIdle piece
    let rest := dropBusy steps.length (splitSlashes path.toList)
    some (String.ofList (joinSlashes (dropIdleEnd rest)))
  else none

/-- The path without a step to the directory itself at its start. -/
def dropCurrent (path : String) : String := (behind? "." path).getD path

/-- The name of the last component, if that is an entry of a directory. -/
def fileName? (path : String) : Option String :=
  match (components path).getLast? with
  | some (.normal name) => some name
  | _ => none

/-- What follows the last dot of a name, unless the name starts with that dot. -/
def extensionOf? (name : String) : Option String :=
  let ending := (name.toList.reverse.takeWhile (· != '.')).reverse
  if name.toList.length ≤ ending.length + 1 then none else some (String.ofList ending)

/-- The extension of the file that a path names. -/
def extension? (path : String) : Option String := (fileName? path).bind extensionOf?

end Path
end MessageExpansion
