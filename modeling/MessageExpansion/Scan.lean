import MessageExpansion.Glob.Search

/-!
# Finding scripts

The scripts that inputs name: a file stands for itself, a directory for the scripts below it, and
a pattern for the files that match it.  What is found in a directory or by a pattern may be
ignored.  A path that is named several times is found once.
-/

namespace MessageExpansion

/-- A script that was found. -/
structure ScannedFile where
  /-- Its path. -/
  path : String
  /-- The path of its output below an output directory. -/
  subpath : String
deriving DecidableEq, Repr

/-- What a command is applied to. -/
inductive Inputs where
  | standardInput
  | files (files : List ScannedFile)
deriving DecidableEq, Repr

/-- The reasons why inputs name no scripts. -/
inductive ScanError where
  /-- A pattern for what is ignored is none. -/
  | invalidIgnore (pattern : String)
  /-- A pattern among the inputs is none. -/
  | invalidPattern (pattern : String)
  /-- The input is no file, no directory and no pattern. -/
  | missing (input : String)
deriving DecidableEq, Repr

/-- The error in words. -/
def ScanError.message : ScanError → String
  | invalidIgnore pattern => "Invalid ignore pattern: \"" ++ pattern ++ "\""
  | invalidPattern pattern => "Invalid glob pattern: \"" ++ pattern ++ "\""
  | missing input => "Input path does not exist: " ++ input

/-- Patterns for what is ignored. -/
abbrev Ignores := List Glob

namespace Ignores

/-- Read patterns; the first that is none is an error. -/
def parse (patterns : List String) : Except ScanError Ignores :=
  patterns.mapM fun pattern =>
    match Glob.parse? pattern with
    | some glob => .ok glob
    | none => .error (.invalidIgnore pattern)

/-- The path is ignored; a step to the current directory at its start does not count. -/
def contain (ignores : Ignores) (path : String) : Bool :=
  ignores.any fun glob => Glob.matchesPath glob (Path.dropCurrent path)

end Ignores

namespace ScannedFile

/-- The extensions of scripts. -/
def extensions : List String := ["js", "jsx", "mjs", "cjs", "ts", "tsx", "mts", "cts"]

/-- The path of a script. -/
def isScript (path : String) : Bool := (Path.extension? path).any extensions.contains

/-- A file that is named by its path.  Its subpath has the names on the path alone, so it cannot
lead out of the output directory. -/
def named (path : String) : ScannedFile := ⟨path, String.intercalate "/" (Path.names path)⟩

/-- A file whose path was found below a directory.  Its subpath is what follows the directory there,
and the whole path if the directory does not stand at its start. -/
def below (directory path : String) : ScannedFile :=
  ⟨path, (Path.behind? directory path).getD path⟩

/-- A file that was found below a directory by the names that lead to it. -/
def foundBelow (directory : String) (names : Place) : ScannedFile :=
  below directory (names.foldl Path.join directory)

/-- Two paths are spellings of one. -/
def samePath (first second : ScannedFile) : Bool :=
  Path.components first.path == Path.components second.path

/-- The files without those whose path was there before. -/
def distinct (files : List ScannedFile) : List ScannedFile :=
  files.foldl (fun kept file => if kept.any (samePath file) then kept else kept ++ [file]) []

end ScannedFile

namespace Scan

/-- The scripts below a directory. -/
def scriptsBelow (workspace : Workspace) (ignores : Ignores) (directory : String) :
    List ScannedFile :=
  (((workspace.below directory).filter (·.2.isFile)).map fun found =>
      ScannedFile.foundBelow directory found.1).filter fun file =>
    ScannedFile.isScript file.path && !ignores.contain file.path

/-- The files that match a pattern. -/
def filesMatching (workspace : Workspace) (ignores : Ignores) (search : GlobSearch) :
    List ScannedFile :=
  ((search.run workspace).filter fun path =>
      workspace.isFile path && !ignores.contain path).map ScannedFile.named

/-- The files that an input names. -/
def filesOf (workspace : Workspace) (ignores : Ignores) (input : String) :
    Except ScanError (List ScannedFile) :=
  if workspace.isFile input then .ok [ScannedFile.named input]
  else if workspace.isDirectory input then .ok (scriptsBelow workspace ignores input)
  else if Glob.isWild input then
    match GlobSearch.parse? input with
    | some search => .ok (filesMatching workspace ignores search)
    | none => .error (.invalidPattern input)
  else .error (.missing input)

/-- What the inputs name; without inputs that is the standard input. -/
def run (workspace : Workspace) (inputs ignored : List String) : Except ScanError Inputs := do
  if inputs.isEmpty then return .standardInput
  let ignores ← Ignores.parse ignored
  let found ← inputs.mapM (filesOf workspace ignores)
  return .files (ScannedFile.distinct found.flatten)

end Scan
end MessageExpansion
