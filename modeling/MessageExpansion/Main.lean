import MessageExpansion.Arguments.Parser
import MessageExpansion.Command.Run

/-!
# The program

Everything that touches the outside: it surveys the files that an invocation is about, runs the
invocation on them, and carries out what came of it.
-/

namespace MessageExpansion
namespace Program

/-- The version of the program. -/
def version : String := "0.1.0"

/-- The text of a file. -/
def readText? (path : String) : IO (Option String) := do
  return String.fromUTF8? (← IO.FS.readBinFile path)

/-- The files and directories below a directory; their texts are not read. -/
partial def readDirectory (path : String) : IO FileTree := do
  let mut entries : List (String × FileTree) := []
  for entry in ← (← IO.FS.realPath path).readDir do
    match (← entry.path.symlinkMetadata).type with
    | .dir =>
        let tree ← readDirectory entry.path.toString
        entries := SortedMap.insertEntry entry.fileName tree entries
    | .file => entries := SortedMap.insertEntry entry.fileName (.file none) entries
    | _ => pure ()
  return .directory entries

/-- The workspace with the file or directory at a path in it, if there is one.  A file is there with
its text; a directory is there with all below it if the survey goes deep. -/
def survey (deep : Bool) (workspace : Workspace) (path : String) : IO Workspace := do
  match ← (IO.FS.realPath path).toBaseIO with
  | .error _ => return workspace
  | .ok real =>
      let full := real.toString
      let isDirectory ← real.isDir
      let directory := if isDirectory then full else (Path.parent? full).getD "/"
      let workspace := (workspace.makeDirectories? directory).getD workspace
      if isDirectory && !deep then return workspace
      let tree ← if isDirectory then readDirectory full else FileTree.file <$> readText? full
      return { workspace with
        root := (FileTree.put? tree (Path.names full) workspace.root).getD workspace.root }

/-- The workspace with the files and directories at some paths in it. -/
def surveyAll (deep : Bool) (workspace : Workspace) (paths : List String) : IO Workspace :=
  paths.foldlM (survey deep) workspace

/-- The directory from which a pattern is searched for, or the path itself if it is none. -/
def searchRoot (input : String) : String :=
  if Glob.isWild input then
    let pieces := (Path.splitSlashes input.toList).takeWhile fun piece =>
      !Glob.isWild (String.ofList piece)
    let root := String.ofList (Path.joinSlashes pieces)
    if root.isEmpty then (if Path.isAbsolute input then "/" else ".") else root
  else input

/-- The paths at which a configuration is looked for. -/
def configurationPaths (here : Place) : List String :=
  (Configuration.upwards here).flatMap fun place =>
    [Configuration.fileName, Configuration.repositoryName].map (Path.join (Place.path place))

/-- The paths that a command with these arguments reads: its catalog, its scripts and the maps next
to them. -/
def readPaths (arguments : CommonArguments) (workspace : Workspace) : List String :=
  match Configuration.load workspace with
  | .error _ => []
  | .ok loaded =>
      let catalog :=
        (arguments.catalog.or (loaded.configuration.catalogPath? loaded.file)).toList
      match Scan.run workspace arguments.inputs loaded.configuration.ignores with
      | .ok (.files files) =>
          catalog ++ files.flatMap fun file => [file.path, InlineCommand.mapPath file.path]
      | _ => catalog

/-- The arguments of a command on scripts, and the paths that it writes to. -/
def commandPaths : Invocation → Option CommonArguments × List String
  | .overview => (none, [])
  | .init => (none, [Configuration.fileName])
  | .lint arguments => (some arguments, [])
  | .extract arguments => (some arguments.common, arguments.outFile.toList)
  | .inline arguments =>
      (some arguments.common, arguments.outFile.toList ++ arguments.outDirectory.toList)

/-- The workspace that an invocation is about. -/
def workspaceFor (invocation : Invocation) : IO Workspace := do
  let here := (← IO.FS.realPath (← IO.currentDir)).toString
  let (arguments, written) := commandPaths invocation
  let workspace ← survey false ⟨.empty, Path.names here⟩ here
  let inputs := (arguments.map (·.inputs)).getD []
  let workspace ← surveyAll true workspace (inputs.map searchRoot)
  let workspace ← surveyAll false workspace (configurationPaths workspace.here ++ written)
  match arguments with
  | none => return workspace
  | some arguments => surveyAll false workspace (readPaths arguments workspace)

/-- The text on the standard input, if the invocation uses it. -/
def standardInputFor (invocation : Invocation) : IO (Option String) := do
  match (commandPaths invocation).1 with
  | some arguments =>
      if arguments.inputs.isEmpty then
        return String.fromUTF8? (← (← IO.getStdin).readBinToEnd)
      else return some ""
  | none => return some ""

/-- Write the files that an invocation changed. -/
def carryOut (before after : Workspace) : IO Unit :=
  for (place, text) in FileTree.changes before.root after.root do
    IO.FS.createDirAll (Place.path place.dropLast)
    IO.FS.writeFile (Place.path place) text

/-- Run an invocation on the files there are. -/
def perform (invocation : Invocation) : IO UInt32 := do
  let workspace ← workspaceFor invocation
  let completion := invocation.run workspace (← standardInputFor invocation) false
  carryOut workspace completion.workspace
  IO.print completion.output
  IO.eprint completion.diagnostics
  for error in completion.error do
    IO.eprintln ("Error: " ++ error.message)
  return UInt32.ofNat completion.status.code

end Program
end MessageExpansion

open MessageExpansion in
/-- Run the program with the words of its command line. -/
def main (arguments : List String) : IO UInt32 := do
  match Invocation.parse arguments with
  | .ok invocation => Program.perform invocation
  | .error .helpRequested => do
      IO.print Invocation.overviewText
      return 0
  | .error .versionRequested => do
      IO.println Program.version
      return 0
  | .error error => do
      IO.eprintln ("error: " ++ error.message)
      return 2
