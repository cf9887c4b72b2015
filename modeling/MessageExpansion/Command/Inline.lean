import MessageExpansion.Command.Preparation
import MessageExpansion.Command.Source
import MessageExpansion.Expansion.Inline
import MessageExpansion.PositionMap.Document

/-!
# The command that inlines

The output of all scripts goes to one place, one after the other, or that of each to a file of its
own below a directory.  In one place the functions of all scripts have different indices; in
different files the indices start anew.
-/

namespace MessageExpansion

/-- An inlined script with its name. -/
structure InlinedFile where
  /-- Its name in messages and maps. -/
  name : String
  /-- The path of its output below an output directory. -/
  subpath : Option String
  /-- The script. -/
  script : InlinedScript

/-- What came of inlining one script, with what was warned of. -/
structure InlinedSource where
  /-- What was warned of. -/
  warnings : List String
  /-- The inlined script. -/
  result : Except FileFailure InlinedFile

namespace InlineCommand

/-- The path of the map that stands next to a file. -/
def mapPath (path : String) : String := path ++ ".map"

/-- The map that stands next to a script and leads to its own source; one that cannot be used is
left out with a warning. -/
def inputMap (workspace : Workspace) (file : ScannedFile) : List String × Option PositionMap :=
  let path := mapPath file.path
  let ignoring (reason : String) := ["Ignoring input map " ++ path ++ ": " ++ reason]
  if workspace.isFile path then
    match workspace.read? path with
    | none => (ignoring ScriptSource.noText, none)
    | some document =>
        match PositionMap.parse document with
        | .ok map => ([], some map)
        | .error error => (ignoring error.message, none)
  else ([], none)

/-- Inline one script, with functions from an index on. -/
def inlineSource (session : Session) (workspace : Workspace) (first : Nat)
    (source : ScriptSource) : InlinedSource :=
  let (mapWarnings, map) := match source.file with
    | some file => inputMap workspace file
    | none => ([], none)
  let outcome := (Inlining.mk session source.name source.text).run map first
  let warnings := mapWarnings ++ outcome.warnings.map BrokenLocalization.warning
  match outcome.result with
  | .ok script => ⟨warnings, .ok ⟨source.name, source.file.map (·.subpath), script⟩⟩
  | .error error => ⟨warnings, .error ⟨source.name, error.message⟩⟩

/-- Inline scripts one after the other; no two of them have functions with one index. -/
def inlineInOrder (session : Session) (workspace : Workspace) (first : Nat) :
    List (Except FileFailure ScriptSource) → List InlinedSource
  | [] => []
  | .error failure :: rest => ⟨[], .error failure⟩ :: inlineInOrder session workspace first rest
  | .ok source :: rest =>
      let inlined := inlineSource session workspace first source
      let next := match inlined.result with
        | .ok file => file.script.next
        | .error _ => first
      inlined :: inlineInOrder session workspace next rest

/-- Inline scripts each by itself. -/
def inlineEach (session : Session) (workspace : Workspace)
    (sources : List (Except FileFailure ScriptSource)) : List InlinedSource :=
  sources.map fun
    | .error failure => ⟨[], .error failure⟩
    | .ok source => inlineSource session workspace 1 source

/-- A text with its map. -/
structure MappedText where
  /-- The text. -/
  text : List Char
  /-- Its map. -/
  map : PositionMap

/-- Put a script behind a text, on a line of its own. -/
def MappedText.add (merged : MappedText) (file : InlinedFile) : MappedText :=
  let before := Text.withFinalNewline merged.text
  ⟨before ++ file.script.text,
    merged.map.append file.script.map (Text.lineStarts before).length⟩

/-- Inlined scripts as one text. -/
def merge (files : List InlinedFile) : MappedText :=
  files.foldl MappedText.add ⟨[], .empty⟩

/-- The text with the comment that its map calls for.  Without the name of a map file, there is no
comment for one. -/
def withMapComment (maps : MapPlacement) (mapName : Option String) (output : MappedText) :
    List Char :=
  let comment (url : String) : List Char :=
    Text.withFinalNewline output.text ++ (PositionMap.urlComment url).toList
  match maps, mapName with
  | .inOutput, _ => comment output.map.dataUrl
  | .besideOutput, some name => comment name
  | _, _ => output.text

/-- The files for an output at a path: its text, and its map if that has a file of its own. -/
def outputFiles (maps : MapPlacement) (path : String) (output : MappedText) : List OutputFile :=
  let name := (Path.fileName? path).getD ""
  let named : MappedText := ⟨output.text, { output.map with file := some name }⟩
  let mapName := (Path.fileName? (mapPath path)).getD ""
  let text : OutputFile :=
    ⟨path, String.ofList (withMapComment maps (some mapName) named)⟩
  match maps with
  | .besideOutput => [text, ⟨mapPath path, named.map.print⟩]
  | _ => [text]

/-- The texts of inlined scripts one after the other, each with its comment. -/
def concatenation (maps : MapPlacement) (files : List InlinedFile) : String :=
  String.ofList
    (files.flatMap fun file => withMapComment maps none ⟨file.script.text, file.script.map⟩)

/-- Where output goes. -/
inductive Target where
  | standardOutput
  /-- Into one file. -/
  | file (path : String)
  /-- Into a file for each script below a directory. -/
  | directory (path : String)

/-- Where the output of a command with these arguments goes. -/
def target (arguments : InlineArguments) : Target :=
  match arguments.outFile, arguments.outDirectory with
  | some path, _ => .file path
  | none, some path => .directory path
  | none, none => .standardOutput

/-- The path of the output of a script below a directory. -/
def pathBelow (directory : String) (file : InlinedFile) : String :=
  Path.join directory (file.subpath.getD file.name)

/-- The outputs to files, by their paths. -/
def outputs (target : Target) (files : List InlinedFile) : List (String × MappedText) :=
  match target with
  | .standardOutput => []
  | .file path => if files.isEmpty then [] else [(path, merge files)]
  | .directory path =>
      files.map fun file => (pathBelow path file, ⟨file.script.text, file.script.map⟩)

/-- What there is to warn of before anything is inlined. -/
def targetWarnings (maps : MapPlacement) : Target → List String
  | .standardOutput =>
      if maps = .besideOutput then
        ["Source map files need --out-file or --out-dir; no map will be written"]
      else []
  | _ => []

/-- A count over all scripts. -/
def total (count : InlinedScript → Nat) (files : List InlinedFile) : Nat :=
  files.foldr (fun file sum => count file.script + sum) 0

/-- What was done to scripts. -/
def summary (files : List InlinedFile) (written : List String) : CommandSummary :=
  .inline (total (·.replaced) files) (total (·.generated) files) written

/-- Write the output of inlined scripts. -/
def deliver (workspace : Workspace) (maps : MapPlacement) (target : Target)
    (warnings : List String) (results : List (Except FileFailure InlinedFile)) : Execution :=
  let files := succeeded results
  let outputs := outputs target files
  let (workspace, error) :=
    workspace.saveAll (outputs.flatMap fun output => outputFiles maps output.1 output.2)
  let text := match target with
    | .standardOutput => concatenation maps files
    | _ => ""
  match error with
  | some error => ⟨workspace, text, warnings, .error error⟩
  | none =>
      ⟨workspace, text, warnings,
        .ok (.finish (summary files (outputs.map (·.1))) [] (failed results) results.length)⟩

/-- Inline the inputs of a prepared command. -/
def runPrepared (arguments : InlineArguments) (preparation : Preparation)
    (workspace : Workspace) (standardInput : Option String) : Execution :=
  let target := target arguments
  match target, preparation.inputs with
  | .directory _, .standardInput => .refused workspace .directoryForStandardInput
  | _, inputs =>
      let warnings := targetWarnings arguments.maps target
      match ScriptSource.readAll workspace standardInput inputs with
      | .error error => ⟨workspace, "", warnings, .error error⟩
      | .ok sources =>
          let inlined := match target with
            | .directory _ => inlineEach preparation.session workspace sources
            | _ => inlineInOrder preparation.session workspace 1 sources
          deliver workspace arguments.maps target
            (warnings ++ inlined.flatMap (·.warnings)) (inlined.map (·.result))

/-- Run the command. -/
def run (arguments : InlineArguments) (workspace : Workspace) (standardInput : Option String) :
    Execution :=
  match arguments.common.prepare workspace arguments.policy with
  | .error error => .refused workspace error
  | .ok preparation => runPrepared arguments preparation workspace standardInput

end InlineCommand
end MessageExpansion
