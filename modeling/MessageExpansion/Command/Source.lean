import MessageExpansion.Command.Error
import MessageExpansion.Command.Result

/-!
# Sources

The scripts of a command with their texts, and what a command leaves behind.
-/

namespace MessageExpansion

/-- A script that a command is applied to. -/
structure ScriptSource where
  /-- Its name in messages and maps. -/
  name : String
  /-- The file it is from; none for the standard input. -/
  file : Option ScannedFile
  /-- Its text. -/
  text : List Char

namespace ScriptSource

/-- The name of the standard input. -/
def standardInputName : String := "<stdin>"

/-- What is wrong with a file that is no text. -/
def noText : String := "stream did not contain valid UTF-8"

/-- The text of a file, which may fail to be read. -/
def ofFile (workspace : Workspace) (file : ScannedFile) : Except FileFailure ScriptSource :=
  match workspace.read? file.path with
  | some text => .ok ⟨file.path, some file, text.toList⟩
  | none => .error ⟨file.path, file.path ++ ": failed to read file: " ++ noText⟩

/-- The texts of the inputs. -/
def readAll (workspace : Workspace) (standardInput : Option String) :
    Inputs → Except CommandError (List (Except FileFailure ScriptSource))
  | .files files => .ok (files.map (ofFile workspace))
  | .standardInput =>
      match standardInput with
      | some text => .ok [.ok ⟨standardInputName, none, text.toList⟩]
      | none => .error .unreadableInput

end ScriptSource

/-- The values among results. -/
def succeeded {α : Type} (results : List (Except FileFailure α)) : List α :=
  results.filterMap Except.toOption

@[simp] theorem succeeded_ok {α : Type} (value : α) (rest : List (Except FileFailure α)) :
    succeeded (.ok value :: rest) = value :: succeeded rest := rfl

@[simp] theorem succeeded_error {α : Type} (failure : FileFailure)
    (rest : List (Except FileFailure α)) :
    succeeded (.error failure :: rest) = succeeded rest := rfl

/-- The failures among results. -/
def failed {α : Type} (results : List (Except FileFailure α)) : List FileFailure :=
  results.filterMap fun
    | .error failure => some failure
    | .ok _ => none

/-- A file to be written. -/
structure OutputFile where
  /-- Its path. -/
  path : String
  /-- Its content. -/
  text : String
deriving DecidableEq, Repr

namespace Workspace

/-- Write a file; the directories on its path are made. -/
def save (workspace : Workspace) (output : OutputFile) : Except CommandError Workspace :=
  let directory := (Path.parent? output.path).getD ""
  match workspace.makeDirectories? directory with
  | none => .error (.directoryNotMade directory)
  | some workspace =>
      match workspace.write? output.path output.text with
      | none => .error (.fileNotWritten output.path)
      | some workspace => .ok workspace

/-- Write files until one cannot be written; those before it stay. -/
def saveAll (workspace : Workspace) : List OutputFile → Workspace × Option CommandError
  | [] => (workspace, none)
  | output :: rest =>
      match workspace.save output with
      | .ok workspace => saveAll workspace rest
      | .error error => (workspace, some error)

end Workspace

/-- What a command leaves behind. -/
structure Execution where
  /-- The files after it. -/
  workspace : Workspace
  /-- What it wrote to the standard output. -/
  output : String
  /-- What it warned of. -/
  warnings : List String
  /-- What came of it. -/
  result : Except CommandError CommandResult

/-- A command that gives up before it does anything. -/
def Execution.refused (workspace : Workspace) (error : CommandError) : Execution :=
  ⟨workspace, "", [], .error error⟩

end MessageExpansion
