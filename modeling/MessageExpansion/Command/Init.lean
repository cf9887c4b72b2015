import MessageExpansion.Command.Source

/-!
# The command that starts a project

It writes a configuration file with the usual settings to the current directory, unless there is
one.
-/

namespace MessageExpansion
namespace InitCommand

/-- Run the command. -/
def run (workspace : Workspace) : Execution :=
  let path := Configuration.fileName
  if workspace.exists? path then
    ⟨workspace, "", [], .ok (.finish (.init (some (path ++ " already exists"))) [] [] 0)⟩
  else
    match workspace.write? path Configuration.default.print with
    | some workspace => ⟨workspace, "", [], .ok (.finish (.init none) [] [] 0)⟩
    | none => .refused workspace (.fileNotWritten path)

end InitCommand
end MessageExpansion
