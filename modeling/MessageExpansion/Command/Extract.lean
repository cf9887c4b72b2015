import MessageExpansion.Command.Preparation
import MessageExpansion.Command.Source
import MessageExpansion.Expansion.Extract

/-!
# The command that extracts

The patterns of all scripts go into one catalog, which is written to the standard output or to a
file.
-/

namespace MessageExpansion
namespace ExtractCommand

/-- Extract the patterns of one script. -/
def extractSource (session : Session) (source : ScriptSource) : Except FileFailure Catalog :=
  match (Extraction.mk session source.name source.text).run with
  | .ok catalog => .ok catalog
  | .error error => .error ⟨source.name, error.message⟩

/-- The catalogs of scripts in one. -/
def merge (catalogs : List Catalog) : Catalog := catalogs.foldl Catalog.merge .empty

/-- The content of the file for a catalog. -/
def document (catalog : Catalog) : String := catalog.print ++ "\n"

/-- Write the catalog of extracted patterns. -/
def deliver (workspace : Workspace) (outFile : Option String)
    (results : List (Except FileFailure Catalog)) : Execution :=
  let catalog := merge (succeeded results)
  let result := CommandResult.finish (.extract catalog.patternCount outFile) [] (failed results)
    results.length
  match outFile with
  | none => ⟨workspace, document catalog, [], .ok result⟩
  | some path =>
      match workspace.save ⟨path, document catalog⟩ with
      | .ok workspace => ⟨workspace, "", [], .ok result⟩
      | .error error => .refused workspace error

/-- Run the command. -/
def run (arguments : ExtractArguments) (workspace : Workspace)
    (standardInput : Option String) : Execution :=
  match arguments.common.prepare workspace none with
  | .error error => .refused workspace error
  | .ok preparation =>
      match ScriptSource.readAll workspace standardInput preparation.inputs with
      | .error error => .refused workspace error
      | .ok sources =>
          deliver workspace arguments.outFile
            (sources.map (·.bind (extractSource preparation.session)))

end ExtractCommand
end MessageExpansion
