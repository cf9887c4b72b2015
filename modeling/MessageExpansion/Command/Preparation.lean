import MessageExpansion.Arguments.Basic
import MessageExpansion.Command.Error

/-!
# Preparing a command

A command works with a session and with inputs.  The session's settings come from the command line,
or else from the configuration file, or else are the usual ones.
-/

namespace MessageExpansion

/-- What a command works with. -/
structure Preparation where
  /-- The settings of the run. -/
  session : Session
  /-- The scripts. -/
  inputs : Inputs

namespace CommonArguments

/-- Read the catalog file at a path. -/
def readCatalog (workspace : Workspace) (path : String) : Except CatalogError Catalog :=
  match workspace.read? path with
  | some content => Catalog.parse content path
  | none => .error (.unreadable path)

/-- The localizations of a session: those of a catalog if one is named. -/
def lookup (arguments : CommonArguments) (workspace : Workspace) (loaded : LoadedConfiguration)
    (keys : KeyStrategy) : Except CatalogError (Option LocalizationLookup) :=
  match arguments.catalog.or (loaded.configuration.catalogPath? loaded.file) with
  | none => .ok none
  | some path => (readCatalog workspace path).map fun catalog => some (catalog.lookup keys)

/-- The session that the arguments and a configuration stand for. -/
def session (arguments : CommonArguments) (workspace : Workspace) (loaded : LoadedConfiguration)
    (policy : Option LocalizationPolicy) : Except CommandError Session :=
  let function := arguments.function.getD loaded.configuration.function
  let keys := arguments.keys.getD loaded.configuration.keys
  if function.isEmpty then .error .emptyFunction
  else
    match arguments.lookup workspace loaded keys with
    | .error error => .error (.catalog error)
    | .ok lookup =>
        .ok
          { function
            locale := arguments.locale.getD loaded.configuration.locale
            keys
            lookup
            policy := policy.getD loaded.configuration.policy }

/-- Prepare a command with these arguments. -/
def prepare (arguments : CommonArguments) (workspace : Workspace)
    (policy : Option LocalizationPolicy) : Except CommandError Preparation :=
  match Configuration.load workspace with
  | .error error => .error (.configuration error)
  | .ok loaded =>
      match arguments.session workspace loaded policy with
      | .error error => .error error
      | .ok session =>
          match Scan.run workspace arguments.inputs loaded.configuration.ignores with
          | .error error => .error (.scan error)
          | .ok inputs => .ok ⟨session, inputs⟩

end CommonArguments
end MessageExpansion
