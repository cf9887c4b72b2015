import MessageExpansion.Configuration.Discovery
import MessageExpansion.Scan

/-!
# Errors of commands

Why a command cannot run, or cannot go on.
-/

namespace MessageExpansion

/-- The reasons why a command gives up. -/
inductive CommandError where
  /-- There are no settings to work with. -/
  | configuration (error : ConfigurationError)
  | emptyFunction
  /-- There are no localizations to work with. -/
  | catalog (error : CatalogError)
  /-- The inputs name no scripts. -/
  | scan (error : ScanError)
  /-- The standard input has no place below an output directory. -/
  | directoryForStandardInput
  | unreadableInput
  | directoryNotMade (path : String)
  | fileNotWritten (path : String)
deriving DecidableEq, Repr

/-- The error in words. -/
def CommandError.message : CommandError → String
  | configuration error => error.message
  | emptyFunction => "Function name must not be empty"
  | catalog error => error.message
  | scan error => error.message
  | directoryForStandardInput => "--out-dir requires input files"
  | unreadableInput => "Failed to read stdin"
  | directoryNotMade path => "Failed to create directory: " ++ path
  | fileNotWritten path => "Failed to write file: " ++ path

end MessageExpansion
