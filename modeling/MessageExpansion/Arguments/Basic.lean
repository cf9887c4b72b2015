import MessageExpansion.Session

/-!
# Invocations

What a command line asks for: one of the commands, with the settings that go before those of the
configuration file.
-/

namespace MessageExpansion

/-- Where the maps of inlined scripts are written. -/
inductive MapPlacement where
  | nowhere
  /-- In a file next to the output. -/
  | besideOutput
  /-- In a comment at the end of the output. -/
  | inOutput
deriving DecidableEq, Repr

namespace MapPlacement

/-- The name of a placement on the command line. -/
def name : MapPlacement → String
  | nowhere => "none"
  | besideOutput => "file"
  | inOutput => "inline"

/-- The placement of a name. -/
def ofName? (name : String) : Option MapPlacement :=
  [nowhere, besideOutput, inOutput].find? (·.name == name)

end MapPlacement

/-- What all commands on scripts are told. -/
structure CommonArguments where
  /-- Files, directories and patterns; without any, the standard input is used. -/
  inputs : List String
  /-- The function whose calls are expanded. -/
  function : Option String
  /-- The locale of calls that name none. -/
  locale : Option String
  /-- How patterns are filed in catalogs. -/
  keys : Option KeyStrategy
  /-- The path of the catalog with localizations. -/
  catalog : Option String
  /-- Whether the report is longer. -/
  verbose : Bool
deriving DecidableEq, Repr

/-- What extraction is told. -/
structure ExtractArguments where
  /-- What all commands are told. -/
  common : CommonArguments
  /-- The file that the catalog is written to. -/
  outFile : Option String
deriving DecidableEq, Repr

/-- What inlining is told. -/
structure InlineArguments where
  /-- What all commands are told. -/
  common : CommonArguments
  /-- The file that all output is written to. -/
  outFile : Option String
  /-- The directory that the output of each script is written to. -/
  outDirectory : Option String
  /-- Where maps are written. -/
  maps : MapPlacement
  /-- What happens to calls whose localization is not a pattern. -/
  policy : Option LocalizationPolicy
deriving DecidableEq, Repr

/-- What a command line asks for. -/
inductive Invocation where
  /-- No command: an overview of the commands. -/
  | overview
  | init
  | lint (arguments : CommonArguments)
  | extract (arguments : ExtractArguments)
  | inline (arguments : InlineArguments)
deriving DecidableEq, Repr

/-- The reasons why a command line asks for no command. -/
inductive UsageError where
  /-- There is no option of this name, or no place for this word. -/
  | unknownArgument (word : String)
  /-- The value of an option is missing, or the option does not have it. -/
  | invalidValue (option : String)
  /-- An option is repeated, or goes against another one. -/
  | conflict (option : String)
  /-- An option without values is given one. -/
  | unexpectedValue (option : String)
  | unknownCommand (word : String)
  /-- Help is asked for in place of a command. -/
  | helpRequested
  /-- The version is asked for in place of a command. -/
  | versionRequested
deriving DecidableEq, Repr

/-- The error in words. -/
def UsageError.message : UsageError → String
  | unknownArgument word => "unexpected argument '" ++ word ++ "'"
  | invalidValue option => "invalid or missing value for '--" ++ option ++ "'"
  | conflict option => "'--" ++ option ++ "' cannot be used here or more than once"
  | unexpectedValue option => "'--" ++ option ++ "' takes no value"
  | unknownCommand word => "unrecognized subcommand '" ++ word ++ "'"
  | helpRequested => "help"
  | versionRequested => "version"

end MessageExpansion
