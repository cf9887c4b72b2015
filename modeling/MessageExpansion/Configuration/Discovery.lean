import MessageExpansion.Configuration.Basic
import MessageExpansion.Text.Quoted
import MessageExpansion.Workspace

/-!
# Finding the configuration

The configuration file of a project is in the current directory or in one above it, up to the
directory that holds the project's repository.
-/

namespace MessageExpansion

/-- The reasons why there are no settings to work with. -/
inductive ConfigurationError where
  /-- The file at a path cannot be read. -/
  | unreadable (path : String)
  /-- The file at a path does not hold settings. -/
  | unparsed (path : String)
  | invalid (problem : ConfigurationProblem)
deriving DecidableEq, Repr

/-- The error in words. -/
def ConfigurationError.message : ConfigurationError → String
  | unreadable path => "Failed to read config file: " ++ Text.quotedPath path
  | unparsed path => "Failed to parse config file: " ++ Text.quotedPath path
  | invalid problem => problem.message

/-- Settings and where they are from. -/
structure LoadedConfiguration where
  /-- The settings. -/
  configuration : Configuration
  /-- The file that they are from, if they are not the usual ones. -/
  file : Option String
deriving DecidableEq, Repr

namespace Configuration

/-- The name of configuration files. -/
def fileName : String := ".msginlinerc.json"

/-- The directory that makes the one around it a project. -/
def repositoryName : String := ".git"

/-- The directories in which the file is looked for: one after the other upwards. -/
def upwards (place : Place) : List Place :=
  (List.range (place.length + 1)).map fun count => place.take (place.length - count)

/-- The first of some directories that holds the file; those above a repository do not count. -/
def findIn? (tree : FileTree) : List Place → Option Place
  | [] => none
  | place :: rest =>
      if (tree.get? (place ++ [fileName])).isSome then some (place ++ [fileName])
      else if (tree.get? (place ++ [repositoryName])).isSome then none
      else findIn? tree rest

/-- The settings in the file at a path. -/
def loadFile (content : Option String) (path : String) :
    Except ConfigurationError LoadedConfiguration :=
  match content with
  | none => .error (.unreadable path)
  | some content =>
      match parse? content with
      | none => .error (.unparsed path)
      | some configuration =>
          match configuration.problem? with
          | some problem => .error (.invalid problem)
          | none => .ok ⟨configuration, some path⟩

/-- The settings for work in a workspace. -/
def load (workspace : Workspace) : Except ConfigurationError LoadedConfiguration :=
  match findIn? workspace.root (upwards workspace.here) with
  | some place => loadFile (workspace.read? place.path) place.path
  | none => .ok ⟨default, none⟩

end Configuration
end MessageExpansion
