import MessageExpansion.Arguments.Basic

/-!
# Commands and their options

The names of the commands, the options that each of them has, and the values that options have.
-/

namespace MessageExpansion

/-- An option of a command. -/
inductive CommandOption where
  | function
  | locale
  | keys
  | catalog
  | verbose
  | outFile
  | outDirectory
  | maps
  | policy
  | help
deriving DecidableEq, Repr

namespace CommandOption

/-- The name after two dashes. -/
def name : CommandOption → String
  | function => "function-name"
  | locale => "locale"
  | keys => "key-type"
  | catalog => "translations"
  | verbose => "verbose"
  | outFile => "out-file"
  | outDirectory => "out-dir"
  | maps => "source-maps"
  | policy => "on-invalid-translation"
  | help => "help"

/-- The letter after one dash. -/
def letter : CommandOption → Option Char
  | function => some 'n'
  | locale => some 'l'
  | keys => some 'k'
  | catalog => some 't'
  | verbose => some 'v'
  | outFile => some 'o'
  | outDirectory => some 'd'
  | maps => some 's'
  | policy => none
  | help => some 'h'

/-- The option has a value. -/
def hasValue : CommandOption → Bool
  | verbose => false
  | help => false
  | _ => true

/-- The option may have this value: names come from their sets, and paths are not empty. -/
def accepts (option : CommandOption) (value : String) : Bool :=
  match option with
  | keys => (KeyStrategy.ofName? value).isSome
  | maps => (MapPlacement.ofName? value).isSome
  | policy => (LocalizationPolicy.ofName? value).isSome
  | catalog => !value.isEmpty
  | outFile => !value.isEmpty
  | outDirectory => !value.isEmpty
  | _ => true

/-- The options of all commands on scripts. -/
def common : List CommandOption := [function, locale, keys, catalog, verbose, help]

end CommandOption

/-- A command. -/
inductive CommandName where
  | inline
  | extract
  | lint
  | init
deriving DecidableEq, Repr

namespace CommandName

/-- The word for a command. -/
def word : CommandName → String
  | inline => "inline"
  | extract => "extract"
  | lint => "lint"
  | init => "init"

/-- The command of a word. -/
def ofWord? (word : String) : Option CommandName :=
  [inline, extract, lint, init].find? (·.word == word)

/-- The options of a command. -/
def options : CommandName → List CommandOption
  | inline => CommandOption.common ++ [.outFile, .outDirectory, .maps, .policy]
  | extract => CommandOption.common ++ [.outFile]
  | lint => CommandOption.common
  | init => [.help]

/-- The command is applied to inputs. -/
def takesInputs : CommandName → Bool
  | init => false
  | _ => true

/-- The option of a command with a name. -/
def named? (command : CommandName) (name : String) : Option CommandOption :=
  command.options.find? (·.name == name)

/-- The option of a command with a letter. -/
def lettered? (command : CommandName) (letter : Char) : Option CommandOption :=
  command.options.find? (·.letter == some letter)

end CommandName
end MessageExpansion
