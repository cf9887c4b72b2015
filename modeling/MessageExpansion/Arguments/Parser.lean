import MessageExpansion.Arguments.Options

/-!
# Reading command lines

The words after the program's name, read from left to right.  A value may be attached to its
option or be the next word; in the second case it is looked at only when the word after it is
read, so an option that does not exist is noticed first.  After two dashes all words are inputs.
-/

namespace MessageExpansion

/-- A word of a command line by its form. -/
inductive ArgumentWord where
  /-- Two dashes with a name, and perhaps a value after an equals sign. -/
  | named (name : String) (value : Option String)
  /-- One dash with letters. -/
  | lettered (letters : List Char)
  | plain (text : String)
deriving DecidableEq, Repr

namespace ArgumentWord

/-- The text before an equals sign, and the text after it if there is one. -/
def splitEquals (text : List Char) : String × Option String :=
  (String.ofList (text.takeWhile (· != '=')),
    match text.dropWhile (· != '=') with
    | _ :: value => some (String.ofList value)
    | [] => none)

/-- The form of a word; a dash alone is plain. -/
def ofText (text : String) : ArgumentWord :=
  match text.toList with
  | '-' :: '-' :: rest =>
      let (name, value) := splitEquals rest
      .named name value
  | '-' :: c :: rest => .lettered (c :: rest)
  | _ => .plain text

end ArgumentWord

/-- How far the words after a command are read. -/
structure ArgumentParsing where
  /-- The options so far with their values. -/
  given : List (CommandOption × String)
  /-- The inputs so far. -/
  inputs : List String
  /-- An option whose value was not attached, and the value if it was read already. -/
  pending : Option (CommandOption × Option String)

namespace ArgumentParsing

/-- Nothing is read yet. -/
def start : ArgumentParsing := ⟨[], [], none⟩

/-- The value of an option. -/
def value? (parsing : ArgumentParsing) (option : CommandOption) : Option String :=
  (parsing.given.find? (·.1 == option)).map (·.2)

/-- Take up an option with its value. -/
def settle (parsing : ArgumentParsing) (option : CommandOption) (value : String) :
    Except UsageError ArgumentParsing :=
  if (parsing.value? option).isSome then .error (.conflict option.name)
  else if option.accepts value then
    .ok { parsing with given := parsing.given ++ [(option, value)] }
  else .error (.invalidValue option.name)

/-- Take up the option that is pending. -/
def resolve (parsing : ArgumentParsing) : Except UsageError ArgumentParsing :=
  match parsing.pending with
  | none => .ok parsing
  | some (option, none) => .error (.invalidValue option.name)
  | some (option, some value) => settle { parsing with pending := none } option value

/-- Read an option without a value. -/
def flag (parsing : ArgumentParsing) (option : CommandOption) :
    Except UsageError ArgumentParsing := do
  let parsing ← parsing.resolve
  if option = .help then throw .helpRequested
  parsing.settle option ""

/-- Read an option with a value, which may be attached. -/
def valued (parsing : ArgumentParsing) (option : CommandOption) (attached : Option String) :
    Except UsageError ArgumentParsing := do
  let parsing ← parsing.resolve
  match attached with
  | some value => parsing.settle option value
  | none => return { parsing with pending := some (option, none) }

/-- Read a word that is an input. -/
def input (command : CommandName) (parsing : ArgumentParsing) (text : String) :
    Except UsageError ArgumentParsing :=
  if command.takesInputs then do
    let parsing ← parsing.resolve
    return { parsing with inputs := parsing.inputs ++ [text] }
  else .error (.unknownArgument text)

/-- The value that is attached to a letter; an equals sign before it does not belong to it. -/
def attachedValue : List Char → Option String
  | [] => none
  | '=' :: value => some (String.ofList value)
  | value => some (String.ofList value)

/-- Read letters after a dash.  A letter with a value ends them. -/
def letters (command : CommandName) (parsing : ArgumentParsing) :
    List Char → Except UsageError ArgumentParsing
  | [] => .ok parsing
  | letter :: rest =>
      match command.lettered? letter with
      | none => .error (.unknownArgument (String.ofList ['-', letter]))
      | some option =>
          if option.hasValue then parsing.valued option (attachedValue rest)
          else
            match parsing.flag option with
            | .ok parsing => letters command parsing rest
            | .error error => .error error

/-- Read a name after two dashes. -/
def namedOption (command : CommandName) (parsing : ArgumentParsing) (name : String)
    (value : Option String) : Except UsageError ArgumentParsing :=
  match command.named? name with
  | none => .error (.unknownArgument ("--" ++ name))
  | some option =>
      if option.hasValue then parsing.valued option value
      else if value.isSome then .error (.unexpectedValue name)
      else parsing.flag option

/-- Read a plain word, which is the value of an option that waits for one, or else an input. -/
def plain (command : CommandName) (parsing : ArgumentParsing) (text : String) :
    Except UsageError ArgumentParsing :=
  match parsing.pending with
  | some (option, none) => .ok { parsing with pending := some (option, some text) }
  | _ => parsing.input command text

/-- Read a word. -/
def word (command : CommandName) (parsing : ArgumentParsing) (text : String) :
    Except UsageError ArgumentParsing :=
  match ArgumentWord.ofText text with
  | .named name value => parsing.namedOption command name value
  | .lettered letters => parsing.letters command letters
  | .plain text => parsing.plain command text

/-- Read words. -/
def words (command : CommandName) (parsing : ArgumentParsing) :
    List String → Except UsageError ArgumentParsing
  | [] => .ok parsing
  | text :: rest =>
      if text = "--" then rest.foldlM (input command) parsing
      else
        match parsing.word command text with
        | .ok parsing => words command parsing rest
        | .error error => .error error

/-- Take up what is pending, and look for options that go against each other. -/
def finish (parsing : ArgumentParsing) : Except UsageError ArgumentParsing := do
  let parsing ← parsing.resolve
  if (parsing.value? .outFile).isSome && (parsing.value? .outDirectory).isSome then
    throw (.conflict CommandOption.outFile.name)
  return parsing

/-- What all commands on scripts are told. -/
def common (parsing : ArgumentParsing) : CommonArguments :=
  { inputs := parsing.inputs
    function := parsing.value? .function
    locale := parsing.value? .locale
    keys := (parsing.value? .keys).bind KeyStrategy.ofName?
    catalog := parsing.value? .catalog
    verbose := (parsing.value? .verbose).isSome }

/-- What a command with these arguments is asked for. -/
def invocation (command : CommandName) (parsing : ArgumentParsing) : Invocation :=
  match command with
  | .init => .init
  | .lint => .lint parsing.common
  | .extract => .extract ⟨parsing.common, parsing.value? .outFile⟩
  | .inline =>
      .inline
        { common := parsing.common
          outFile := parsing.value? .outFile
          outDirectory := parsing.value? .outDirectory
          maps := ((parsing.value? .maps).bind MapPlacement.ofName?).getD .nowhere
          policy := (parsing.value? .policy).bind LocalizationPolicy.ofName? }

end ArgumentParsing

namespace Invocation

/-- The word stands for a command, or for help on one. -/
def isCommandWord (word : String) : Bool :=
  (CommandName.ofWord? word).isSome || word == "help"

/-- What is asked for by the word for help and the words after it. -/
def helpOn : List String → UsageError
  | [] => .helpRequested
  | [word] => if isCommandWord word then .helpRequested else .unknownCommand word
  | first :: second :: _ => .unknownCommand (if isCommandWord first then second else first)

/-- What is wrong with a first word that is no command. -/
def withoutCommand (text : String) : UsageError :=
  match ArgumentWord.ofText text with
  | .named name value =>
      if name = "help" ∨ name = "version" then
        if value.isSome then .unexpectedValue name
        else if name = "help" then .helpRequested
        else .versionRequested
      else .unknownArgument text
  | .lettered ('h' :: _) => .helpRequested
  | .lettered ('V' :: _) => .versionRequested
  | .lettered _ => .unknownArgument text
  | .plain _ => .unknownCommand text

/-- Read a command line without the program's name. -/
def parse (arguments : List String) : Except UsageError Invocation :=
  match arguments with
  | [] => .ok .overview
  | first :: rest =>
      match CommandName.ofWord? first with
      | some command => do
          let parsing ← ArgumentParsing.start.words command rest
          let parsing ← parsing.finish
          return parsing.invocation command
      | none =>
          if first = "help" then .error (helpOn rest)
          else if first = "--" then
            match rest with
            | [] => .ok .overview
            | word :: _ =>
                if isCommandWord word then .error (.unknownArgument word)
                else .error (.unknownCommand word)
          else .error (withoutCommand first)

end Invocation
end MessageExpansion
