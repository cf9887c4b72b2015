import MessageExpansion.Proofs.Script.Terms

/-!
# What terms evaluate to

The meaning of terms, for every run-time library.  The library is given by its operations; they run
in a monad, so that evaluation also says which operations happen, and in which order.  A term may
ask for something that this part of the language does not have: then evaluation goes on elsewhere,
and nothing is known about its result.
-/

namespace MessageExpansion
namespace Script

/-- A text of a script: its code units in UTF-16. -/
abbrev Units := List UInt16

/-- The code units of a character. -/
def unitsOfChar (c : Char) : Units :=
  if c.toNat < 0x10000 then [UInt16.ofNat c.toNat]
  else
    [UInt16.ofNat (0xD800 + (c.toNat - 0x10000) / 0x400),
      UInt16.ofNat (0xDC00 + (c.toNat - 0x10000) % 0x400)]

/-- The code units of a text. -/
def units (text : String) : Units := text.toList.flatMap unitsOfChar

/-- A value of a script. -/
inductive Value (External Number Object : Type) where
  /-- A value that came from outside; it may be of any kind. -/
  | external (value : External)
  | text (units : Units)
  | number (value : Number)
  /-- An object that formats values or chooses categories. -/
  | object (object : Object)
  | record (fields : List (String × Value External Number Object))
  /-- The object that holds the arguments of the message. -/
  | arguments
  /-- The function that converts values to text. -/
  | conversion
  /-- The object that holds the constructors of the library. -/
  | library
  | constructor (name : String)
  | method (object : Object) (name : String)

/-- The operations that terms are evaluated with. -/
structure Runtime (M : Type → Type) where
  /-- The values that come from outside. -/
  External : Type
  /-- The numbers. -/
  Number : Type
  /-- The objects of the library. -/
  Object : Type
  /-- The argument of the message with a name. -/
  argument : Units → M External
  /-- Convert a value to text. -/
  toText : External → M Units
  /-- Convert a value to a number. -/
  toNumber : External → M Number
  /-- The value of a decimal numeral. -/
  numeral : Nat → Number
  /-- The difference of two numbers. -/
  minus : Number → Number → Number
  /-- Two numbers are strictly equal. -/
  same : Number → Number → Bool
  /-- Make an object by a constructor of the library. -/
  make : (name : String) → List (Value External Number Object) → M Object
  /-- Call a method of an object, which answers with a text. -/
  invoke : Object → (name : String) → List (Value External Number Object) → M Units
  /-- Whatever happens where this part of the language ends. -/
  elsewhere : M (Value External Number Object)
  /-- Nothing changes when zero is taken off a number. -/
  minus_zero : ∀ number, minus number (numeral 0) = number

section

variable {M : Type → Type} (runtime : Runtime M)

/-- The values of a run-time library. -/
abbrev Runtime.Data := Value runtime.External runtime.Number runtime.Object

/-- The values of variables, the innermost first. -/
abbrev Runtime.Environment := List (String × runtime.Data)

/-- The variables that a renderer finds: its parameter, and what the language provides. -/
def Runtime.globals : runtime.Environment :=
  [("args", .arguments), ("String", .conversion), ("Intl", .library)]

variable [Monad M]

/-- Call a function. -/
def Runtime.apply (callee : runtime.Data) (arguments : List runtime.Data) : M runtime.Data :=
  match callee, arguments with
  | .conversion, [.external value] => .text <$> runtime.toText value
  | .conversion, [.text units] => pure (.text units)
  | .method object name, arguments => .text <$> runtime.invoke object name arguments
  | _, _ => runtime.elsewhere

mutual

/-- The value of an expression. -/
@[simp] def Term.evaluate (environment : runtime.Environment) : Term → M runtime.Data
  | .text value => pure (.text (units value))
  | .numeral value => pure (.number (runtime.numeral value))
  | .variable name =>
      match environment.lookup name with
      | some value => pure value
      | none => runtime.elsewhere
  | .member object name => do
      match ← object.evaluate environment with
      | .library => pure (.constructor name)
      | .object object => pure (.method object name)
      | _ => runtime.elsewhere
  | .index object key => do
      match ← object.evaluate environment, ← key.evaluate environment with
      | .arguments, .text name => .external <$> runtime.argument name
      | _, _ => runtime.elsewhere
  | .call callee arguments => do
      let callee ← callee.evaluate environment
      runtime.apply callee (← Term.evaluateAll environment arguments)
  | .construct callee arguments => do
      match ← callee.evaluate environment, ← Term.evaluateAll environment arguments with
      | .constructor name, arguments => .object <$> runtime.make name arguments
      | _, _ => runtime.elsewhere
  | .record fields => .record <$> Term.evaluateFields environment fields
  | .toNumber operand => do
      match ← operand.evaluate environment with
      | .external value => .number <$> runtime.toNumber value
      | .number value => pure (.number value)
      | _ => runtime.elsewhere
  | .add left right => do
      match ← left.evaluate environment, ← right.evaluate environment with
      | .text left, .text right => pure (.text (left ++ right))
      | _, _ => runtime.elsewhere
  | .subtract left right => do
      match ← left.evaluate environment, ← right.evaluate environment with
      | .number left, .number right => pure (.number (runtime.minus left right))
      | _, _ => runtime.elsewhere
  | .apply parameter body argument => do
      let value ← argument.evaluate environment
      Step.runAll ((parameter, value) :: environment) body

/-- The values of expressions, from left to right. -/
@[simp] def Term.evaluateAll (environment : runtime.Environment) : List Term → M (List runtime.Data)
  | [] => pure []
  | term :: rest => do
      let value ← term.evaluate environment
      return value :: (← Term.evaluateAll environment rest)

/-- The values of the fields of an object literal. -/
@[simp] def Term.evaluateFields (environment : runtime.Environment) :
    List (String × Term) → M (List (String × runtime.Data))
  | [] => pure []
  | (name, term) :: rest => do
      let value ← term.evaluate environment
      return (name, value) :: (← Term.evaluateFields environment rest)

/-- The value that statements return. -/
@[simp] def Step.runAll (environment : runtime.Environment) : List Step → M runtime.Data
  | [] => runtime.elsewhere
  | step :: rest => step.run environment (Step.runAll environment rest)

/-- The value that a statement returns, or else what comes after it does. -/
@[simp] def Step.run (environment : runtime.Environment) (onward : M runtime.Data) :
    Step → M runtime.Data
  | .answer result => result.evaluate environment
  | .test left right result => do
      match ← left.evaluate environment, ← right.evaluate environment with
      | .number left, .number right =>
          if runtime.same left right then result.evaluate environment else onward
      | _, _ => runtime.elsewhere
  | .choose subject cases otherwise => do
      match ← subject.evaluate environment with
      | .text subject => Step.runCases environment subject (otherwise.evaluate environment) cases
      | _ => runtime.elsewhere

/-- The value of the first case with a certain label, or else another one. -/
@[simp] def Step.runCases (environment : runtime.Environment) (subject : Units)
    (otherwise : M runtime.Data) : List (Term × Term) → M runtime.Data
  | [] => otherwise
  | (label, result) :: rest => do
      match ← label.evaluate environment with
      | .text label =>
          if label = subject then result.evaluate environment
          else Step.runCases environment subject otherwise rest
      | _ => runtime.elsewhere

end

end

end Script
end MessageExpansion
