import DialogueScript.Columns
import DialogueScript.Text.Digits

/-! # Arguments

Options are written long or short, before or among the texts, with their value attached or after
them. What follows two dashes is text. -/
namespace DialogueScript.CommandLine

/-- What an argument looks like. A lone dash is a text. -/
inductive Token
  | text (text : String)
  | terminator
  | long (name : String) (value : Option String)
  | short (letter : Char) (rest : List Char)
  deriving DecidableEq, Repr

def Token.ofArgument (argument : String) : Token :=
  match argument.toList with
  | ['-', '-'] => .terminator
  | '-' :: '-' :: body =>
    let name := body.takeWhile (· ≠ '=')
    let value := match body.drop name.length with
      | [] => none
      | _ :: value => some (String.ofList value)
    .long (String.ofList name) value
  | '-' :: letter :: rest => .short letter rest
  | _ => .text argument

inductive Setting
  | format
  | config
  | column
  deriving DecidableEq, Repr

inductive Switch
  | bold
  | italic
  | code
  | help
  | version
  deriving DecidableEq, Repr

inductive OptionKind
  | setting (setting : Setting)
  | switch (switch : Switch)
  deriving DecidableEq, Repr

inductive Command
  | identifier
  | run
  deriving DecidableEq, Repr

namespace Command

def ofName? (name : String) : Option Command :=
  if name = "identifier" then some identifier
  else if name = "run" then some run
  else none

def textCount : Command → Nat
  | identifier => 1
  | run => 2

end Command

/-- The option of a long name, before a command or among its arguments. -/
def longOption? (command : Option Command) (name : String) : Option OptionKind :=
  if name = "format" then some (.setting .format)
  else if name = "config" then some (.setting .config)
  else if name = "help" then some (.switch .help)
  else match command with
    | none => if name = "version" then some (.switch .version) else none
    | some command =>
      if name = "column" then some (.setting .column)
      else if command = .run then
        if name = "bold" then some (.switch .bold)
        else if name = "italic" then some (.switch .italic)
        else if name = "code" then some (.switch .code)
        else none
      else none

def shortOption? (command : Option Command) (letter : Char) : Option OptionKind :=
  if letter = 'f' then some (.setting .format)
  else if letter = 'c' then some (.setting .config)
  else if letter = 'h' then some (.switch .help)
  else if letter = 'V' ∧ command = none then some (.switch .version)
  else if letter = 'n' ∧ command ≠ none then some (.setting .column)
  else none

/-- What arguments have said so far. -/
structure Given where
  format : Option String
  config : Option String
  column : Option Nat
  bold : Bool
  italic : Bool
  code : Bool
  texts : List String
  deriving DecidableEq, Repr

namespace Given

def nothing : Given := ⟨none, none, none, false, false, false, []⟩

/-- A column is a number that the last column is not below. -/
def column? (text : String) : Option Nat := do
  let value ← Text.unsigned? text.toList
  guard (value ≤ lastColumn)
  pure value

/-- Adds the value of an option that was not given before. -/
def set? (given : Given) (setting : Setting) (value : String) : Option Given :=
  match setting with
  | .format => if given.format.isSome then none else some { given with format := some value }
  | .config => if given.config.isSome then none else some { given with config := some value }
  | .column => do
    guard given.column.isNone
    pure { given with column := some (← column? value) }

def turnOn? (given : Given) : Switch → Option Given
  | .bold => if given.bold then none else some { given with bold := true }
  | .italic => if given.italic then none else some { given with italic := true }
  | .code => if given.code then none else some { given with code := true }
  | _ => none

def addTexts? (given : Given) (command : Command) (texts : List String) : Option Given :=
  if given.texts.length + texts.length ≤ command.textCount then
    some { given with texts := given.texts ++ texts }
  else none

end Given

inductive Stop
  | usage
  | help
  | version
  deriving DecidableEq, Repr

def orUsage {α : Type} : Option α → Except Stop α
  | some value => .ok value
  | none => .error .usage

/-- Notes an option without a value, or stops at once where it asks for that. -/
def Given.note (given : Given) : Switch → Except Stop Given
  | .help => .error .help
  | .version => .error .version
  | switch => orUsage (given.turnOn? switch)

/-- Reads arguments up to the end, or up to the first text where no command was named yet; that text
and the arguments after it are returned. -/
def readArguments (command : Option Command) (given : Given) :
    List String → Except Stop (Given × List String)
  | [] => .ok (given, [])
  | argument :: rest =>
    let takeValue (setting : Setting) : Except Stop (Given × List String) :=
      match rest with
      | [] => .error .usage
      | value :: rest =>
        match Token.ofArgument value with
        | .text text => do readArguments command (← orUsage (given.set? setting text)) rest
        | _ => .error .usage
    match Token.ofArgument argument with
    | .text text =>
      match command with
      | none => .ok (given, argument :: rest)
      | some command => do
        readArguments (some command) (← orUsage (given.addTexts? command [text])) rest
    | .terminator =>
      match command with
      | none => .error .usage
      | some command => do return (← orUsage (given.addTexts? command rest), [])
    | .long name value =>
      match longOption? command name, value with
      | some (.setting setting), some value => do
        readArguments command (← orUsage (given.set? setting value)) rest
      | some (.setting setting), none => takeValue setting
      | some (.switch switch), none => do readArguments command (← given.note switch) rest
      | _, _ => .error .usage
    | .short letter value =>
      match shortOption? command letter, value with
      | some (.setting setting), [] => takeValue setting
      | some (.setting setting), '=' :: value => do
        readArguments command (← orUsage (given.set? setting (String.ofList value))) rest
      | some (.setting setting), value => do
        readArguments command (← orUsage (given.set? setting (String.ofList value))) rest
      | some (.switch switch), _ => do readArguments command (← given.note switch) rest
      | none, _ => .error .usage

end DialogueScript.CommandLine
