import DialogueScript.CommandLine.Arguments
import DialogueScript.Lexeme

/-! # Requests: what a command line asks for -/
namespace DialogueScript.CommandLine

structure Request where
  draft : Lexeme.Draft
  format : Option String
  config : Option String
  deriving DecidableEq, Repr

def defaultColumn : Nat := 1

def Given.draft? (given : Given) (command : Command) : Option Lexeme.Draft :=
  let column := given.column.getD defaultColumn
  match command, given.texts with
  | .identifier, [verbatim] => some (.identifier ⟨some verbatim, column⟩)
  | .run, [verbatim, plainText] =>
    some (.run ⟨given.bold, given.italic, given.code, some verbatim, some plainText, column⟩)
  | _, _ => none

namespace Request

/-- What is asked for with a command and its arguments. They override what was given before the
command. -/
def ofCommand (outer : Given) (name : String) (arguments : List String) : Except Stop Request := do
  let command ← orUsage (Command.ofName? name)
  let (inner, _) ← readArguments (some command) .nothing arguments
  let draft ← orUsage (inner.draft? command)
  return ⟨draft, inner.format <|> outer.format, inner.config <|> outer.config⟩

def isHelp : List String → Bool
  | ["help"] => true
  | ["help", topic] => topic = "help" || (Command.ofName? topic).isSome
  | _ => false

def ofArguments (arguments : List String) : Except Stop Request := do
  match ← readArguments none .nothing arguments with
  | (_, []) => .error .usage
  | (outer, name :: rest) =>
    if isHelp (name :: rest) then .error .help else ofCommand outer name rest

end Request

end DialogueScript.CommandLine
