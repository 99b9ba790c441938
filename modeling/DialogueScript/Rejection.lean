import DialogueScript.Text.Quoted

/-! # Why a lexical value was not built -/
namespace DialogueScript

inductive Input
  | verbatim
  | plainText
  | fromColumn
  deriving DecidableEq, Repr

def Input.name : Input → String
  | verbatim => "verbatim"
  | plainText => "plain_text"
  | fromColumn => "from_column"

inductive Fault
  | empty
  | surroundingBlank
  /-- The word is kept as it was written. -/
  | reservedWord (word : String)
  | disallowedCharacter (c : Char)
  /-- Nothing would be left of the text without its excluded characters. -/
  | nothingSignificant
  | columnBelowOne
  /-- The text would reach past the last column. -/
  | columnOutOfRange
  deriving DecidableEq, Repr

def Fault.message : Fault → String
  | empty => "must not be empty"
  | surroundingBlank => "must not start or end with whitespace"
  | reservedWord word => "must not contain reserved word '" ++ word ++ "'"
  | disallowedCharacter c => "must not contain disallowed character " ++ Text.quotedChar c
  | nothingSignificant => "must contain at least one non-punctuation character"
  | columnBelowOne => "must be at least 1"
  | columnOutOfRange => "leaves no room for the text before the last column"

/-- An input that is not there, or one that breaks a rule. -/
inductive Rejection
  | missing (input : Input)
  | invalid (input : Input) (fault : Fault)
  deriving DecidableEq, Repr

namespace Rejection

def input : Rejection → Input
  | missing input => input
  | invalid input _ => input

def fault? : Rejection → Option Fault
  | missing _ => none
  | invalid _ fault => some fault

/-- Whether an input is absent, which is the caller's mistake and not the document's. -/
def isPrecondition : Rejection → Bool
  | missing _ => true
  | invalid _ _ => false

def message : Rejection → String
  | missing input => input.name ++ " was not provided"
  | invalid input fault => input.name ++ " " ++ fault.message

inductive Kind
  | precondition
  | blank
  | forbiddenContent
  | malformedPosition
  deriving DecidableEq, Repr

def kind : Rejection → Kind
  | missing _ => .precondition
  | invalid _ (.reservedWord _) => .forbiddenContent
  | invalid _ (.disallowedCharacter _) => .forbiddenContent
  | invalid _ .columnBelowOne => .malformedPosition
  | invalid _ .columnOutOfRange => .malformedPosition
  | invalid _ .empty => .blank
  | invalid _ .surroundingBlank => .blank
  | invalid _ .nothingSignificant => .blank

end Rejection

end DialogueScript
