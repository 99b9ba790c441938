import DialogueScript.Identifier
import DialogueScript.Run

/-! # Lexemes: the values that can be rendered -/
namespace DialogueScript

inductive Lexeme
  | identifier (value : Identifier)
  | run (value : Run)
  deriving DecidableEq, Repr

namespace Lexeme

inductive Draft
  | identifier (draft : Identifier.Draft)
  | run (draft : Run.Draft)
  deriving DecidableEq, Repr

def Draft.fromColumn : Draft → Nat
  | identifier draft => draft.fromColumn
  | run draft => draft.fromColumn

def Draft.events : Draft → List Event
  | identifier draft => Identifier.events draft
  | run draft => Run.events draft

def ofDraft : Draft → Except Rejection Lexeme
  | .identifier draft => (Identifier.ofDraft draft).map .identifier
  | .run draft => (Run.ofDraft draft).map .run

def columns : Lexeme → Columns
  | identifier value => value.columns
  | run value => value.columns

/-- All that a document says of a lexeme, in order: its kind, then the fields of its value, derived
ones included. -/
def fields : Lexeme → List Field
  | identifier value =>
    [("kind", .text "identifier"), ("verbatim", .text value.verbatim),
      ("normalized", .text value.key), ("from_column", .number value.columns.first),
      ("to_column", .number value.columns.last)]
  | run value =>
    [("kind", .text "run"), ("bold", .flag value.bold), ("italic", .flag value.italic),
      ("code", .flag value.code), ("verbatim", .text value.verbatim),
      ("plain_text", .text value.plainText), ("from_column", .number value.columns.first),
      ("to_column", .number value.columns.last)]

end Lexeme

end DialogueScript
