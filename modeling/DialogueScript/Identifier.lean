import DialogueScript.Columns
import DialogueScript.Logged
import DialogueScript.Name.Key
import DialogueScript.Name.Reserved

/-! # Identifiers

A name that a script refers to more than once: a character, a scene, a variable. An identifier
keeps the text as written, the columns it occupies, and the key it shares with every other
spelling of the name. -/
namespace DialogueScript

structure Identifier where
  verbatim : String
  key : String
  columns : Columns
  deriving DecidableEq, Repr

namespace Identifier

def checkName (text : List Char) : Except Fault Unit :=
  if Text.hasOuterBlank text then .error .surroundingBlank
  else match Name.reservedIn? text with
    | some word => .error (.reservedWord (String.ofList word))
    | none =>
      match Name.disallowedIn? text with
      | some c => .error (.disallowedCharacter c)
      | none => if Name.hasSignificant text then .ok () else .error .nothingSignificant

/-- An identifier written as `verbatim` from column `fromColumn` on. The name is checked before the
column. -/
def ofText (verbatim : String) (fromColumn : Nat) : Except Rejection Identifier := do
  (checkName verbatim.toList).mapError (.invalid .verbatim)
  let columns ← Columns.require fromColumn verbatim
  return ⟨verbatim, String.ofList (Name.key verbatim.toList), columns⟩

structure Draft where
  verbatim : Option String
  fromColumn : Nat
  deriving DecidableEq, Repr

def ofDraft (draft : Draft) : Except Rejection Identifier :=
  match draft.verbatim with
  | none => .error (.missing .verbatim)
  | some verbatim => ofText verbatim draft.fromColumn

/-- Whether two identifiers name the same thing, however they are spelled. -/
def isSameName (a b : Identifier) : Bool := a.key = b.key

def logTarget : String := "skitscript::skit::lexical::identifier"

def validate (verbatim : String) (fromColumn : Nat) : Except Rejection Columns := do
  (checkName verbatim.toList).mapError (.invalid .verbatim)
  Columns.require fromColumn verbatim

def build (verbatim : String) (fromColumn : Nat) : Logged Rejection Identifier := do
  let columns ← Logged.checked (validate verbatim fromColumn) fun rejection =>
    ⟨.debug, logTarget, "rejected identifier",
      [("verbatim", .text verbatim), ("from_column", .number fromColumn),
        ("error", .text rejection.message)]⟩
  let key := String.ofList (Name.key verbatim.toList)
  Logged.emit ⟨.trace, logTarget, "identifier",
    [("verbatim", .text verbatim), ("normalized", .text key), ("columns", .text columns.text)]⟩
  return ⟨verbatim, key, columns⟩

/-- As `ofDraft`, with a log. An absent text is the caller's mistake and is not logged. -/
def buildDraft (draft : Draft) : Logged Rejection Identifier :=
  match draft.verbatim with
  | none => throw (.missing .verbatim)
  | some verbatim => build verbatim draft.fromColumn

def events (draft : Draft) : List Event := Logged.events (buildDraft draft)

end Identifier

end DialogueScript
