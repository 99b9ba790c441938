import DialogueScript.Columns
import DialogueScript.Logged

/-! # Runs

A stretch of dialogue in one style. A run keeps its text as written, markup included, beside the
plain text to show. Whether the two belong together is not checked. -/
namespace DialogueScript

structure Run where
  bold : Bool
  italic : Bool
  code : Bool
  verbatim : String
  plainText : String
  columns : Columns
  deriving DecidableEq, Repr

namespace Run

def isPlain (run : Run) : Bool := !(run.bold || run.italic || run.code)

structure Draft where
  bold : Bool
  italic : Bool
  code : Bool
  verbatim : Option String
  plainText : Option String
  fromColumn : Nat
  deriving DecidableEq, Repr

def requireText (input : Input) : Option String → Except Rejection String
  | none => .error (.missing input)
  | some text => if text.isEmpty then .error (.invalid input .empty) else .ok text

/-- The columns are those of the text as written, since that is what the line holds. -/
def ofDraft (draft : Draft) : Except Rejection Run := do
  let verbatim ← requireText .verbatim draft.verbatim
  let plainText ← requireText .plainText draft.plainText
  let columns ← Columns.require draft.fromColumn verbatim
  return ⟨draft.bold, draft.italic, draft.code, verbatim, plainText, columns⟩

def logTarget : String := "skitscript::skit::lexical::run"

def buildText (input : Input) (text? : Option String) : Logged Rejection String :=
  Logged.checked (requireText input text?) fun rejection =>
    ⟨.debug, logTarget, "rejected run", [("error", .text rejection.message)]⟩

/-- As `ofDraft`, with a log of how it goes: the place is shown only when the place is at fault. -/
def build (draft : Draft) : Logged Rejection Run := do
  let verbatim ← buildText .verbatim draft.verbatim
  let plainText ← buildText .plainText draft.plainText
  let columns ← Logged.checked (Columns.require draft.fromColumn verbatim) fun rejection =>
    ⟨.debug, logTarget, "rejected run",
      [("verbatim", .text verbatim), ("from_column", .number draft.fromColumn),
        ("error", .text rejection.message)]⟩
  Logged.emit ⟨.trace, logTarget, "run",
    [("bold", .flag draft.bold), ("italic", .flag draft.italic), ("code", .flag draft.code),
      ("verbatim", .text verbatim), ("plain_text", .text plainText),
      ("columns", .text columns.text)]⟩
  return ⟨draft.bold, draft.italic, draft.code, verbatim, plainText, columns⟩

def events (draft : Draft) : List Event := Logged.events (build draft)

end Run

end DialogueScript
