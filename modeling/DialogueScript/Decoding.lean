import DialogueScript.Json.Record
import DialogueScript.Lexeme

/-! # Decoding lexical values from JSON

A document holds one record and nothing but space around it. What the record says of a value is
checked as soon as the record ends, before the rest of the document. -/
namespace DialogueScript

def Json.decode {α : Type} (type : RecordType) (build : Record → Except Rejection α)
    (document : String) : Except DecodeError α := do
  let (record, rest) ← readRecord type document.toList
  let value ← (build record).mapError fun rejection => .misfit (.rejected rejection)
  if (dropSpacing rest).isEmpty then .ok value else .error .malformed

def Json.decodeLogged {α : Type} (type : RecordType) (build : Record → Logged Rejection α)
    (document : String) : Logged DecodeError α := do
  let (record, rest) ← readRecord type document.toList
  let value ← (build record).adapt fun rejection => .misfit (.rejected rejection)
  if (dropSpacing rest).isEmpty then return value else throw .malformed

namespace Identifier

def recordType : Json.RecordType :=
  ⟨"IdentifierRecord", [("verbatim", .text), ("from_column", .column)]⟩

def draftOf (record : Json.Record) : Draft :=
  ⟨record.text? "verbatim", (record.column? "from_column").getD 0⟩

def decode (document : String) : Except Json.DecodeError Identifier :=
  Json.decode recordType (fun record => ofDraft (draftOf record)) document

def decodeLogged (document : String) : Logged Json.DecodeError Identifier :=
  Json.decodeLogged recordType (fun record => buildDraft (draftOf record)) document

def decodeEvents (document : String) : List Event := Logged.events (decodeLogged document)

end Identifier

namespace Run

def recordType : Json.RecordType :=
  ⟨"RunRecord", [("bold", .flag), ("italic", .flag), ("code", .flag), ("verbatim", .text),
    ("plain_text", .text), ("from_column", .column)]⟩

def draftOf (record : Json.Record) : Draft :=
  ⟨record.flag "bold", record.flag "italic", record.flag "code", record.text? "verbatim",
    record.text? "plain_text", (record.column? "from_column").getD 0⟩

def decode (document : String) : Except Json.DecodeError Run :=
  Json.decode recordType (fun record => ofDraft (draftOf record)) document

def decodeLogged (document : String) : Logged Json.DecodeError Run :=
  Json.decodeLogged recordType (fun record => build (draftOf record)) document

def decodeEvents (document : String) : List Event := Logged.events (decodeLogged document)

end Run

end DialogueScript
