import DialogueScript.Decoding
import DialogueScript.Proofs.Identifier.Rules
import DialogueScript.Proofs.Json.Objects
import DialogueScript.Proofs.Run.Rules
import DialogueScript.Render

/-! # The JSON of a value is that value

A lexeme is written with its kind and with fields that follow from the others. A record passes
over them, and what is left builds the value again. -/
namespace DialogueScript

/-- A written object is decoded as what its record builds. -/
theorem Json.decode_written {α : Type} {type : RecordType} {build : Record → Except Rejection α}
    {fields : List Field} {record : Record} {value : α} (isPretty : Bool) (hne : fields ≠ [])
    (h : ReadsMembers type [] fields record) (hcomplete : IsComplete type record)
    (hbuild : build record = .ok value) :
    decode type build (written isPretty fields) = .ok value := by
  have hread := readRecord_written isPretty hne h hcomplete []
  rw [List.append_nil] at hread
  simp only [decode, hread, hbuild, bind, Except.bind, Except.mapError]
  rfl

theorem Json.isComplete_of_lookup {type : RecordType} {record : Record}
    (hcolumn : ∀ field ∈ type.fields, field.2 = .column → field.1 = "from_column")
    (h : (record.lookup "from_column").isSome = true) : IsComplete type record :=
  fun field hfield htype => by rwa [hcolumn field hfield htype]

open Json (ReadsMembers)

namespace Identifier

def draft (identifier : Identifier) : Draft :=
  ⟨some identifier.verbatim, identifier.columns.first⟩

theorem ofDraft_draft {verbatim : String} {column : Nat} {identifier : Identifier}
    (h : ofText verbatim column = .ok identifier) : ofDraft identifier.draft = .ok identifier := by
  obtain ⟨hkeeps, rfl⟩ := ofText_eq_ok_iff.mp h
  exact h

theorem first_lt {verbatim : String} {column : Nat} {identifier : Identifier}
    (h : ofText verbatim column = .ok identifier) : identifier.columns.first < 2 ^ 64 := by
  obtain ⟨hkeeps, rfl⟩ := ofText_eq_ok_iff.mp h
  obtain ⟨c, hc, -⟩ := hkeeps.significant
  have hlength := List.length_pos_of_mem hc
  have hroom := hkeeps.room
  simp only [lastColumn] at hroom
  simp only [written]
  omega

theorem readsMembers_fields (identifier : Identifier) (h : identifier.columns.first < 2 ^ 64) :
    ReadsMembers recordType [] (Lexeme.identifier identifier).fields
      [("from_column", .column identifier.columns.first),
        ("verbatim", .text (some identifier.verbatim))] :=
  .skip rfl (.keep rfl rfl (.text _) (.skip rfl (.keep rfl rfl (.number h) (.skip rfl .nil))))

end Identifier

namespace Run

def draft (run : Run) : Draft :=
  ⟨run.bold, run.italic, run.code, some run.verbatim, some run.plainText, run.columns.first⟩

theorem ofDraft_draft {draft : Draft} {run : Run} (h : ofDraft draft = .ok run) :
    ofDraft run.draft = .ok run := by
  obtain ⟨verbatim, plainText, hkeeps, rfl⟩ := ofDraft_eq_ok_iff.mp h
  exact ofDraft_eq_ok_iff.mpr ⟨verbatim, plainText, ⟨rfl, rfl, hkeeps.verbatim_ne,
    hkeeps.plainText_ne, hkeeps.fromOne, hkeeps.room⟩, rfl⟩

theorem first_lt {draft : Draft} {run : Run} (h : ofDraft draft = .ok run) :
    run.columns.first < 2 ^ 64 := by
  obtain ⟨verbatim, plainText, hkeeps, rfl⟩ := ofDraft_eq_ok_iff.mp h
  have hlength : 0 < verbatim.length := List.length_pos_iff.mpr hkeeps.verbatim_ne
  have hroom := hkeeps.room
  simp only [lastColumn] at hroom
  simp only [drafted]
  omega

theorem readsMembers_fields (run : Run) (h : run.columns.first < 2 ^ 64) :
    ReadsMembers recordType [] (Lexeme.run run).fields
      [("from_column", .column run.columns.first), ("plain_text", .text (some run.plainText)),
        ("verbatim", .text (some run.verbatim)), ("code", .flag run.code),
        ("italic", .flag run.italic), ("bold", .flag run.bold)] :=
  .skip rfl (.keep rfl rfl (.flag _) (.keep rfl rfl (.flag _) (.keep rfl rfl (.flag _)
    (.keep rfl rfl (.text _) (.keep rfl rfl (.text _) (.keep rfl rfl (.number h)
      (.skip rfl .nil)))))))

end Run

/-- Identifiers and runs are decoded from the JSON they are rendered as, pretty or not. -/
theorem decode_render (isPretty : Bool) :
    (∀ verbatim column identifier, Identifier.ofText verbatim column = .ok identifier →
      Identifier.decode ((Lexeme.identifier identifier).render isPretty .json) =
        .ok identifier) ∧
    ∀ draft run, Run.ofDraft draft = .ok run →
      Run.decode ((Lexeme.run run).render isPretty .json) = .ok run := by
  refine ⟨fun verbatim column identifier h => ?_, fun draft run h => ?_⟩
  · exact Json.decode_written isPretty (by simp [Lexeme.fields])
      (identifier.readsMembers_fields (Identifier.first_lt h))
      (Json.isComplete_of_lookup (by simp [Identifier.recordType]) rfl) (Identifier.ofDraft_draft h)
  · exact Json.decode_written isPretty (by simp [Lexeme.fields])
      (run.readsMembers_fields (Run.first_lt h))
      (Json.isComplete_of_lookup (by simp [Run.recordType]) rfl) (Run.ofDraft_draft h)

theorem decode_render_escapes :
    Identifier.ofText "a\"\\\x01😀" 18446744073709551611 =
      .ok ⟨"a\"\\\x01😀", "a-\x01😀", ⟨18446744073709551611, 18446744073709551615⟩⟩ ∧
    Identifier.decode ((Lexeme.identifier ⟨"a\"\\\x01😀", "a-\x01😀",
        ⟨18446744073709551611, 18446744073709551615⟩⟩).render true .json) =
      .ok ⟨"a\"\\\x01😀", "a-\x01😀", ⟨18446744073709551611, 18446744073709551615⟩⟩ ∧
    Run.ofDraft ⟨true, false, true, some "**\t\"", some "\x7f\u2028", 7⟩ =
      .ok ⟨true, false, true, "**\t\"", "\x7f\u2028", ⟨7, 10⟩⟩ ∧
    Run.decode ((Lexeme.run ⟨true, false, true, "**\t\"", "\x7f\u2028", ⟨7, 10⟩⟩).render true
        .json) =
      .ok ⟨true, false, true, "**\t\"", "\x7f\u2028", ⟨7, 10⟩⟩ := by
  have hidentifier : Identifier.ofText "a\"\\\x01😀" 18446744073709551611 =
      .ok ⟨"a\"\\\x01😀", "a-\x01😀", ⟨18446744073709551611, 18446744073709551615⟩⟩ := by
    decide +kernel
  have hrun : Run.ofDraft ⟨true, false, true, some "**\t\"", some "\x7f\u2028", 7⟩ =
      .ok ⟨true, false, true, "**\t\"", "\x7f\u2028", ⟨7, 10⟩⟩ := by
    decide +kernel
  obtain ⟨hidentifiers, hruns⟩ := decode_render true
  exact ⟨hidentifier, hidentifiers _ _ _ hidentifier, hrun, hruns _ _ hrun⟩

end DialogueScript
