import DialogueScript.Proofs.Json.RoundTrip

/-! # What holds of every value

An identifier or a run can be built from its texts, from a draft, or from a document. Whichever way
it was built, its texts are not empty and its columns are those of the text as written, all of them
on the line. No document can say otherwise. -/
namespace DialogueScript

/-! ### Columns in words of 64 bits -/

namespace Columns

def wordDifference? (a b : UInt64) : Option UInt64 := if b ≤ a then some (a - b) else none

def wordSum? (a b : UInt64) : Option UInt64 :=
  if a.toNat + b.toNat < 2 ^ 64 then some (a + b) else none

/-- The width as words of 64 bits make it, if no step leaves them. -/
def wordWidth? (columns : Columns) : Option UInt64 := do
  wordSum? (← wordDifference? (UInt64.ofNat columns.last) (UInt64.ofNat columns.first)) 1

structure Covers (columns : Columns) (text : String) : Prop where
  one_le_first : 1 ≤ columns.first
  first_le_last : columns.first ≤ columns.last
  last_le : columns.last ≤ lastColumn
  last_eq : columns.last = columns.first + text.length - 1
  width_eq : columns.width = text.length
  wordWidth_eq : ∃ width, columns.wordWidth? = some width ∧ width.toNat = text.length

theorem wordWidth?_eq (columns : Columns) (hone : 1 ≤ columns.first)
    (hle : columns.first ≤ columns.last) (hlast : columns.last ≤ lastColumn) :
    ∃ width, columns.wordWidth? = some width ∧ width.toNat = columns.width := by
  simp only [lastColumn] at hlast
  have hfirst : (UInt64.ofNat columns.first).toNat = columns.first :=
    UInt64.toNat_ofNat_of_lt' (by simp only [UInt64.size]; omega)
  have hend : (UInt64.ofNat columns.last).toNat = columns.last :=
    UInt64.toNat_ofNat_of_lt' (by simp only [UInt64.size]; omega)
  have horder : UInt64.ofNat columns.first ≤ UInt64.ofNat columns.last := by
    rw [UInt64.le_iff_toNat_le, hfirst, hend]
    exact hle
  have hspan : (UInt64.ofNat columns.last - UInt64.ofNat columns.first).toNat =
      columns.last - columns.first := by
    rw [UInt64.toNat_sub_of_le _ _ horder, hfirst, hend]
  -- A line that starts in column 1 has a last column, so one more never leaves the words.
  have hroom : columns.last - columns.first + 1 < 2 ^ 64 := by omega
  refine ⟨UInt64.ofNat columns.last - UInt64.ofNat columns.first + 1, ?_, ?_⟩
  · simp [wordWidth?, wordDifference?, wordSum?, horder, hspan]
    omega
  · rw [UInt64.toNat_add, hspan]
    simp only [UInt64.reduceToNat, width]
    exact Nat.mod_eq_of_lt hroom

theorem covers_of_room {first : Nat} {text : String} (hne : text.toList ≠ []) (hone : 1 ≤ first)
    (hroom : first + text.length - 1 ≤ lastColumn) :
    Covers ⟨first, first + text.length - 1⟩ text := by
  have hlength : 0 < text.length := List.length_pos_iff.mpr hne
  have hle : first ≤ first + text.length - 1 := by omega
  have hwidth : width ⟨first, first + text.length - 1⟩ = text.length := by
    simp only [width]
    omega
  obtain ⟨word, hword, hvalue⟩ := wordWidth?_eq ⟨first, _⟩ hone hle hroom
  exact ⟨hone, hle, hroom, rfl, hwidth, word, hword, hvalue.trans hwidth⟩

end Columns

/-! ### Values -/

theorem Json.exists_build_of_decode {α : Type} {type : RecordType}
    {build : Record → Except Rejection α} {document : String} {value : α}
    (h : decode type build document = .ok value) : ∃ record, build record = .ok value := by
  obtain ⟨⟨record, rest⟩, -, h⟩ := bind_eq_ok_iff.mp h
  obtain ⟨built, hbuilt, h⟩ := bind_eq_ok_iff.mp h
  refine ⟨record, ?_⟩
  split_ifs at h
  cases h
  exact mapError_eq_ok_iff.mp hbuilt

namespace Identifier

inductive Obtained (identifier : Identifier) : Prop
  | text {verbatim : String} {column : Nat} (h : ofText verbatim column = .ok identifier)
  | draft {draft : Draft} (h : ofDraft draft = .ok identifier)
  | document {document : String} (h : decode document = .ok identifier)

structure IsSound (identifier : Identifier) : Prop where
  verbatim_ne : identifier.verbatim.toList ≠ []
  columns : identifier.columns.Covers identifier.verbatim
  key_eq : identifier.key = String.ofList (Name.key identifier.verbatim.toList)

theorem exists_ofText_of_ofDraft {draft : Draft} {identifier : Identifier}
    (h : ofDraft draft = .ok identifier) :
    ∃ verbatim, draft.verbatim = some verbatim ∧
      ofText verbatim draft.fromColumn = .ok identifier := by
  cases hverbatim : draft.verbatim with
  | none => simp [ofDraft, hverbatim] at h
  | some verbatim => exact ⟨verbatim, rfl, by simpa [ofDraft, hverbatim] using h⟩

theorem exists_ofText_of_obtained {identifier : Identifier} (h : Obtained identifier) :
    ∃ verbatim column, ofText verbatim column = .ok identifier := by
  have hdraft : ∀ draft, ofDraft draft = .ok identifier →
      ∃ verbatim column, ofText verbatim column = .ok identifier := by
    intro draft hdraft
    obtain ⟨verbatim, -, htext⟩ := exists_ofText_of_ofDraft hdraft
    exact ⟨verbatim, _, htext⟩
  cases h with
  | text h => exact ⟨_, _, h⟩
  | draft h => exact hdraft _ h
  | document h =>
    obtain ⟨record, hbuild⟩ := Json.exists_build_of_decode h
    exact hdraft _ hbuild

theorem isSound_of_ofText {verbatim : String} {column : Nat} {identifier : Identifier}
    (h : ofText verbatim column = .ok identifier) : IsSound identifier := by
  obtain ⟨hkeeps, rfl⟩ := ofText_eq_ok_iff.mp h
  -- That the text is not empty is no rule of its own: it holds a significant character.
  have hne : verbatim.toList ≠ [] := by
    obtain ⟨c, hc, -⟩ := hkeeps.significant
    exact List.ne_nil_of_mem hc
  exact ⟨hne, Columns.covers_of_room hne hkeeps.fromOne hkeeps.room, rfl⟩

end Identifier

namespace Run

inductive Obtained (run : Run) : Prop
  | draft {draft : Draft} (h : ofDraft draft = .ok run)
  | document {document : String} (h : decode document = .ok run)

structure IsSound (run : Run) : Prop where
  verbatim_ne : run.verbatim.toList ≠ []
  plainText_ne : run.plainText.toList ≠ []
  columns : run.columns.Covers run.verbatim

theorem exists_ofDraft_of_obtained {run : Run} (h : Obtained run) :
    ∃ draft, ofDraft draft = .ok run := by
  cases h with
  | draft h => exact ⟨_, h⟩
  | document h =>
    obtain ⟨record, hbuild⟩ := Json.exists_build_of_decode h
    exact ⟨_, hbuild⟩

theorem isSound_of_ofDraft {draft : Draft} {run : Run} (h : ofDraft draft = .ok run) :
    IsSound run := by
  obtain ⟨verbatim, plainText, hkeeps, rfl⟩ := ofDraft_eq_ok_iff.mp h
  exact ⟨hkeeps.verbatim_ne, hkeeps.plainText_ne,
    Columns.covers_of_room hkeeps.verbatim_ne hkeeps.fromOne hkeeps.room⟩

/-- Another plain text changes nothing else of a run. -/
theorem ofDraft_withPlainText {draft : Draft} {run : Run} (h : ofDraft draft = .ok run)
    {plainText : String} (hne : plainText.toList ≠ []) :
    ofDraft { draft with plainText := some plainText } =
      .ok { run with plainText := plainText } := by
  obtain ⟨verbatim, replaced, hkeeps, rfl⟩ := ofDraft_eq_ok_iff.mp h
  exact ofDraft_eq_ok_iff.mpr ⟨verbatim, plainText,
    { hkeeps with plainText_eq := rfl, plainText_ne := hne }, rfl⟩

end Run

/-- Every value is sound, however it was obtained, and the plain text of a run has no part in its
columns. -/
theorem isSound_of_obtained :
    (∀ identifier, Identifier.Obtained identifier → identifier.IsSound) ∧
    (∀ run, Run.Obtained run → run.IsSound) ∧
    ∀ draft run plainText, Run.ofDraft draft = .ok run → plainText.toList ≠ [] →
      Run.ofDraft { draft with plainText := some plainText } =
        .ok { run with plainText := plainText } := by
  refine ⟨?_, ?_, ?_⟩
  · intro identifier h
    obtain ⟨verbatim, column, htext⟩ := Identifier.exists_ofText_of_obtained h
    exact Identifier.isSound_of_ofText htext
  · intro run h
    obtain ⟨draft, hdraft⟩ := Run.exists_ofDraft_of_obtained h
    exact Run.isSound_of_ofDraft hdraft
  · intro draft run plainText h hne
    exact Run.ofDraft_withPlainText h hne

/-- The last two columns of the longest line, by a document that says otherwise. -/
theorem isSound_of_obtained_lastColumn :
    Identifier.decode (Json.written true [("to_column", .number 1), ("normalized", .text "zz"),
      ("from_column", .number 18446744073709551614), ("verbatim", .text "Ab")]) =
        .ok ⟨"Ab", "ab", ⟨18446744073709551614, 18446744073709551615⟩⟩ ∧
    Identifier.IsSound ⟨"Ab", "ab", ⟨18446744073709551614, 18446744073709551615⟩⟩ ∧
    Run.ofDraft ⟨true, false, true, some "**a**", some "a", 1⟩ =
      .ok ⟨true, false, true, "**a**", "a", ⟨1, 5⟩⟩ ∧
    Run.IsSound ⟨true, false, true, "**a**", "a", ⟨1, 5⟩⟩ ∧
    "longer than five".toList ≠ [] ∧
    Run.ofDraft ⟨true, false, true, some "**a**", some "longer than five", 1⟩ =
      .ok ⟨true, false, true, "**a**", "longer than five", ⟨1, 5⟩⟩ := by
  have hdecode : Identifier.decode (Json.written true [("to_column", .number 1),
      ("normalized", .text "zz"), ("from_column", .number 18446744073709551614),
      ("verbatim", .text "Ab")]) =
        .ok ⟨"Ab", "ab", ⟨18446744073709551614, 18446744073709551615⟩⟩ := by
    refine Json.decode_written true (by simp) (.skip rfl (.skip rfl (.keep rfl rfl
      (.number (by decide)) (.keep rfl rfl (.text _) .nil)))) ?_ (by decide +kernel)
    exact Json.isComplete_of_lookup (by simp [Identifier.recordType]) rfl
  have hrun : Run.ofDraft ⟨true, false, true, some "**a**", some "a", 1⟩ =
      .ok ⟨true, false, true, "**a**", "a", ⟨1, 5⟩⟩ := by
    decide +kernel
  obtain ⟨hidentifiers, hruns, htexts⟩ := isSound_of_obtained
  exact ⟨hdecode, hidentifiers _ (.document hdecode), hrun, hruns _ (.draft hrun), by decide,
    htexts _ _ _ hrun (by decide)⟩

end DialogueScript
