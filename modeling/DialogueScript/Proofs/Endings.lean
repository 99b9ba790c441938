import DialogueScript.Render
import DialogueScript.Proofs.Summary
import DialogueScript.Proofs.Yaml.Members

/-! # How renderings end

Texts may be blank from end to end, but none of them ends a rendering: what stands last is a quote,
a brace, a number or the key of a name. Only YAML has a line end behind that. -/
namespace DialogueScript

/-! ### Texts that end visibly -/

namespace Text

def EndsVisibly (text : List Char) : Prop := ∃ before c, text = before ++ [c] ∧ isBlank c = false

theorem EndsVisibly.append_left {text : List Char} (h : EndsVisibly text) (before : List Char) :
    EndsVisibly (before ++ text) := by
  obtain ⟨inner, c, rfl, hc⟩ := h
  exact ⟨before ++ inner, c, (List.append_assoc ..).symm, hc⟩

theorem endsVisibly_of_isBlank_eq_false {text : List Char} (hne : text ≠ [])
    (h : ∀ c ∈ text, isBlank c = false) : EndsVisibly text :=
  ⟨text.dropLast, text.getLast hne, (List.dropLast_append_getLast hne).symm,
    h _ (List.getLast_mem hne)⟩

theorem endsVisibly_quoted (text : String) : EndsVisibly (quoted text).toList := by
  rw [toList_quoted]
  exact ⟨_, '"', rfl, by decide⟩

theorem endsVisibly_toDigits (n : Nat) : EndsVisibly (Nat.toDigits 10 n) :=
  endsVisibly_of_isBlank_eq_false (Nat.toDigits_ne_nil) fun _ hc =>
    isBlank_of_mem_toDigits (by decide) (by decide) hc

/-- No more is dropped than the blank characters behind such a text. -/
theorem dropFinalBlank_append {text ending : List Char} (h : EndsVisibly text)
    (hending : ∀ c ∈ ending, isBlank c = true) : dropFinalBlank (text ++ ending) = text := by
  obtain ⟨before, c, rfl, hc⟩ := h
  have hreverse : ∀ d ∈ ending.reverse, isBlank d = true := fun d hd =>
    hending d (List.mem_reverse.mp hd)
  rw [dropFinalBlank, List.reverse_append, List.dropWhile_append_of_pos hreverse,
    List.reverse_concat, List.dropWhile_cons_of_neg (by simp [hc]), List.reverse_cons,
    List.reverse_reverse]

end Text
open Text (EndsVisibly)

/-! ### Renderings -/

/-- What a rendering in this format has behind its last visible character. -/
def Format.ending : Format → String
  | text => ""
  | json => ""
  | yaml => "\n"

theorem Format.isBlank_of_mem_ending (format : Format) {c : Char} (h : c ∈ format.ending.toList) :
    Text.isBlank c = true := by
  cases format with
  | text => cases h
  | json => cases h
  | yaml =>
    rw [List.mem_singleton.mp h]
    rfl

/-- A rendering is what it shows, and the line end that its format has. -/
structure Format.Shows (format : Format) (shown rendering : String) : Prop where
  visible : EndsVisibly shown.toList
  rendering_eq : rendering = shown ++ format.ending

theorem Json.endsVisibly_written (isPretty : Bool) (fields : List Field) :
    EndsVisibly (Json.written isPretty fields).toList := by
  rw [written, String.toList_ofList]
  cases isPretty with
  | false => exact ⟨_, '}', rfl, by decide⟩
  | true => exact EndsVisibly.append_left ⟨['\n'], '}', rfl, by decide⟩ _

namespace Yaml

/-- The last line of a mapping whose last value is a number. -/
theorem endsVisibly_members (fields : List Field) (name : String) (n : Nat) :
    ∃ shown, EndsVisibly shown ∧
      (fields ++ [(name, Scalar.number n)]).flatMap member = shown ++ ['\n'] := by
  refine ⟨fields.flatMap member ++ (name.toList ++ ([':', ' '] ++ Nat.toDigits 10 n)), ?_, ?_⟩
  · exact (((Text.endsVisibly_toDigits n).append_left _).append_left _).append_left _
  · simp [member_eq, line_number]

end Yaml

namespace Lexeme

/-- A document ends with the last column. -/
theorem exists_fields_eq (lexeme : Lexeme) :
    ∃ before, lexeme.fields = before ++ [("to_column", Scalar.number lexeme.columns.last)] := by
  refine ⟨lexeme.fields.dropLast, ?_⟩
  cases lexeme <;> rfl

theorem endsVisibly_summary {draft : Draft} {lexeme : Lexeme} (h : ofDraft draft = .ok lexeme) :
    EndsVisibly lexeme.summary.toList := by
  cases lexeme with
  | run value =>
    rw [summary, String.toList_append]
    exact (Text.endsVisibly_quoted value.plainText).append_left _
  | identifier value =>
    obtain ⟨verbatim, column, hbuilt⟩ := exists_ofText_of_ofDraft h
    obtain ⟨hkeeps, rfl⟩ := Identifier.ofText_eq_ok_iff.mp hbuilt
    obtain ⟨c, hc, -⟩ := hkeeps.significant
    have hkey : EndsVisibly (Name.key verbatim.toList) :=
      Text.endsVisibly_of_isBlank_eq_false (Name.key_ne_nil (List.ne_nil_of_mem hc)) fun _ hd =>
        Name.isBlank_of_mem_key hd
    rw [summary, String.toList_append, Identifier.written, String.toList_ofList]
    exact hkey.append_left _

/-- Every rendering ends visibly, but for the line end of YAML. -/
theorem exists_shows {draft : Draft} {lexeme : Lexeme} (h : ofDraft draft = .ok lexeme)
    (isPretty : Bool) (format : Format) :
    ∃ shown, format.Shows shown (lexeme.render isPretty format) := by
  cases format with
  | text => exact ⟨lexeme.summary, endsVisibly_summary h, String.append_empty.symm⟩
  | json =>
    exact ⟨Json.written isPretty lexeme.fields, Json.endsVisibly_written isPretty _,
      String.append_empty.symm⟩
  | yaml =>
    obtain ⟨before, hfields⟩ := lexeme.exists_fields_eq
    obtain ⟨shown, hvisible, hmembers⟩ :=
      Yaml.endsVisibly_members before "to_column" lexeme.columns.last
    refine ⟨String.ofList shown, by rwa [String.toList_ofList], ?_⟩
    rw [← String.toList_inj, render, Yaml.written, hfields, hmembers]
    simp [Format.ending]

end Lexeme

end DialogueScript
