import DialogueScript.Proofs.Decoding

/-! # What follows a record

A record is judged where it ends. If no value is built from it, the rest of the document is not
looked at; otherwise nothing but space may follow. -/
namespace DialogueScript

namespace Json

/-- What a document starts with: such a text, and space before it. -/
def IsHead (isValue : List Char → Prop) (head : String) : Prop :=
  ∃ gap text, IsGap gap ∧ isValue text ∧ head.toList = gap ++ text

/-- What is decoded, by what the record at the start builds and what follows it. -/
inductive Judged {α : Type} (rest : String) : Except Rejection α → Except DecodeError α → Prop
  | rejected {rejection : Rejection} {cause : Misfit}
      (hmessage : cause.message = rejection.message) :
      Judged rest (.error rejection) (.error (.misfit cause))
  | accepted {value : α} (hspace : IsGap rest.toList) : Judged rest (.ok value) (.ok value)
  | trailing {value : α} (hmore : ¬IsGap rest.toList) : Judged rest (.ok value) (.error .malformed)

namespace Judged

variable {α : Type} {rest : String} {rejection : Rejection} {value : α}
  {answer : Except DecodeError α}

theorem exists_cause (h : Judged rest (.error rejection) answer) :
    ∃ cause, answer = .error (.misfit cause) ∧ cause.message = rejection.message := by
  cases h with
  | rejected hmessage => exact ⟨_, rfl, hmessage⟩

theorem eq_ok (h : Judged rest (.ok value) answer) (hspace : IsGap rest.toList) :
    answer = .ok value := by
  cases h with
  | accepted _ => rfl
  | trailing hmore => exact absurd hspace hmore

theorem eq_malformed (h : Judged rest (.ok value) answer) (hmore : ¬IsGap rest.toList) :
    answer = .error .malformed := by
  cases h with
  | accepted hspace => exact absurd hspace hmore
  | trailing _ => rfl

end Judged

variable {type : RecordType} {record : Record}

theorem judged_of_readRecord {α : Type} {document rest : String}
    (h : readRecord type document.toList = .ok (record, rest.toList))
    (build : Record → Except Rejection α) :
    Judged rest (build record) (decode type build document) := by
  have hdecode : decode type build document =
      ((build record).mapError fun rejection => .misfit (.rejected rejection)) >>= fun value =>
        if (dropSpacing rest.toList).isEmpty then .ok value else .error .malformed := by
    rw [decode, h]
    rfl
  rw [hdecode]
  cases build record with
  | error rejection => exact .rejected rfl
  | ok value =>
    by_cases hspace : IsGap rest.toList
    · have hend := isEmpty_dropSpacing_iff.mpr hspace
      simp only [Except.mapError, bind, Except.bind, hend, if_true]
      exact .accepted hspace
    · have hmore := mt isEmpty_dropSpacing_iff.mp hspace
      simp only [Except.mapError, bind, Except.bind, if_neg hmore]
      exact .trailing hspace

namespace Describes

variable {δ α : Type} {draftOf : Record → δ} {areMembers : δ → List (String × List Char) → Prop}
  {areValues : δ → List (List Char) → Prop} {draft : δ} {head : String}

/-- The record at the start of a document is read up to its closing brace or bracket. -/
theorem readRecord_append (h : Describes type draftOf areMembers areValues)
    (hhead : IsHead (Holds (areMembers draft) (areValues draft)) head) (rest : String) :
    ∃ record, readRecord type (head ++ rest).toList = .ok (record, rest.toList) ∧
      draftOf record = draft := by
  obtain ⟨gap, text, hgap, hholds, hshape⟩ := hhead
  obtain ⟨record, hrecord, hdraft⟩ := h.holds_iff.mp hholds
  refine ⟨record, (readRecord_eq_ok_iff h.fields_ne).mpr ⟨gap, text, hgap, hrecord, ?_⟩, hdraft⟩
  rw [String.toList_append, hshape, List.append_assoc]

theorem decode_append (h : Describes type draftOf areMembers areValues)
    (build : δ → Except Rejection α)
    (hhead : IsHead (Holds (areMembers draft) (areValues draft)) head) (rest : String) :
    Judged rest (build draft)
      (decode type (fun record => build (draftOf record)) (head ++ rest)) := by
  obtain ⟨record, hread, rfl⟩ := h.readRecord_append hhead rest
  exact judged_of_readRecord hread fun record => build (draftOf record)

end Describes

theorem IsField.isElement {field : FieldType} {value : FieldValue} {written : List Char}
    (h : IsField field written value) : IsJson (.element written) written := by
  simpa using IsJson.element isGap_nil h.isJson isGap_nil

end Json

open Json (isGap_nil IsText IsFlag IsColumn Holds IsHead Judged)

/-- A text is the record of a draft, from any space before it to its closing brace or bracket. -/
def Identifier.Draft.IsSaidBy (draft : Identifier.Draft) (head : String) : Prop :=
  IsHead (Holds draft.IsGivenBy draft.IsListedAs) head

def Run.Draft.IsSaidBy (draft : Run.Draft) (head : String) : Prop :=
  IsHead (Holds draft.IsGivenBy draft.IsListedAs) head

/-- Whatever follows a record, its draft is judged first. If that is rejected, its rejection is the
error. -/
theorem decode_append_judged :
    (∀ (draft : Identifier.Draft) (head rest : String), draft.IsSaidBy head →
      Judged rest (Identifier.ofDraft draft) (Identifier.decode (head ++ rest))) ∧
    ∀ (draft : Run.Draft) (head rest : String), draft.IsSaidBy head →
      Judged rest (Run.ofDraft draft) (Run.decode (head ++ rest)) := by
  constructor
  · intro draft head rest hhead
    exact Identifier.describes.decode_append Identifier.ofDraft hhead rest
  · intro draft head rest hhead
    exact Run.describes.decode_append Run.ofDraft hhead rest

/-- A bracket behind a record without its text is not noticed; a comma behind a whole run is. -/
theorem decode_append_judged_bracket :
    Identifier.Draft.IsSaidBy ⟨none, 0⟩ " \x7b\"from_column\":0\x7d" ∧
    (∃ cause, Identifier.decode (" \x7b\"from_column\":0\x7d" ++ "]") = .error (.misfit cause) ∧
      cause.message = "verbatim was not provided") ∧
    Run.Draft.IsSaidBy ⟨true, false, false, some "a", some " ", 7⟩
      "[true,false,false,\"a\",\" \",7]" ∧
    Run.decode ("[true,false,false,\"a\",\" \",7]" ++ "\n") =
      .ok ⟨true, false, false, "a", " ", ⟨7, 7⟩⟩ ∧
    Run.decode ("[true,false,false,\"a\",\" \",7]" ++ "\n,") = .error .malformed := by
  have hname : Json.Spells "from_column".toList "from_column".toList := Json.spells_self (by simp)
  have hzero : IsColumn 0 ['0'] := ⟨by decide, rfl⟩
  have hobject : Json.IsObject [("from_column", ['0'])] "\x7b\"from_column\":0\x7d".toList :=
    ⟨_, _, .lastMember (.member isGap_nil hname.isBody isGap_nil
      (Json.IsField.column hzero).isElement),
      .cons ⟨hname, rfl⟩ .nil, rfl⟩
  have hidentifier : Identifier.Draft.IsSaidBy ⟨none, 0⟩ " \x7b\"from_column\":0\x7d" :=
    ⟨[' '], _, by simp [Json.IsGap, Json.isSpacing], .object hobject
      ⟨Or.inl ⟨rfl, rfl⟩, Or.inr ⟨_, rfl, hzero⟩⟩, rfl⟩
  have hyes : IsFlag true ['t', 'r', 'u', 'e'] := rfl
  have hno : IsFlag false ['f', 'a', 'l', 's', 'e'] := rfl
  have hletter : IsText (some "a") ['"', 'a', '"'] := .string (Json.spells_self (by simp))
  have hblank : IsText (some " ") ['"', ' ', '"'] := .string (Json.spells_self (by simp))
  have hseven : IsColumn 7 ['7'] := ⟨by decide, rfl⟩
  have hrun : Run.Draft.IsSaidBy ⟨true, false, false, some "a", some " ", 7⟩
      "[true,false,false,\"a\",\" \",7]" :=
    ⟨[], _, isGap_nil, .array ⟨_, .nextElement (Json.IsField.flag hyes).isElement
      (.nextElement (Json.IsField.flag hno).isElement (.nextElement (Json.IsField.flag hno).isElement
        (.nextElement (Json.IsField.text hletter).isElement
          (.nextElement (Json.IsField.text hblank).isElement
            (.lastElement (Json.IsField.column hseven).isElement))))), rfl⟩
      (.fields hyes hno hno hletter hblank hseven), rfl⟩
  have hbuilt : Run.ofDraft ⟨true, false, false, some "a", some " ", 7⟩ =
      .ok ⟨true, false, false, "a", " ", ⟨7, 7⟩⟩ := by decide +kernel
  obtain ⟨hidentifiers, hruns⟩ := decode_append_judged
  refine ⟨hidentifier, ?_, hrun, ?_, ?_⟩
  · exact (hidentifiers _ _ "]" hidentifier).exists_cause
  · have hjudged := hruns _ _ "\n" hrun
    rw [hbuilt] at hjudged
    exact hjudged.eq_ok (by simp [Json.IsGap, Json.isSpacing])
  · have hjudged := hruns _ _ "\n," hrun
    rw [hbuilt] at hjudged
    exact hjudged.eq_malformed fun hspace => absurd (hspace ',' (by simp)) (by decide)

end DialogueScript
