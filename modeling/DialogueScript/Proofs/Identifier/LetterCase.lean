import DialogueScript.Identifier
import DialogueScript.Proofs.Name.Key
import DialogueScript.Proofs.Text.LetterCase

/-! # Identifiers and the case of ASCII letters

Texts that are the same but for the case of ASCII letters have one key and one length, so they make
identifiers of one name in the same places and are refused for the same reasons. The case shows
only in a reserved word, which is reported as it is written. -/
namespace DialogueScript

namespace Name

variable {text other : List Char}

@[simp] theorem isExcluded_toLower (c : Char) : isExcluded c.toLower = isExcluded c := by
  apply Text.apply_toLower
  intro d hd
  exact isExcluded_of_isWordCharacter (Text.isWordCharacter_of_isAlpha hd)

theorem hasSignificant_map_toLower (text : List Char) :
    hasSignificant (text.map Char.toLower) = hasSignificant text := by
  simp [hasSignificant, Function.comp_def]

theorem key_map_toLower (text : List Char) : key (text.map Char.toLower) = key text := by
  rw [key, Text.lowercase_map_toLower, key]

/-- What is the same for a text and its small letters is the same for all spellings. -/
theorem SameLetters.apply_eq {α : Type} {f : List Char → α} (h : SameLetters text other)
    (hf : ∀ text, f (text.map Char.toLower) = f text) : f text = f other := by
  rw [← hf text, h, hf other]

theorem SameLetters.key_eq (h : SameLetters text other) : key text = key other :=
  h.apply_eq key_map_toLower

theorem SameLetters.length_eq (h : SameLetters text other) : text.length = other.length :=
  h.apply_eq fun _ => List.length_map Char.toLower

end Name

theorem Columns.require_eq_of_length {text other : String} (h : text.length = other.length)
    (first : Nat) : require first text = require first other := by
  rw [require, require, covering?, covering?, h]

namespace Identifier

/-- Two attempts come to the same: to identifiers with one key and the same columns, or to one
rejection, but for the case in which a reserved word is written. -/
inductive ComesToSame : Except Rejection Identifier → Except Rejection Identifier → Prop
  | built {a b : Identifier} (key : a.key = b.key) (columns : a.columns = b.columns) :
      ComesToSame (.ok a) (.ok b)
  | rejected (rejection : Rejection) : ComesToSame (.error rejection) (.error rejection)
  | reservedWord {word other : String} (letters : Name.SameLetters word.toList other.toList) :
      ComesToSame (.error (.invalid .verbatim (.reservedWord word)))
        (.error (.invalid .verbatim (.reservedWord other)))

/-- The rules on names say the same of two spellings, in the words of each. -/
theorem checkName_of_sameLetters {text other : List Char} (h : Name.SameLetters text other) :
    checkName text = checkName other ∨
      ∃ word word', Name.SameLetters word word' ∧
        checkName text = .error (.reservedWord (String.ofList word)) ∧
        checkName other = .error (.reservedWord (String.ofList word')) := by
  have hblank : Text.hasOuterBlank text = Text.hasOuterBlank other :=
    h.apply_eq Text.hasOuterBlank_map_toLower
  have hreserved : Option.Rel Name.SameLetters (Name.reservedIn? text) (Name.reservedIn? other) :=
    Name.sameLetters_of_key_eq h.key_eq
  have hdisallowed : Name.disallowedIn? text = Name.disallowedIn? other :=
    Name.disallowedIn?_eq_of_key_eq h.key_eq
  have hsignificant : Name.hasSignificant text = Name.hasSignificant other :=
    h.apply_eq Name.hasSignificant_map_toLower
  unfold checkName
  rw [hblank, hdisallowed, hsignificant]
  generalize Name.reservedIn? text = found, Name.reservedIn? other = found' at hreserved ⊢
  cases Text.hasOuterBlank other with
  | true => exact Or.inl rfl
  | false =>
    cases hreserved with
    | none => exact Or.inl rfl
    | @some word word' hsame => exact Or.inr ⟨word, word', hsame, rfl, rfl⟩

/-- Whether a text makes an identifier, which one, and why it makes none, does not depend on the
case of its ASCII letters. -/
theorem ofText_sameLetters {a b : String} (h : Name.SameLetters a.toList b.toList)
    (column : Nat) : ComesToSame (ofText a column) (ofText b column) := by
  have hcolumns : Columns.require column a = Columns.require column b :=
    Columns.require_eq_of_length h.length_eq column
  rw [ofText, ofText, hcolumns, h.key_eq]
  rcases checkName_of_sameLetters h with hname | ⟨word, word', hsame, hword, hword'⟩
  · rw [hname]
    cases checkName b.toList with
    | error fault => exact ComesToSame.rejected _
    | ok _ =>
      cases Columns.require column b with
      | error rejection => exact ComesToSame.rejected rejection
      | ok columns => exact ComesToSame.built rfl rfl
  · rw [hword, hword']
    apply ComesToSame.reservedWord
    rwa [String.toList_ofList, String.toList_ofList]

/-- A letter in either case keeps the sigma before it from ending a word. -/
theorem ofText_sameLetters_sigma :
    Name.SameLetters "AΣ.b".toList "aΣ.B".toList ∧
      ofText "AΣ.b" 7 = .ok ⟨"AΣ.b", "aσ-b", ⟨7, 10⟩⟩ ∧
      ComesToSame (ofText "AΣ.b" 7) (ofText "aΣ.B" 7) := by
  have hletters : Name.SameLetters "AΣ.b".toList "aΣ.B".toList := by decide
  have hbuilt : ofText "AΣ.b" 7 = .ok ⟨"AΣ.b", "aσ-b", ⟨7, 10⟩⟩ := by decide +kernel
  exact ⟨hletters, hbuilt, ofText_sameLetters hletters 7⟩

end Identifier

end DialogueScript
