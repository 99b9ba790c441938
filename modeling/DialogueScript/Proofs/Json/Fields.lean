import DialogueScript.Proofs.Json.Skipping

/-! # Fields of records and the grammar

What a field of a record wants in a document, and that its reader takes exactly that. -/
namespace DialogueScript.Json

variable {text rest : List Char}

/-! ### What fields want -/

def IsFlag (value : Bool) (text : List Char) : Prop :=
  text = if value then ['t', 'r', 'u', 'e'] else ['f', 'a', 'l', 's', 'e']

inductive IsText : Option String → List Char → Prop
  | null : IsText none ['n', 'u', 'l', 'l']
  | string {body spelled : List Char} (hbody : Spells body spelled) :
      IsText (some (String.ofList spelled)) ('"' :: (body ++ ['"']))

def IsColumn (value : Nat) (text : List Char) : Prop := value < 2 ^ 64 ∧ text = Nat.toDigits 10 value

inductive IsField : FieldType → List Char → FieldValue → Prop
  | flag {value : Bool} {text : List Char} (h : IsFlag value text) : IsField .flag text (.flag value)
  | text {value : Option String} {text : List Char} (h : IsText value text) :
      IsField .text text (.text value)
  | column {value : Nat} {text : List Char} (h : IsColumn value text) :
      IsField .column text (.column value)

variable {type : FieldType} {value : FieldValue} {written : List Char}

theorem IsField.isJson (h : IsField type written value) : IsJson .value written := by
  cases h with
  | @flag value _ h =>
    rw [IsFlag] at h
    subst h
    cases value
    · exact .word (by simp)
    · exact .word (by simp)
  | text h =>
    cases h with
    | null => exact .word (by simp)
    | string hbody => exact .string hbody.isBody
  | @column value _ h =>
    have hnumber := IsNumber.parts (isWhole_toDigits value) .nothing .nothing
    rw [List.append_nil, List.append_nil] at hnumber
    rw [h.2]
    exact .number hnumber

/-- A field is read behind any gap, if it does not go on as a number. -/
theorem readField_append (h : IsField type written value) {gap : List Char} (hgap : IsGap gap)
    (hrest : EndsNumber rest) : readField type (gap ++ (written ++ rest)) = .ok (value, rest) := by
  cases h with
  | @flag value _ h =>
    rw [IsFlag] at h
    subst h
    cases value
    · exact readField_written hgap hrest (.flag false)
    · exact readField_written hgap hrest (.flag true)
  | text h =>
    cases h with
    | null =>
      rw [readField, List.cons_append, dropSpacing_append hgap rfl]
      have hword := expectWord_append ['u', 'l', 'l'] rest
      simp only [readText, if_true, hword]
      rfl
    | @string body spelled hbody =>
      have hread : readString (body ++ '"' :: rest) = .ok (spelled, rest) :=
        readString_eq_ok_iff.mpr ⟨body, hbody, rfl⟩
      rw [readField, List.cons_append, List.append_assoc, List.singleton_append,
        dropSpacing_append hgap rfl]
      simp only [readText, if_neg (show '"' ≠ 'n' by decide), if_true, hread]
      rfl
  | column h =>
    rw [h.2]
    exact readField_written hgap hrest (.number h.1)

theorem isField_of_readFlag {c : Char} (h : readFlag c text = .ok (value, rest)) :
    ∃ written, IsField .flag written value ∧ c :: text = written ++ rest := by
  rw [readFlag] at h
  split_ifs at h with ht hf
  · obtain ⟨after, hword, hread⟩ := map_ok h
    cases hread
    exact ⟨_, .flag rfl, by rw [ht, expectWord_eq_ok_iff.mp hword]; rfl⟩
  · obtain ⟨after, hword, hread⟩ := map_ok h
    cases hread
    exact ⟨_, .flag rfl, by rw [hf, expectWord_eq_ok_iff.mp hword]; rfl⟩
  · exact absurd h refuse_ne_ok

theorem isField_of_readText {c : Char} (h : readText c text = .ok (value, rest)) :
    ∃ written, IsField .text written value ∧ c :: text = written ++ rest := by
  rw [readText] at h
  split_ifs at h with hn hquote
  · obtain ⟨after, hword, hread⟩ := map_ok h
    cases hread
    exact ⟨_, .text .null, by rw [hn, expectWord_eq_ok_iff.mp hword]; rfl⟩
  · obtain ⟨⟨spelled, after⟩, hstring, hread⟩ := map_ok h
    cases hread
    obtain ⟨body, hbody, rfl⟩ := readString_eq_ok_iff.mp hstring
    exact ⟨_, .text (.string hbody), by simp [hquote]⟩
  · exact absurd h refuse_ne_ok

/-- A number with a minus sign is not an integer, or a negative one. -/
theorem columnOf_negative {number : Number} (h : readNumber true text = .ok (number, rest))
    (column : Nat) : columnOf number ≠ .ok column := by
  unfold readNumber at h
  dsimp only at h
  split_ifs at h
  · obtain ⟨read, -, hread⟩ := map_ok h
    cases hread
    intro hcolumn
    cases hcolumn
  · obtain ⟨read, -, hread⟩ := map_ok h
    cases hread
    intro hcolumn
    cases hcolumn
  · cases h
    rw [ofInteger]
    split_ifs with hsign hzero
    · cases hsign
    · intro hcolumn
      cases hcolumn
    · obtain ⟨size, hsize⟩ := Nat.exists_eq_succ_of_ne_zero (mt Or.inl hzero)
      rw [hsize]
      intro hcolumn
      cases hcolumn

theorem columnOf_eq_ok {number : Number} {column : Nat} (h : columnOf number = .ok column) :
    number = .integer column := by
  rcases number with ⟨_ | _⟩ | _
  · cases h
    rfl
  · cases h
  · cases h

theorem isField_of_readColumn {c : Char} (h : readColumn c text = .ok (value, rest)) :
    ∃ written, IsField .column written value ∧ c :: text = written ++ rest := by
  rw [readColumn] at h
  split_ifs at h with hstart hminus
  · obtain ⟨⟨number, after⟩, hnumber, h⟩ := bind_eq_ok_iff.mp h
    obtain ⟨column, hcolumn, h⟩ := bind_eq_ok_iff.mp h
    rw [decide_eq_true hminus] at hnumber
    exact absurd hcolumn (columnOf_negative hnumber column)
  · obtain ⟨⟨number, after⟩, hnumber, h⟩ := bind_eq_ok_iff.mp h
    obtain ⟨column, hcolumn, h⟩ := bind_eq_ok_iff.mp h
    cases h
    rw [decide_eq_false hminus, columnOf_eq_ok hcolumn] at hnumber
    obtain ⟨n, hn, hbound, htext⟩ := eq_toDigits_of_readNumber hnumber
    rw [Int.ofNat_inj.mp hn]
    exact ⟨_, .column ⟨hbound, rfl⟩, htext⟩
  · exact absurd h refuse_ne_ok

/-- Only fields are read, behind gaps. -/
theorem isField_of_readField (h : readField type text = .ok (value, rest)) :
    ∃ gap written, IsGap gap ∧ IsField type written value ∧ text = gap ++ (written ++ rest) := by
  rw [readField] at h
  split at h
  · cases h
  · rename_i c after hstart
    obtain ⟨gap, hgap, -, rfl⟩ := dropSpacing_eq_cons_iff.mp hstart
    obtain ⟨written, hfield, hwritten⟩ :
        ∃ written, IsField type written value ∧ c :: after = written ++ rest := by
      cases type with
      | flag => exact isField_of_readFlag h
      | text => exact isField_of_readText h
      | column => exact isField_of_readColumn h
    exact ⟨gap, written, hgap, hfield, by rw [hwritten]⟩

theorem IsField.unique (h : IsField type written value) {other : FieldValue}
    (hother : IsField type written other) : value = other := by
  have hread := readField_append h isGap_nil endsNumber_nil
  rw [readField_append hother isGap_nil endsNumber_nil] at hread
  cases hread
  rfl

end DialogueScript.Json
