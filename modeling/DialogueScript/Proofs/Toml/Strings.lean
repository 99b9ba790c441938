import DialogueScript.Proofs.Json.Tokens
import DialogueScript.Toml.Reader

/-! # Strings of TOML, written and read back

Every text can be written as a string on one line, and the string is read as that text. -/
namespace DialogueScript.Toml

/-- A character of a string in double quotes. Control characters are written by their code. -/
def writtenCharacter (c : Char) : List Char :=
  if c = '"' then ['\\', '"']
  else if c = '\\' then ['\\', '\\']
  else if isPlain c then [c]
  else '\\' :: 'u' :: Json.hexFour c.toNat

def writtenString (text : List Char) : List Char :=
  '"' :: text.flatMap writtenCharacter ++ ['"']

theorem writtenCharacter_cases (c : Char) :
    (∃ escape, writtenCharacter c = '\\' :: escape ∧
        ∀ rest, readEscape? (escape ++ rest) = some (c, rest)) ∨
      writtenCharacter c = [c] ∧ c ≠ '"' ∧ c ≠ '\\' ∧ isPlain c = true := by
  unfold writtenCharacter
  split_ifs with hquote hbackslash hplain
  · exact Or.inl ⟨['"'], rfl, fun rest => by rw [hquote]; rfl⟩
  · exact Or.inl ⟨['\\'], rfl, fun rest => by rw [hbackslash]; rfl⟩
  · exact Or.inr ⟨rfl, hquote, hbackslash, hplain⟩
  · refine Or.inl ⟨'u' :: Json.hexFour c.toNat, rfl, fun rest => ?_⟩
    have hsmall : c.toNat < 0x80 := by
      simp only [isPlain, Bool.or_eq_true, Bool.and_eq_true, decide_eq_true_eq, bne_iff_ne,
        not_or, not_and] at hplain
      omega
    have htake : (Json.hexFour c.toNat ++ rest).take 4 = Json.hexFour c.toNat := rfl
    have hdrop : (Json.hexFour c.toNat ++ rest).drop 4 = rest := rfl
    have hvalid : c.toNat.isValidChar := Or.inl (by omega)
    rw [List.cons_append, readEscape?, readCode?]
    simp only [htake, hdrop, Json.digitsValue?_hexFour (show c.toNat < 65536 by omega)]
    simp [Json.hexFour, hvalid, Char.ofNat_toNat]

theorem readBasic?_writtenCharacter (fuel : Nat) (c : Char) (rest : List Char) :
    readBasic? (fuel + 1) (writtenCharacter c ++ rest) =
      (readBasic? fuel rest).map fun read => (c :: read.1, read.2) := by
  rcases writtenCharacter_cases c with ⟨escape, hwritten, hread⟩ | ⟨hwritten, hquote, hback, hplain⟩
  · rw [hwritten, List.cons_append, readBasic?, if_neg (by decide), if_pos rfl, hread]
    change (readBasic? fuel rest >>= fun read => some (c :: read.1, read.2)) = _
    cases readBasic? fuel rest <;> rfl
  · rw [hwritten, List.singleton_append, readBasic?, if_neg hquote, if_neg hback, if_pos hplain]

/-- Each character takes one step of the reader, and the quote one more. -/
theorem readBasic?_written {text : List Char} {fuel : Nat} (h : text.length < fuel)
    (rest : List Char) :
    readBasic? fuel (text.flatMap writtenCharacter ++ '"' :: rest) = some (text, rest) := by
  induction text generalizing fuel with
  | nil =>
    obtain ⟨fuel, rfl⟩ := Nat.exists_eq_add_one_of_ne_zero (Nat.ne_of_gt h)
    rfl
  | cons c text ih =>
    obtain ⟨fuel, rfl⟩ := Nat.exists_eq_add_one_of_ne_zero (Nat.ne_zero_of_lt h)
    rw [List.flatMap_cons, List.append_assoc, readBasic?_writtenCharacter,
      ih (Nat.lt_of_succ_lt_succ h)]
    rfl

theorem length_le_written (text : List Char) :
    text.length ≤ (text.flatMap writtenCharacter).length := by
  induction text with
  | nil => exact le_rfl
  | cons c text ih =>
    have hone : 1 ≤ (writtenCharacter c).length := by
      rcases writtenCharacter_cases c with ⟨escape, h, -⟩ | ⟨h, -⟩ <;> simp [h]
    rw [List.flatMap_cons, List.length_append, List.length_cons]
    omega

theorem readString?_written (text : List Char) :
    readString? (writtenString text) = some (text, []) := by
  have hread : readBasic? ((text.flatMap writtenCharacter ++ ['"']).length + 1)
      (text.flatMap writtenCharacter ++ ['"']) = some (text, []) := by
    refine readBasic?_written ?_ []
    have hlength := length_le_written text
    rw [List.length_append]
    omega
  cases text with
  | nil => rfl
  | cons c text =>
    -- A quote in the text is escaped, so it does not make the opening quote one of three.
    rw [writtenString]
    rcases writtenCharacter_cases c with ⟨escape, h, -⟩ | ⟨h, hquote, -⟩
    · simp only [List.flatMap_cons, h, List.cons_append] at hread ⊢
      rw [readString?, hread]
      · simp
    · simp only [List.flatMap_cons, h, List.cons_append, List.nil_append] at hread ⊢
      rw [readString?, hread]
      · simp [hquote]

theorem readValue?_written (fuel depth : Nat) (text : List Char) :
    readValue? (fuel + 1) depth (writtenString text) = some (.string (String.ofList text), []) := by
  have hread := readString?_written text
  rw [writtenString, List.cons_append] at hread ⊢
  rw [readValue?, if_pos (by decide), hread]
  · rfl
  · simp
  · simp

end DialogueScript.Toml
