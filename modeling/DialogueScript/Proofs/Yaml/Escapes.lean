import DialogueScript.Proofs.Entries
import DialogueScript.Proofs.Text.Digits
import DialogueScript.Yaml.Printer

/-! # What double quotes keep

An escape is read back from its letter or from its code, and no character of a text looks like the
quote that ends it. -/
namespace DialogueScript.Yaml
open Text (IsPrefixFree digitValue? pushDigit?)

def escapeWidth? (letter : Char) : Option Nat :=
  if letter = 'x' then some 2
  else if letter = 'u' then some 4
  else if letter = 'U' then some 8
  else none

def readDoubleCharacter : List Char → Option (Char × List Char)
  | '\\' :: letter :: rest =>
    match escapeWidth? letter with
    | some width =>
      ((rest.take width).foldlM (pushDigit? 16) 0).map fun code =>
        (Char.ofNat code, rest.drop width)
    | none => ((namedEscapes.map Prod.swap).lookup letter).map fun c => (c, rest)
  | c :: rest => some (c, rest)
  | [] => none

theorem length_hexDigits {width n : Nat} (hwidth : 0 < width) (h : n < 16 ^ width) :
    (hexDigits width n).length = width := by
  have hle : (Nat.toDigits 16 n).length ≤ width :=
    (Nat.length_toDigits_le_iff (by decide) hwidth).mpr h
  simp only [hexDigits, List.length_append, List.length_replicate, List.length_map]
  omega

theorem digitValue?_toUpper {digit : Nat} (h : digit < 16) :
    digitValue? (Nat.digitChar digit).toUpper = some digit := by
  interval_cases digit <;> rfl

theorem foldlM_hexDigits (width n : Nat) :
    (hexDigits width n).foldlM (pushDigit? 16) 0 = some n := by
  have hzeros : ∀ count, (List.replicate count '0').foldlM (pushDigit? 16) 0 = some 0 := by
    intro count
    induction count with
    | zero => rfl
    | succ count ih => rw [List.replicate_succ, List.foldlM_cons]; exact ih
  rw [hexDigits, List.foldlM_append, hzeros]
  exact Text.foldlM_toDigits_map Char.toUpper (by decide) (fun _ h => digitValue?_toUpper h) n

/-- A character is escaped by a letter or by its code, or else it shows as itself. -/
theorem doubleCharacter_cases (c : Char) :
    (∃ letter, (c, letter) ∈ namedEscapes ∧ doubleCharacter c = ['\\', letter]) ∨
      (∃ letter width, escapeWidth? letter = some width ∧ 0 < width ∧ c.toNat < 16 ^ width ∧
        doubleCharacter c = '\\' :: letter :: hexDigits width c.toNat) ∨
      doubleCharacter c = [c] ∧ c ≠ '\\' ∧ c ≠ '"' := by
  have hcode : c.toNat < 0x110000 := by
    have := c.valid
    simp only [UInt32.isValidChar, Nat.isValidChar] at this
    simp only [Char.toNat]
    omega
  unfold doubleCharacter
  cases hletter : namedEscapes.lookup c with
  | some letter => exact Or.inl ⟨letter, mem_of_lookup_eq_some hletter, rfl⟩
  | none =>
    have hne : c ≠ '\\' ∧ c ≠ '"' := by
      constructor
      · rintro rfl
        exact absurd hletter (by decide)
      · rintro rfl
        exact absurd hletter (by decide)
    refine Or.inr ?_
    dsimp only
    split_ifs with hshown hbyte hpair
    · exact Or.inr ⟨rfl, hne⟩
    · exact Or.inl ⟨'x', 2, rfl, by decide, by omega, rfl⟩
    · exact Or.inl ⟨'u', 4, rfl, by decide, by omega, rfl⟩
    · exact Or.inl ⟨'U', 8, rfl, by decide, by omega, rfl⟩

theorem readDoubleCharacter_doubleCharacter (c : Char) (rest : List Char) :
    readDoubleCharacter (doubleCharacter c ++ rest) = some (c, rest) := by
  rcases doubleCharacter_cases c with
    ⟨letter, hmem, hletter⟩ | ⟨letter, width, hwidth, hpos, hlt, hcode⟩ | ⟨hself, hbackslash, -⟩
  · have hread : ∀ entry ∈ namedEscapes, escapeWidth? entry.2 = none ∧
        (namedEscapes.map Prod.swap).lookup entry.2 = some entry.1 := by decide
    obtain ⟨hnone, hback⟩ := hread _ hmem
    simp [hletter, readDoubleCharacter, hnone, hback]
  · have htake : (hexDigits width c.toNat ++ rest).take width = hexDigits width c.toNat := by
      simp [length_hexDigits hpos hlt]
    have hdrop : (hexDigits width c.toNat ++ rest).drop width = rest := by
      simp [length_hexDigits hpos hlt]
    rw [hcode, List.cons_append, List.cons_append, readDoubleCharacter, hwidth]
    dsimp only
    rw [htake, hdrop, foldlM_hexDigits, Option.map_some, Char.ofNat_toNat]
  · rw [hself, List.singleton_append, readDoubleCharacter]
    intro letter after hescaped
    exact absurd hescaped hbackslash

theorem isPrefixFree_doubleCharacter : IsPrefixFree doubleCharacter :=
  Text.isPrefixFree_of_read readDoubleCharacter readDoubleCharacter_doubleCharacter

theorem head?_doubleCharacter_ne (c : Char) (tail : List Char) :
    (doubleCharacter c ++ tail).head? ≠ some '"' := by
  rcases doubleCharacter_cases c with ⟨letter, -, h⟩ | ⟨letter, width, -, -, -, h⟩ | ⟨h, -, hne⟩
  · simp [h]
  · simp [h]
  · simp [h, hne]

/-- A text in double quotes says where it ends and what it is. -/
theorem doubleQuoted_append_inj {text other rest rest' : List Char}
    (h : text.flatMap doubleCharacter ++ '"' :: rest =
      other.flatMap doubleCharacter ++ '"' :: rest') : text = other ∧ rest = rest' :=
  Text.flatMap_append_inj isPrefixFree_doubleCharacter head?_doubleCharacter_ne h

end DialogueScript.Yaml
