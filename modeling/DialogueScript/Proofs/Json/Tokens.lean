import DialogueScript.Json.Printer
import DialogueScript.Json.Skip
import DialogueScript.Proofs.Text.Digits

/-! # Reading back what was written: strings, words and numbers

Each reader returns a written value and whatever follows it. -/
namespace DialogueScript.Json

/-! ### Characters of strings -/

theorem digitsValue?_hexFour {n : Nat} (h : n < 65536) :
    Text.digitsValue? 16 (hexFour n) = some n := by
  have hmod : ∀ m, m % 16 < 16 := fun m => Nat.mod_lt m (by decide)
  simp only [Text.digitsValue?, hexFour, List.isEmpty_cons, List.foldlM_cons, List.foldlM_nil,
    Text.pushDigit?_eq (Text.digitValue?_digitChar (hmod _)) (hmod _), Option.bind_eq_bind,
    Option.bind_some]
  simp
  omega

@[simp] theorem readHexFour_hexFour {n : Nat} (h : n < 65536) (rest : List Char) :
    readHexFour (hexFour n ++ rest) = .ok (n, rest) := by
  rw [hexFour, List.cons_append, List.cons_append, List.cons_append, List.cons_append,
    List.nil_append, readHexFour, ← hexFour, digitsValue?_hexFour h]

theorem writtenCharacter_cases (c : Char) :
    (writtenCharacter c = [c] ∧ c ≠ '"' ∧ c ≠ '\\' ∧ 0x20 ≤ c.toNat) ∨
      ∃ escape, writtenCharacter c = '\\' :: escape ∧ ∀ rest,
        readEscape (escape ++ rest) = .ok (c, rest) ∧ skipEscape (escape ++ rest) = .ok rest := by
  unfold writtenCharacter
  split_ifs with hquote hbackslash hb hf hn hr ht hcontrol
  · exact Or.inr ⟨['"'], rfl, fun rest => by subst hquote; exact ⟨rfl, rfl⟩⟩
  · exact Or.inr ⟨['\\'], rfl, fun rest => by subst hbackslash; exact ⟨rfl, rfl⟩⟩
  · exact Or.inr ⟨['b'], rfl, fun rest => by subst hb; exact ⟨rfl, rfl⟩⟩
  · exact Or.inr ⟨['f'], rfl, fun rest => by subst hf; exact ⟨rfl, rfl⟩⟩
  · exact Or.inr ⟨['n'], rfl, fun rest => by subst hn; exact ⟨rfl, rfl⟩⟩
  · exact Or.inr ⟨['r'], rfl, fun rest => by subst hr; exact ⟨rfl, rfl⟩⟩
  · exact Or.inr ⟨['t'], rfl, fun rest => by subst ht; exact ⟨rfl, rfl⟩⟩
  · refine Or.inr ⟨'u' :: hexFour c.toNat, rfl, fun rest => ?_⟩
    have hcode := readHexFour_hexFour (n := c.toNat) (by omega) rest
    have htrailing : isTrailingSurrogate c.toNat = false := by
      simp only [isTrailingSurrogate, decide_eq_false_iff_not, Bool.and_eq_false_imp,
        decide_eq_true_eq]
      omega
    have hleading : isLeadingSurrogate c.toNat = false := by
      simp only [isLeadingSurrogate, decide_eq_false_iff_not, Bool.and_eq_false_imp,
        decide_eq_true_eq]
      omega
    rw [List.cons_append, readEscape, skipEscape, if_pos rfl, if_pos rfl, readCode, hcode]
    simp [bind, Except.bind, Except.map, htrailing, hleading]
  · exact Or.inl ⟨rfl, hquote, hbackslash, by omega⟩

theorem readString_escape (text : List Char) : readString ('\\' :: text) =
    readEscape text >>= fun escape =>
      (readString escape.2).map fun read => (escape.1 :: read.1, read.2) := by
  rw [readString, if_neg (by decide), if_pos rfl]
  split
  · rename_i hread
    simp only [hread, bind, Except.bind]
  · rename_i hread
    simp only [hread, bind, Except.bind]

theorem skipString_escape (text : List Char) :
    skipString ('\\' :: text) = skipEscape text >>= skipString := by
  rw [skipString, if_neg (by decide), if_pos rfl]
  split
  · rename_i hskip
    simp only [hskip, bind, Except.bind]
  · rename_i hskip
    simp only [hskip, bind, Except.bind]

@[simp] theorem readString_writtenCharacter (c : Char) (rest : List Char) :
    readString (writtenCharacter c ++ rest) =
      (readString rest).map fun read => (c :: read.1, read.2) := by
  rcases writtenCharacter_cases c with ⟨hself, hquote, hbackslash, hcontrol⟩ | ⟨escape, hescape, hread⟩
  · rw [hself, List.singleton_append, readString, if_neg hquote, if_neg hbackslash,
      if_neg (by omega)]
  · rw [hescape, List.cons_append, readString_escape, (hread rest).1]
    rfl

@[simp] theorem skipString_writtenCharacter (c : Char) (rest : List Char) :
    skipString (writtenCharacter c ++ rest) = skipString rest := by
  rcases writtenCharacter_cases c with ⟨hself, hquote, hbackslash, hcontrol⟩ | ⟨escape, hescape, hread⟩
  · rw [hself, List.singleton_append, skipString, if_neg hquote, if_neg hbackslash,
      if_neg (by omega)]
  · rw [hescape, List.cons_append, skipString_escape, (hread rest).2]
    rfl

/-- A written string is read back, given the text after its opening quote. -/
@[simp] theorem readString_flatMap (text rest : List Char) :
    readString (text.flatMap writtenCharacter ++ '"' :: rest) = .ok (text, rest) := by
  induction text with
  | nil => rw [List.flatMap_nil, List.nil_append, readString, if_pos rfl]
  | cons c text ih =>
    rw [List.flatMap_cons, List.append_assoc, readString_writtenCharacter, ih]
    rfl

@[simp] theorem skipString_flatMap (text rest : List Char) :
    skipString (text.flatMap writtenCharacter ++ '"' :: rest) = .ok rest := by
  induction text with
  | nil => rw [List.flatMap_nil, List.nil_append, skipString, if_pos rfl]
  | cons c text ih => rw [List.flatMap_cons, List.append_assoc, skipString_writtenCharacter, ih]

/-! ### Words -/

@[simp] theorem expectWord_append (word rest : List Char) :
    expectWord word (word ++ rest) = .ok rest := by
  induction word with
  | nil => rfl
  | cons c word ih =>
    rw [List.cons_append, expectWord, expect, if_pos rfl]
    exact ih

/-! ### Numbers -/

def EndsNumber (rest : List Char) : Prop :=
  Text.startsWithDigit rest = false ∧ rest.head? ≠ some '.' ∧ startsExponent rest = false

theorem takeDigits_append {digits rest : List Char} (hdigits : ∀ c ∈ digits, c.isDigit = true)
    (hrest : Text.startsWithDigit rest = false) {value : Nat}
    (hvalue : Nat.ofDigitChars 10 digits value < 2 ^ 64) :
    takeDigits value (digits ++ rest) = (Nat.ofDigitChars 10 digits value, rest) := by
  induction digits generalizing value with
  | nil =>
    cases rest with
    | nil => rfl
    | cons c rest =>
      have hc : c.isDigit = false := by simpa [Text.startsWithDigit] using hrest
      simp [takeDigits, hc]
  | cons c digits ih =>
    have hc : c.isDigit = true := hdigits c (by simp)
    rw [Nat.ofDigitChars_cons] at hvalue ⊢
    -- More digits make no number smaller, so what is read so far has 64 bits too.
    have hnext : 10 * value + (c.toNat - '0'.toNat) < 2 ^ 64 := by
      rw [Nat.ofDigitChars_eq_ofDigitChars_zero] at hvalue
      have := Nat.le_mul_of_pos_left (10 * value + (c.toNat - '0'.toNat))
        (Nat.pow_pos (n := digits.length) (show 0 < 10 by decide))
      omega
    rw [List.cons_append, takeDigits, mul_comm value 10, if_pos ⟨hc, hnext⟩]
    exact ih (fun d hd => hdigits d (by simp [hd])) hvalue

theorem dropDigits_append {digits rest : List Char} (hdigits : ∀ c ∈ digits, c.isDigit = true)
    (hrest : Text.startsWithDigit rest = false) : dropDigits (digits ++ rest) = rest := by
  rw [dropDigits, List.dropWhile_append_of_pos hdigits]
  cases rest with
  | nil => rfl
  | cons c rest =>
    have hc : c.isDigit = false := by simpa [Text.startsWithDigit] using hrest
    simp [hc]

theorem isDigit_of_mem_toDigits (n : Nat) : ∀ c ∈ Nat.toDigits 10 n, c.isDigit = true :=
  fun _ hc => Nat.isDigit_of_mem_toDigits (by decide) (by decide) hc

theorem startsWithDigit_toDigits (n : Nat) (rest : List Char) :
    Text.startsWithDigit (Nat.toDigits 10 n ++ rest) = true := by
  obtain ⟨c, digits, hdigits⟩ := List.exists_cons_of_ne_nil (Nat.toDigits_ne_nil (n := n) (b := 10))
  have hc := isDigit_of_mem_toDigits n c (by simp [hdigits])
  simpa [hdigits, Text.startsWithDigit] using hc

/-- Only zero is written with a leading zero. -/
theorem eq_zero_of_head?_toDigits {n : Nat} (h : (Nat.toDigits 10 n).head? = some '0') : n = 0 := by
  induction n using Nat.strong_induction_on with
  | _ n ih =>
    rw [Nat.toDigits_eq_if (by decide)] at h
    split_ifs at h with hsmall
    · interval_cases n <;> revert h <;> decide
    · rw [List.head?_append_of_ne_nil _ Nat.toDigits_ne_nil] at h
      have := ih (n / 10) (by omega) h
      omega

theorem leadingZero_toDigits (n : Nat) {rest : List Char}
    (hrest : Text.startsWithDigit rest = false) :
    ((Nat.toDigits 10 n ++ rest).head? = some '0' &&
      Text.startsWithDigit ((Nat.toDigits 10 n ++ rest).drop 1)) = false := by
  by_cases hzero : n = 0
  · subst hzero
    simpa using hrest
  · rw [List.head?_append_of_ne_nil _ Nat.toDigits_ne_nil,
      decide_eq_false (mt eq_zero_of_head?_toDigits hzero), Bool.false_and]

theorem readNumber_toDigits {n : Nat} (h : n < 2 ^ 64) {rest : List Char} (hrest : EndsNumber rest) :
    readNumber false (Nat.toDigits 10 n ++ rest) = .ok (.integer n, rest) := by
  obtain ⟨hdigit, hpoint, hexponent⟩ := hrest
  have htake : takeDigits 0 (Nat.toDigits 10 n ++ rest) = (n, rest) := by
    have hvalue : Nat.ofDigitChars 10 (Nat.toDigits 10 n) 0 = n := Nat.ofDigitChars_ten_toDigits
    rw [takeDigits_append (isDigit_of_mem_toDigits n) hdigit (by rwa [hvalue]), hvalue]
  have hdrop : dropDigits ([] ++ rest) = rest := dropDigits_append (by simp) hdigit
  rw [List.nil_append] at hdrop
  simp only [readNumber, htake, hdrop, startsWithDigit_toDigits, leadingZero_toDigits n hdigit,
    hexponent, if_neg hpoint, ofInteger]
  simp

theorem skipNumber_toDigits (n : Nat) {rest : List Char} (hrest : EndsNumber rest) :
    skipNumber (Nat.toDigits 10 n ++ rest) = .ok rest := by
  obtain ⟨hdigit, hpoint, hexponent⟩ := hrest
  simp only [skipNumber, startsWithDigit_toDigits, leadingZero_toDigits n hdigit,
    dropDigits_append (isDigit_of_mem_toDigits n) hdigit, if_neg hpoint, skipExponent, hexponent]
  simp

end DialogueScript.Json
