import DialogueScript.Proofs.Text.Coding
import DialogueScript.Text.Digits

/-! # Reading written digits

The digits that write a number are read as that number, and can be told from what follows them. -/
namespace DialogueScript.Text

theorem digitValue?_digitChar {n : Nat} (h : n < 16) : digitValue? (Nat.digitChar n) = some n := by
  interval_cases n <;> rfl

theorem pushDigit?_eq {base digit : Nat} {c : Char} (hc : digitValue? c = some digit)
    (h : digit < base) (value : Nat) : pushDigit? base value c = some (value * base + digit) := by
  simp [pushDigit?, hc, h]

/-- Digits may be written in another way, such as in capitals, as long as each is read alike. -/
theorem foldlM_toDigits_map (write : Char → Char) {base : Nat} (hbase : 1 < base)
    (hwrite : ∀ digit < base, digitValue? (write (Nat.digitChar digit)) = some digit) (n : Nat) :
    ((Nat.toDigits base n).map write).foldlM (pushDigit? base) 0 = some n := by
  induction n using Nat.strong_induction_on with
  | _ n ih =>
    by_cases hsmall : n < base
    · rw [Nat.toDigits_of_lt_base hsmall, List.map_singleton, List.foldlM_cons,
        pushDigit?_eq (hwrite n hsmall) hsmall, zero_mul, zero_add]
      rfl
    · have hlast : n % base < base := Nat.mod_lt n (by omega)
      have hfirst : n / base < n := Nat.div_lt_self (by omega) hbase
      rw [Nat.toDigits_of_base_le hbase (by omega), List.map_append, List.foldlM_append,
        ih (n / base) hfirst, Option.bind_eq_bind, Option.bind_some, List.map_singleton,
        List.foldlM_cons, pushDigit?_eq (hwrite _ hlast) hlast, mul_comm, Nat.div_add_mod]
      rfl

theorem exists_digitChar_of_mem_toDigits {base n : Nat} (hbase : 1 < base) {c : Char}
    (h : c ∈ Nat.toDigits base n) : ∃ digit < base, c = Nat.digitChar digit := by
  induction n using Nat.strong_induction_on with
  | _ n ih =>
    by_cases hsmall : n < base
    · rw [Nat.toDigits_of_lt_base hsmall, List.mem_singleton] at h
      exact ⟨n, hsmall, h⟩
    · rw [Nat.toDigits_of_base_le hbase (by omega), List.mem_append, List.mem_singleton] at h
      rcases h with h | h
      · exact ih (n / base) (Nat.div_lt_self (by omega) hbase) h
      · exact ⟨n % base, Nat.mod_lt n (by omega), h⟩

/-- A number is told from what follows it, if that is no digit. -/
theorem toDigits_append_inj {n m : Nat} {rest rest' : List Char}
    (hrest : startsWithDigit rest = false) (hrest' : startsWithDigit rest' = false)
    (h : Nat.toDigits 10 n ++ rest = Nat.toDigits 10 m ++ rest') : n = m ∧ rest = rest' := by
  have hdigits : ∀ n, ∀ c ∈ Nat.toDigits 10 n, c.isDigit = true := fun n _ hc =>
    Nat.isDigit_of_mem_toDigits (by decide) (by decide) hc
  obtain ⟨hnumber, hsame⟩ := append_inj_of_run (hdigits n) (hdigits m) hrest hrest' h
  have hvalue := congrArg (fun digits => Nat.ofDigitChars 10 digits 0) hnumber
  rw [Nat.ofDigitChars_ten_toDigits, Nat.ofDigitChars_ten_toDigits] at hvalue
  exact ⟨hvalue, hsame⟩

end DialogueScript.Text
