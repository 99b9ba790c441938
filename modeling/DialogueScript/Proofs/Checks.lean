import DialogueScript.Columns
import Mathlib

/-! # Checks that several values share

A chain of checks succeeds exactly if each of them does. A nonempty text has columns exactly if it
starts in a column and ends in one. -/
namespace DialogueScript

theorem ok_bind {ε α β : Type} (value : α) (next : α → Except ε β) :
    (Except.ok value >>= next) = next value := rfl

theorem bind_eq_ok_iff {ε α β : Type} {check : Except ε α} {next : α → Except ε β} {result : β} :
    (check >>= next) = .ok result ↔ ∃ value, check = .ok value ∧ next value = .ok result := by
  cases check with
  | error e => simp [bind, Except.bind]
  | ok value => simp [bind, Except.bind]

theorem bind_eq_error_iff {ε α β : Type} {check : Except ε α} {next : α → Except ε β} {cause : ε} :
    (check >>= next) = .error cause ↔
      check = .error cause ∨ ∃ value, check = .ok value ∧ next value = .error cause := by
  cases check with
  | error e => simp [bind, Except.bind]
  | ok value => simp [bind, Except.bind]

theorem map_eq_ok_iff {ε α β : Type} {check : Except ε α} {f : α → β} {result : β} :
    check.map f = .ok result ↔ ∃ value, check = .ok value ∧ f value = result := by
  cases check <;> simp [Except.map]

theorem map_eq_error_iff {ε α β : Type} {check : Except ε α} {f : α → β} {cause : ε} :
    check.map f = .error cause ↔ check = .error cause := by
  cases check <;> simp [Except.map]

theorem mapError_eq_ok_iff {ε ε' α : Type} {check : Except ε α} {f : ε → ε'} {value : α} :
    check.mapError f = .ok value ↔ check = .ok value := by
  cases check <;> simp [Except.mapError]

theorem mapError_eq_error_iff {ε ε' α : Type} {check : Except ε α} {f : ε → ε'} {cause : ε'} :
    check.mapError f = .error cause ↔ ∃ reason, check = .error reason ∧ f reason = cause := by
  cases check <;> simp [Except.mapError]

def verdict {ε α : Type} (check : Except ε α) : Except ε Unit := check.map fun _ => ()

theorem verdict_bind_congr {ε α β : Type} {check other : Except ε α} {next next' : α → Except ε β}
    (h : verdict check = verdict other)
    (hnext : ∀ value value', verdict (next value) = verdict (next' value')) :
    verdict (check >>= next) = verdict (other >>= next') := by
  cases check with
  | error cause =>
    cases other with
    | error cause' =>
      cases h
      rfl
    | ok value' => cases h
  | ok value =>
    cases other with
    | error cause' => cases h
    | ok value' => exact hnext value value'

namespace Columns

/-- The columns that a nonempty text has, or why it has none. -/
theorem require_spec (first : Nat) {text : String} (hne : text.toList ≠ []) :
    first < 1 ∧ require first text = .error (.invalid .fromColumn .columnBelowOne) ∨
      1 ≤ first ∧ (lastColumn < first + text.length - 1 ∧
          require first text = .error (.invalid .fromColumn .columnOutOfRange) ∨
        first + text.length - 1 ≤ lastColumn ∧
          require first text = .ok ⟨first, first + text.length - 1⟩) := by
  have hlength : 0 < text.length := List.length_pos_iff.mpr hne
  have hlast : first + (text.length - 1) = first + text.length - 1 := by omega
  rw [require, covering?, hlast]
  by_cases hbelow : first < 1
  · exact Or.inl ⟨hbelow, if_pos hbelow⟩
  rw [if_neg hbelow]
  refine Or.inr ⟨not_lt.mp hbelow, ?_⟩
  by_cases hroom : first + text.length - 1 ≤ lastColumn
  · rw [if_pos hroom]
    exact Or.inr ⟨hroom, rfl⟩
  · rw [if_neg hroom]
    exact Or.inl ⟨not_le.mp hroom, rfl⟩

theorem require_eq_ok_iff {first : Nat} {text : String} (hne : text.toList ≠ [])
    {columns : Columns} : require first text = .ok columns ↔
      1 ≤ first ∧ first + text.length - 1 ≤ lastColumn ∧
        columns = ⟨first, first + text.length - 1⟩ := by
  rcases require_spec first hne with ⟨hbelow, h⟩ | ⟨hone, ⟨hbeyond, h⟩ | ⟨hroom, h⟩⟩
  · rw [h]
    exact ⟨fun hok => (by cases hok), fun hok => absurd hbelow (not_lt.mpr hok.1)⟩
  · rw [h]
    exact ⟨fun hok => (by cases hok), fun hok => absurd hbeyond (not_lt.mpr hok.2.1)⟩
  · rw [h, Except.ok.injEq, eq_comm]
    exact ⟨fun hcolumns => ⟨hone, hroom, hcolumns⟩, fun hok => hok.2.2⟩

theorem require_eq_error_iff {first : Nat} {text : String} (hne : text.toList ≠ [])
    {rejection : Rejection} : require first text = .error rejection ↔
      first < 1 ∧ rejection = .invalid .fromColumn .columnBelowOne ∨
        1 ≤ first ∧ lastColumn < first + text.length - 1 ∧
          rejection = .invalid .fromColumn .columnOutOfRange := by
  rcases require_spec first hne with ⟨hbelow, h⟩ | ⟨hone, ⟨hbeyond, h⟩ | ⟨hroom, h⟩⟩
  · simp [h, hbelow, eq_comm]
  · simp [h, hone, hbeyond, not_lt.mpr hone, eq_comm]
  · simp [h, not_lt.mpr hone, not_lt.mpr hroom]

end Columns

end DialogueScript
