import Mathlib

/-! # Texts that can be taken apart again

A code writes values as pieces of text. Where no piece begins another, a row of pieces is the text
of one row of values only. So it is too where the way a character is written depends on the
character before it, as long as what ends the row cannot be taken for one piece more. -/
namespace DialogueScript.Text

/-- What the code writes for a value is told from all that may follow it. -/
def IsPrefixFree {α : Type} (code : α → List Char) : Prop :=
  ∀ {value other rest rest'}, code value ++ rest = code other ++ rest' →
    value = other ∧ rest = rest'

theorem isPrefixFree_of_read {α : Type} {code : α → List Char}
    (read : List Char → Option (α × List Char))
    (h : ∀ value rest, read (code value ++ rest) = some (value, rest)) : IsPrefixFree code := by
  intro value other rest rest' hsame
  have hread := congrArg read hsame
  rw [h, h, Option.some.injEq, Prod.mk.injEq] at hread
  exact hread

/-! ### Runs of characters of one kind -/

section

variable {isInside : Char → Bool} {run other rest rest' : List Char}

theorem takeWhile_run (hrun : ∀ c ∈ run, isInside c = true)
    (hrest : rest.head?.any isInside = false) : (run ++ rest).takeWhile isInside = run := by
  rw [List.takeWhile_append_of_pos hrun]
  cases rest with
  | nil => simp
  | cons c rest =>
    have hc : isInside c = false := hrest
    simp [hc]

theorem dropWhile_run (hrun : ∀ c ∈ run, isInside c = true)
    (hrest : rest.head?.any isInside = false) : (run ++ rest).dropWhile isInside = rest := by
  rw [List.dropWhile_append_of_pos hrun]
  cases rest with
  | nil => simp
  | cons c rest =>
    have hc : isInside c = false := hrest
    simp [hc]

/-- A run is told from what follows it. -/
theorem append_inj_of_run (hrun : ∀ c ∈ run, isInside c = true)
    (hother : ∀ c ∈ other, isInside c = true) (hrest : rest.head?.any isInside = false)
    (hrest' : rest'.head?.any isInside = false) (h : run ++ rest = other ++ rest') :
    run = other ∧ rest = rest' := by
  have hsame : run = other := by
    rw [← takeWhile_run hrun hrest, h, takeWhile_run hother hrest']
  subst hsame
  exact ⟨rfl, List.append_cancel_left h⟩

end

/-! ### Codes with a state -/

variable {State : Type} {code : State → Char → List Char} {next : Char → State}

/-- A text, character by character. How a character is written depends on the state that the one
before it left. -/
def codedFrom (code : State → Char → List Char) (next : Char → State) (state : State) :
    List Char → List Char
  | [] => []
  | c :: rest => code state c ++ codedFrom code next (next c) rest

def stateAfter (next : Char → State) (state : State) : List Char → State
  | [] => state
  | c :: rest => stateAfter next (next c) rest

/-- A coded text and what ends it are told from each other if no piece can begin an end. -/
theorem codedFrom_append_inj (ends : State → List Char → Prop)
    (hcode : ∀ state, IsPrefixFree (code state))
    (hends : ∀ state c tail, ¬ends state (code state c ++ tail))
    {text other rest rest' : List Char} {state : State}
    (hrest : ends (stateAfter next state text) rest)
    (hrest' : ends (stateAfter next state other) rest')
    (h : codedFrom code next state text ++ rest = codedFrom code next state other ++ rest') :
    text = other ∧ rest = rest' := by
  induction text generalizing other state with
  | nil =>
    cases other with
    | nil => exact ⟨rfl, h⟩
    | cons d other =>
      simp only [codedFrom, List.nil_append, List.append_assoc] at h
      rw [stateAfter, h] at hrest
      exact absurd hrest (hends state d _)
  | cons c text ih =>
    cases other with
    | nil =>
      simp only [codedFrom, List.nil_append, List.append_assoc] at h
      rw [stateAfter, ← h] at hrest'
      exact absurd hrest' (hends state c _)
    | cons d other =>
      simp only [codedFrom, List.append_assoc] at h
      obtain ⟨rfl, htail⟩ := hcode state h
      obtain ⟨rfl, hsame⟩ := ih hrest hrest' htail
      exact ⟨rfl, hsame⟩

theorem codedFrom_append_singleton (state : State) (text : List Char) (c : Char) :
    codedFrom code next state (text ++ [c]) =
      codedFrom code next state text ++ code (stateAfter next state text) c := by
  induction text generalizing state with
  | nil => simp [codedFrom, stateAfter]
  | cons d text ih => rw [List.cons_append, codedFrom, ih, codedFrom, stateAfter, List.append_assoc]

theorem stateAfter_append_singleton (state : State) (text : List Char) (c : Char) :
    stateAfter next state (text ++ [c]) = next c := by
  induction text generalizing state with
  | nil => rfl
  | cons d text ih => rw [List.cons_append, stateAfter, ih]

/-- Without a state, all that ends a row of pieces is its delimiter. -/
theorem flatMap_append_inj {code : Char → List Char} {stop : Char} (hcode : IsPrefixFree code)
    (hstop : ∀ c tail, (code c ++ tail).head? ≠ some stop) {text other rest rest' : List Char}
    (h : text.flatMap code ++ stop :: rest = other.flatMap code ++ stop :: rest') :
    text = other ∧ rest = rest' := by
  have hflat : ∀ text : List Char,
      text.flatMap code = codedFrom (fun _ : Unit => code) (fun _ => ()) () text := by
    intro text
    induction text with
    | nil => rfl
    | cons c text ih => rw [List.flatMap_cons, ih, codedFrom]
  rw [hflat, hflat] at h
  obtain ⟨hsame, hrest⟩ := codedFrom_append_inj (fun _ rest => rest.head? = some stop)
    (fun _ => hcode) (fun _ => hstop) rfl rfl h
  exact ⟨hsame, List.tail_eq_of_cons_eq hrest⟩

end DialogueScript.Text
