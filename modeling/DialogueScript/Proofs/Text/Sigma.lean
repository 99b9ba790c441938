import DialogueScript.Proofs.Text.Lowercase

/-! # What decides between the two small sigmas

The lower case of a text depends on what surrounds it through two bits: whether a letter comes
before it and whether one comes behind it, marks aside. Each bit decides about no more than one
capital sigma. -/
namespace DialogueScript.Text

/-- Whether the first character that is not case-ignorable is cased, in a text and what follows
it; `followed` says so of what follows. -/
def reachesCased (followed : Bool) : List Char → Bool
  | [] => followed
  | c :: rest => if isCaseIgnorable c then reachesCased followed rest else isCased c

/-- The lower case of a part of a text: `preceded` and `followed` say whether a letter comes before
the part and behind it. -/
def lowerBetween (preceded followed : Bool) : List Char → List Char
  | [] => []
  | c :: rest =>
    (if c = 'Σ' && preceded && !reachesCased followed rest then ['ς'] else lowerCharacter c) ++
      lowerBetween (reachesCased preceded [c]) followed rest

theorem reachesCased_false (text : List Char) : reachesCased false text = meetsCased text := by
  induction text with
  | nil => rfl
  | cons c rest ih =>
    rw [reachesCased, meetsCased, List.find?_cons]
    cases hc : isCaseIgnorable c with
    | true => simpa [meetsCased] using ih
    | false => simp

theorem reachesCased_append (followed : Bool) (text rest : List Char) :
    reachesCased followed (text ++ rest) = reachesCased (reachesCased followed rest) text := by
  induction text with
  | nil => rfl
  | cons c text ih => simp only [List.cons_append, reachesCased, ih]

theorem reachesCased_reverse_cons (preceded : Bool) (c : Char) (text : List Char) :
    reachesCased preceded (c :: text).reverse =
      reachesCased (reachesCased preceded [c]) text.reverse := by
  rw [List.reverse_cons, reachesCased_append]

theorem lowerBetween_false (preceded : Bool) (text : List Char) :
    lowerBetween preceded false text = lowerAfter preceded text := by
  induction text generalizing preceded with
  | nil => rfl
  | cons c rest ih =>
    rw [lowerBetween, lowerAfter, ih, reachesCased_false]
    rfl

theorem lowerBetween_append (preceded followed : Bool) (text rest : List Char) :
    lowerBetween preceded followed (text ++ rest) =
      lowerBetween preceded (reachesCased followed rest) text ++
        lowerBetween (reachesCased preceded text.reverse) followed rest := by
  induction text generalizing preceded with
  | nil => rfl
  | cons c text ih =>
    rw [List.cons_append, lowerBetween, lowerBetween, ih, reachesCased_append,
      reachesCased_reverse_cons, List.append_assoc]

theorem lowered_lowerBetween (preceded followed : Bool) (text : List Char) :
    Lowered text (lowerBetween preceded followed text) := by
  induction text generalizing preceded with
  | nil => exact Lowered.nil
  | cons c rest ih => exact Lowered.cons (isLowering_choice c _ _) (ih _)

/-! ### The sigma at either end -/

/-- Only marks separate what follows from a capital sigma that a letter precedes. -/
def EndsInSigma (preceded : Bool) (text : List Char) : Prop :=
  ∃ word marks, text = word ++ 'Σ' :: marks ∧ (∀ c ∈ marks, isCaseIgnorable c = true) ∧
    reachesCased preceded word.reverse = true

/-- Only marks separate what precedes from a capital sigma that no letter follows. -/
def BeginsInSigma (followed : Bool) (text : List Char) : Prop :=
  ∃ marks rest, text = marks ++ 'Σ' :: rest ∧ (∀ c ∈ marks, isCaseIgnorable c = true) ∧
    reachesCased followed rest = false

theorem reachesCased_of_ignorable {marks : List Char}
    (h : ∀ c ∈ marks, isCaseIgnorable c = true) (followed : Bool) :
    reachesCased followed marks = followed := by
  induction marks with
  | nil => rfl
  | cons c marks ih =>
    rw [reachesCased, if_pos (h c (by simp))]
    exact ih fun d hd => h d (by simp [hd])

/-- What follows matters to a text of marks only. -/
theorem reachesCased_true_eq_iff (text : List Char) :
    reachesCased true text = reachesCased false text ↔
      ¬∀ c ∈ text, isCaseIgnorable c = true := by
  induction text with
  | nil => simp [reachesCased]
  | cons c rest ih =>
    rw [reachesCased, reachesCased]
    cases hc : isCaseIgnorable c with
    | true => simpa [hc] using ih
    | false => simp [hc]

theorem endsInSigma_cons (preceded : Bool) (c : Char) (rest : List Char) :
    EndsInSigma preceded (c :: rest) ↔
      (c = 'Σ' ∧ preceded = true ∧ ∀ d ∈ rest, isCaseIgnorable d = true) ∨
        EndsInSigma (reachesCased preceded [c]) rest := by
  constructor
  · rintro ⟨word, marks, htext, hmarks, hword⟩
    cases word with
    | nil =>
      obtain ⟨rfl, rfl⟩ := List.cons.inj htext
      exact Or.inl ⟨rfl, hword, hmarks⟩
    | cons d word =>
      obtain ⟨rfl, rfl⟩ := List.cons.inj htext
      rw [reachesCased_reverse_cons] at hword
      exact Or.inr ⟨word, marks, rfl, hmarks, hword⟩
  · rintro (⟨rfl, hpreceded, hmarks⟩ | ⟨word, marks, rfl, hmarks, hword⟩)
    · exact ⟨[], rest, rfl, hmarks, hpreceded⟩
    · refine ⟨c :: word, marks, rfl, hmarks, ?_⟩
      rwa [reachesCased_reverse_cons]

theorem beginsInSigma_cons (followed : Bool) (c : Char) (rest : List Char) :
    BeginsInSigma followed (c :: rest) ↔
      (c = 'Σ' ∧ reachesCased followed rest = false) ∨
        isCaseIgnorable c = true ∧ BeginsInSigma followed rest := by
  constructor
  · rintro ⟨marks, rest', htext, hmarks, hrest⟩
    cases marks with
    | nil =>
      obtain ⟨rfl, rfl⟩ := List.cons.inj htext
      exact Or.inl ⟨rfl, hrest⟩
    | cons d marks =>
      obtain ⟨rfl, rfl⟩ := List.cons.inj htext
      exact Or.inr ⟨hmarks c (by simp), marks, rest', rfl,
        fun d hd => hmarks d (by simp [hd]), hrest⟩
  · rintro (⟨rfl, hrest⟩ | ⟨hc, marks, rest', rfl, hmarks, hrest⟩)
    · exact ⟨[], rest, rfl, by simp, hrest⟩
    · refine ⟨c :: marks, rest', rfl, ?_, hrest⟩
      intro d hd
      rcases List.mem_cons.mp hd with rfl | hd
      · exact hc
      · exact hmarks d hd

/-- What follows a text decides about the sigma that ends it, and about nothing else. -/
theorem lowerBetween_followed_eq_iff (preceded : Bool) (text : List Char) :
    lowerBetween preceded true text = lowerBetween preceded false text ↔
      ¬EndsInSigma preceded text := by
  induction text generalizing preceded with
  | nil => simp [lowerBetween, EndsInSigma]
  | cons c rest ih =>
    -- What follows reaches a sigma here only through marks, and then nothing else behind it changes.
    rw [endsInSigma_cons, not_or, ← ih, lowerBetween, lowerBetween]
    by_cases hc : c = 'Σ'
    · subst hc
      by_cases hmarks : ∀ d ∈ rest, isCaseIgnorable d = true
      · rw [reachesCased_of_ignorable hmarks, reachesCased_of_ignorable hmarks]
        cases preceded <;> simp [lowerCharacter_sigma, eq_true hmarks]
      · rw [(reachesCased_true_eq_iff rest).mpr hmarks]
        simp [eq_false hmarks]
    · simp [hc]

/-- What precedes a text decides about the sigma that begins it, and about nothing else. -/
theorem lowerBetween_preceded_eq_iff (followed : Bool) (text : List Char) :
    lowerBetween true followed text = lowerBetween false followed text ↔
      ¬BeginsInSigma followed text := by
  induction text with
  | nil => simp [lowerBetween, BeginsInSigma]
  | cons c rest ih =>
    rw [beginsInSigma_cons, not_or, lowerBetween, lowerBetween]
    cases hc : isCaseIgnorable c with
    | true =>
      have hsigma : c ≠ 'Σ' := by
        rintro rfl
        rw [isCaseIgnorable_sigma] at hc
        cases hc
      simpa [reachesCased, hc, hsigma] using ih
    | false =>
      by_cases hsigma : c = 'Σ'
      · subst hsigma
        cases hrest : reachesCased followed rest <;>
          simp [reachesCased, hc, lowerCharacter_sigma]
      · simp [reachesCased, hc, hsigma]

end DialogueScript.Text
