import DialogueScript.Proofs.Text.Lowercase

/-! # The case of ASCII letters

An ASCII letter is cased, is not looked through and has the same lower case, whether it is written
large or small. So writing the ASCII letters of a text small changes nothing in its lower case, not
even a sigma. -/
namespace DialogueScript.Text

def letterRanges : List CodeRange := [(0x41, 0x5a), (0x61, 0x7a)]

theorem inRanges_letterRanges {c : Char} (h : c.isAlpha = true) : inRanges letterRanges c = true := by
  rw [inRanges_iff]
  rcases isAlpha_iff.mp h with hlarge | hsmall
  · exact ⟨(0x41, 0x5a), by simp [letterRanges], hlarge⟩
  · exact ⟨(0x61, 0x7a), by simp [letterRanges], hsmall⟩

theorem letters_agree :
    isWithin (tableBits letterRanges) (tableBits casedRanges) = true ∧
      areApart (tableBits letterRanges) (tableBits caseIgnorableRanges) = true := by
  decide +kernel

theorem isCased_of_isAlpha {c : Char} (h : c.isAlpha = true) : isCased c = true :=
  inRanges_of_isWithin letters_agree.1 (inRanges_letterRanges h)

theorem isCaseIgnorable_of_isAlpha {c : Char} (h : c.isAlpha = true) :
    isCaseIgnorable c = false :=
  inRanges_eq_false_of_areApart letters_agree.2 (inRanges_letterRanges h)

theorem isBlank_of_isAlpha {c : Char} (h : c.isAlpha = true) : isBlank c = false := by
  rw [Bool.eq_false_iff]
  intro hblank
  have hword := isWordCharacter_of_isAlpha h
  rw [isWordCharacter_of_isBlank hblank] at hword
  cases hword

theorem toNat_lt_of_isAlpha {c : Char} (h : c.isAlpha = true) : c.toNat < 0x80 := by
  rw [isAlpha_iff] at h
  omega

/-- No character beyond ASCII has the lower case of a small letter, but for the Kelvin sign. -/
theorem lowercase_eq_iff {text lower : List Char}
    (h : ∀ d ∈ lower, d ≠ 'k' ∧ d.isLower = true) :
    lowercase text = lower ↔ text.map Char.toLower = lower := by
  have hlowered := lowered_lowercase text
  constructor
  · rintro rfl
    refine (hlowered.eq_map_toLower (hlowered.isAscii fun d hd => ?_)).symm
    obtain ⟨hk, hlower⟩ := h d hd
    exact ⟨hk, toNat_lt_of_isAlpha (by rw [Char.isAlpha, hlower, Bool.or_true])⟩
  · rintro rfl
    refine hlowered.eq_map_toLower fun c hc => toNat_lt_of_isAlpha ?_
    rw [← Char.isLower_toLower_eq_isAlpha]
    exact (h _ (List.mem_map_of_mem hc)).2

/-! ### Writing letters small -/

theorem toLower_of_not_isAlpha {c : Char} (h : ¬c.isAlpha = true) : c.toLower = c := by
  apply Char.toLower_eq_of_not_isUpper
  intro hupper
  apply h
  rw [Char.isAlpha, hupper, Bool.true_or]

/-- What is the same for all ASCII letters does not see their case. -/
theorem apply_toLower {α : Type} {f : Char → α} {value : α}
    (h : ∀ c, c.isAlpha = true → f c = value) (c : Char) : f c.toLower = f c := by
  by_cases hc : c.isAlpha = true
  · have hsmall : c.toLower.isAlpha = true := by rwa [Char.isAlpha_toLower_eq_isAlpha]
    rw [h c hc, h c.toLower hsmall]
  · rw [toLower_of_not_isAlpha hc]

@[simp] theorem isCased_toLower (c : Char) : isCased c.toLower = isCased c :=
  apply_toLower (fun _ => isCased_of_isAlpha) c

@[simp] theorem isCaseIgnorable_toLower (c : Char) :
    isCaseIgnorable c.toLower = isCaseIgnorable c :=
  apply_toLower (fun _ => isCaseIgnorable_of_isAlpha) c

@[simp] theorem isBlank_toLower (c : Char) : isBlank c.toLower = isBlank c :=
  apply_toLower (fun _ => isBlank_of_isAlpha) c

@[simp] theorem toLower_eq_sigma_iff (c : Char) : c.toLower = 'Σ' ↔ c = 'Σ' := by
  have hletter : ∀ c : Char, c.isAlpha = true → (c = 'Σ') = False := by
    intro c hc
    rw [eq_iff_iff, iff_false]
    rintro rfl
    exact absurd hc (by decide)
  rw [← eq_iff_iff]
  exact apply_toLower hletter c

@[simp] theorem lowerCharacter_toLower (c : Char) :
    lowerCharacter c.toLower = lowerCharacter c := by
  by_cases hc : c.isAlpha = true
  · have hsmall : c.toLower.isAlpha = true := by rwa [Char.isAlpha_toLower_eq_isAlpha]
    rw [lowerCharacter_of_ascii (toNat_lt_of_isAlpha hc),
      lowerCharacter_of_ascii (toNat_lt_of_isAlpha hsmall), Char.toLower_toLower_eq_toLower]
  · rw [toLower_of_not_isAlpha hc]

theorem hasOuterBlank_map_toLower (text : List Char) :
    hasOuterBlank (text.map Char.toLower) = hasOuterBlank text := by
  simp [hasOuterBlank, Option.any_map]

theorem meetsCased_map_toLower (text : List Char) :
    meetsCased (text.map Char.toLower) = meetsCased text := by
  simp [meetsCased, List.find?_map, Option.any_map]

theorem lowerAfter_map_toLower (afterCased : Bool) (text : List Char) :
    lowerAfter afterCased (text.map Char.toLower) = lowerAfter afterCased text := by
  induction text generalizing afterCased with
  | nil => rfl
  | cons c rest ih =>
    rw [List.map_cons, lowerAfter, lowerAfter, ih, meetsCased_map_toLower]
    simp

theorem lowercase_map_toLower (text : List Char) :
    lowercase (text.map Char.toLower) = lowercase text := lowerAfter_map_toLower false text

end DialogueScript.Text
