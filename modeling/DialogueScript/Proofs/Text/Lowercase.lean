import DialogueScript.Proofs.Text.Tables

/-! # Lower case, character by character and in context

The lower case of a text is a row of lower cases of its characters; only a capital sigma has two
to choose from. What surrounds a text decides no more than these sigmas, and through no more than
two bits. -/
namespace DialogueScript.Text

/-! ### The lower case of a character -/

theorem lowerCharacter_cases (c : Char) :
    (c = 'İ' ∧ lowerCharacter c = ['i', '\u0307']) ∨
      (∃ r ∈ caseRanges, r.covers c.toNat = true ∧
        lowerCharacter c = [Char.ofNat (r.image c.toNat)]) ∨
      (∀ r ∈ caseRanges, r.covers c.toNat = false) ∧ lowerCharacter c = [c] := by
  by_cases hdot : c = 'İ'
  · exact Or.inl ⟨hdot, by simp [lowerCharacter, hdot]⟩
  · right
    cases hfind : caseRanges.find? (·.covers c.toNat) with
    | none =>
      refine Or.inr ⟨fun r hr => ?_, by simp [lowerCharacter, hdot, hfind]⟩
      simpa using List.find?_eq_none.mp hfind r hr
    | some r =>
      have hcovers := List.find?_some hfind
      refine Or.inl ⟨r, List.mem_of_find?_eq_some hfind, hcovers, ?_⟩
      simp [lowerCharacter, hdot, hfind, CaseRange.image]

theorem lowerCharacter_ne_nil (c : Char) : lowerCharacter c ≠ [] := by
  rcases lowerCharacter_cases c with ⟨-, h⟩ | ⟨r, -, -, h⟩ | ⟨-, h⟩ <;> simp [h]

/-- A character is its own lower case, or it is in one set and its lower case in the other. -/
theorem mem_lowerCharacter {c d : Char} (h : d ∈ lowerCharacter c) :
    lowerCharacter c = [c] ∧ d = c ∨
      upperBits.testBit c.toNat = true ∧ lowerBits.testBit d.toNat = true := by
  rcases lowerCharacter_cases c with ⟨rfl, hlower⟩ | ⟨r, hr, hcovers, hlower⟩ | ⟨-, hlower⟩
  · right
    rw [hlower] at h
    refine ⟨testBit_upperBits_dotted, testBit_lowerBits_of_mem ?_⟩
    rcases List.mem_pair.mp h with rfl | rfl <;> simp
  · right
    rw [hlower, List.mem_singleton] at h
    obtain ⟨hcode, hbit⟩ := toNat_ofNat_image hr hcovers
    refine ⟨testBit_upperBits hr hcovers, ?_⟩
    rw [h, hcode]
    exact hbit
  · left
    rw [hlower, List.mem_singleton] at h
    exact ⟨hlower, h⟩

theorem isWordCharacter_of_mem_lowerCharacter {c d : Char} (h : d ∈ lowerCharacter c) :
    isWordCharacter d = isWordCharacter c := by
  rcases mem_lowerCharacter h with ⟨-, rfl⟩ | ⟨hupper, hlower⟩
  · rfl
  · rw [isWordCharacter_of_isCased (isCased_of_upper hupper), isWordCharacter_of_lower hlower]

theorem lowerCharacter_of_not_word {c : Char} (h : isWordCharacter c = false) :
    lowerCharacter c = [c] := by
  obtain ⟨d, hd⟩ := List.exists_mem_of_ne_nil _ (lowerCharacter_ne_nil c)
  rcases mem_lowerCharacter hd with ⟨hself, -⟩ | ⟨hupper, -⟩
  · exact hself
  · rw [isWordCharacter_of_isCased (isCased_of_upper hupper)] at h
    cases h

def IsSettled (c : Char) : Prop := lowerCharacter c = [c]

theorem sigma_properties :
    lowerCharacter 'Σ' = ['σ'] ∧ isCased 'Σ' = true ∧ isCaseIgnorable 'Σ' = false := by
  decide +kernel

theorem lowerCharacter_sigma : lowerCharacter 'Σ' = ['σ'] := sigma_properties.1

theorem isCased_sigma : isCased 'Σ' = true := sigma_properties.2.1

theorem isCaseIgnorable_sigma : isCaseIgnorable 'Σ' = false := sigma_properties.2.2

theorem IsSettled.ne_sigma {c : Char} (h : IsSettled c) : c ≠ 'Σ' := by
  rintro rfl
  rw [IsSettled, lowerCharacter_sigma] at h
  simp at h

theorem isSettled_of_mem_lowerCharacter {c d : Char} (h : d ∈ lowerCharacter c) : IsSettled d := by
  rcases mem_lowerCharacter h with ⟨hself, rfl⟩ | ⟨-, hlower⟩
  · exact hself
  · exact lowerCharacter_of_lower hlower

/-- A run that reaches into ASCII is that of the letters `A` to `Z`. -/
theorem eq_asciiRun {r : CaseRange} (hr : r ∈ caseRanges) {n : Nat} (hn : r.covers n = true)
    (hascii : n < 0x80) : r = asciiRun := by
  rw [CaseRange.covers_iff] at hn
  rcases eq_or_beyondAscii_of_mem hr with hsame | rfl | hforeign
  · exact hsame
  · simp only [kelvinRun] at hn
    omega
  · omega

theorem lowerCharacter_of_ascii {c : Char} (h : c.toNat < 0x80) :
    lowerCharacter c = [c.toLower] := by
  have hupper : asciiRun.covers c.toNat = true ↔ c.isUpper = true := by
    simp only [CaseRange.covers_iff, Char.isUpper, decide_eq_true_eq, ge_iff_le,
      UInt32.le_iff_toNat_le]
    exact ⟨fun h => ⟨h.1, h.2.1⟩, fun h => ⟨h.1, h.2, Nat.mod_one _⟩⟩
  rcases lowerCharacter_cases c with ⟨rfl, -⟩ | ⟨r, hr, hcovers, hlower⟩ | ⟨hnone, hlower⟩
  · revert h
    decide
  · obtain rfl := eq_asciiRun hr hcovers h
    rw [hlower, Char.toLower_eq_of_isUpper (hupper.mp hcovers)]
    rfl
  · rw [hlower, Char.toLower_eq_of_not_isUpper]
    intro hc
    rw [hnone asciiRun asciiRun_mem] at hupper
    exact absurd (hupper.mpr hc) (by decide)

/-- Beyond ASCII, a lower case has a character beyond ASCII too, or is a `k`. -/
theorem lowerCharacter_beyondAscii {c : Char} (h : 0x80 ≤ c.toNat) :
    ∃ d ∈ lowerCharacter c, d = 'k' ∨ 0x80 ≤ d.toNat := by
  rcases lowerCharacter_cases c with ⟨-, hlower⟩ | ⟨r, hr, hcovers, hlower⟩ | ⟨-, hlower⟩
  · exact ⟨'\u0307', by simp [hlower], Or.inr (by decide)⟩
  · refine ⟨Char.ofNat (r.image c.toNat), by simp [hlower], ?_⟩
    have hbounds := CaseRange.covers_iff.mp hcovers
    rcases eq_or_beyondAscii_of_mem hr with rfl | rfl | hforeign
    · simp only [asciiRun] at hbounds
      omega
    · left
      simp only [kelvinRun] at hbounds
      rw [show c.toNat = 0x212a by omega]
      decide
    · right
      rw [(toNat_ofNat_image hr hcovers).1, CaseRange.image_eq (isRegular_of_mem hr) hcovers]
      exact hforeign.2.trans (Nat.le_add_right _ _)
  · exact ⟨c, by simp [hlower], Or.inr h⟩

/-! ### The lower case of a text -/

def IsLowering (c : Char) (lower : List Char) : Prop :=
  lower = lowerCharacter c ∨ c = 'Σ' ∧ lower = ['ς']

theorem isLowering_choice (c : Char) (preceded followed : Bool) :
    IsLowering c (if c = 'Σ' && preceded && !followed then ['ς'] else lowerCharacter c) := by
  split_ifs with hsigma
  · simp only [Bool.and_eq_true, decide_eq_true_eq] at hsigma
    exact Or.inr ⟨hsigma.1.1, rfl⟩
  · exact Or.inl rfl

namespace IsLowering

variable {c d : Char} {lower : List Char}

theorem ne_nil (h : IsLowering c lower) : lower ≠ [] := by
  rcases h with rfl | ⟨-, rfl⟩
  · exact lowerCharacter_ne_nil c
  · simp

theorem isWordCharacter (h : IsLowering c lower) (hd : d ∈ lower) :
    isWordCharacter d = isWordCharacter c := by
  rcases h with rfl | ⟨rfl, rfl⟩
  · exact isWordCharacter_of_mem_lowerCharacter hd
  · rw [List.mem_singleton.mp hd, isWordCharacter_of_isCased isCased_sigma]
    exact isWordCharacter_of_lower (testBit_lowerBits_of_mem (by simp))

theorem isSettled (h : IsLowering c lower) (hd : d ∈ lower) : IsSettled d := by
  rcases h with rfl | ⟨rfl, rfl⟩
  · exact isSettled_of_mem_lowerCharacter hd
  · rw [List.mem_singleton.mp hd]
    exact lowerCharacter_of_lower (testBit_lowerBits_of_mem (by simp))

theorem eq_of_not_word (h : IsLowering c lower) (hc : Text.isWordCharacter c = false) :
    lower = [c] := by
  rcases h with rfl | ⟨rfl, rfl⟩
  · exact lowerCharacter_of_not_word hc
  · rw [isWordCharacter_of_isCased isCased_sigma] at hc
    cases hc

theorem eq_of_ascii (h : IsLowering c lower) (hc : c.toNat < 0x80) : lower = [c.toLower] := by
  rcases h with rfl | ⟨rfl, rfl⟩
  · exact lowerCharacter_of_ascii hc
  · revert hc
    decide

theorem exists_beyondAscii (h : IsLowering c lower) (hc : 0x80 ≤ c.toNat) :
    ∃ d ∈ lower, d = 'k' ∨ 0x80 ≤ d.toNat := by
  rcases h with rfl | ⟨rfl, rfl⟩
  · exact lowerCharacter_beyondAscii hc
  · exact ⟨'ς', by simp, Or.inr (by decide)⟩

end IsLowering

/-- The second text puts a lower case in place of each character of the first. -/
inductive Lowered : List Char → List Char → Prop
  | nil : Lowered [] []
  | cons {c : Char} {lower rest lowerRest : List Char} (first : IsLowering c lower)
      (others : Lowered rest lowerRest) : Lowered (c :: rest) (lower ++ lowerRest)

theorem lowered_lowerAfter (afterCased : Bool) (text : List Char) :
    Lowered text (lowerAfter afterCased text) := by
  induction text generalizing afterCased with
  | nil => exact Lowered.nil
  | cons c rest ih => exact Lowered.cons (isLowering_choice c _ _) (ih _)

theorem lowered_lowercase (text : List Char) : Lowered text (lowercase text) :=
  lowered_lowerAfter false text

theorem Lowered.exists_mem {text lower : List Char} (h : Lowered text lower) {d : Char}
    (hd : d ∈ lower) : ∃ c ∈ text, ∃ cs, IsLowering c cs ∧ d ∈ cs := by
  induction h with
  | nil => simp at hd
  | @cons c cs rest lowerRest first others ih =>
    rcases List.mem_append.mp hd with hd | hd
    · exact ⟨c, by simp, cs, first, hd⟩
    · obtain ⟨c', hc', cs', hcs', hd'⟩ := ih hd
      exact ⟨c', by simp [hc'], cs', hcs', hd'⟩

theorem Lowered.ne_nil {text lower : List Char} (h : Lowered text lower) (hne : text ≠ []) :
    lower ≠ [] := by
  cases h with
  | nil => exact absurd rfl hne
  | cons first others => simp [first.ne_nil]

theorem Lowered.exists_append {before after lower : List Char} (h : Lowered (before ++ after) lower) :
    ∃ lowerBefore lowerAfter, lower = lowerBefore ++ lowerAfter ∧ Lowered before lowerBefore ∧
      Lowered after lowerAfter := by
  induction before generalizing lower with
  | nil => exact ⟨[], lower, rfl, Lowered.nil, h⟩
  | cons c before ih =>
    cases h with
    | @cons _ cs _ rest first others =>
      obtain ⟨lowerBefore, lowerAfter, rfl, hbefore, hafter⟩ := ih others
      exact ⟨cs ++ lowerBefore, lowerAfter, by simp, Lowered.cons first hbefore, hafter⟩

theorem Lowered.isWordCharacter {text lower : List Char} (h : Lowered text lower) {isWord : Bool}
    (htext : ∀ c ∈ text, Text.isWordCharacter c = isWord) {d : Char} (hd : d ∈ lower) :
    Text.isWordCharacter d = isWord := by
  obtain ⟨c, hc, cs, hcs, hd⟩ := h.exists_mem hd
  rw [hcs.isWordCharacter hd, htext c hc]

theorem Lowered.eq_map_toLower {text lower : List Char} (h : Lowered text lower)
    (hascii : ∀ c ∈ text, c.toNat < 0x80) : lower = text.map Char.toLower := by
  induction h with
  | nil => rfl
  | @cons c cs rest lowerRest first others ih =>
    rw [first.eq_of_ascii (hascii c (by simp)), ih fun d hd => hascii d (by simp [hd])]
    rfl

/-- A lower case that is ASCII and has no `k` is that of an ASCII text. -/
theorem Lowered.isAscii {text lower : List Char} (h : Lowered text lower)
    (hascii : ∀ d ∈ lower, d ≠ 'k' ∧ d.toNat < 0x80) : ∀ c ∈ text, c.toNat < 0x80 := by
  induction h with
  | nil => simp
  | @cons c cs rest lowerRest first others ih =>
    intro c' hc'
    rcases List.mem_cons.mp hc' with rfl | hc'
    · by_contra hbeyond
      obtain ⟨d, hd, hforeign⟩ := first.exists_beyondAscii (not_lt.mp hbeyond)
      obtain ⟨hk, hlt⟩ := hascii d (by simp [hd])
      rcases hforeign with rfl | hge
      · exact hk rfl
      · omega
    · exact ih (fun d hd => hascii d (by simp [hd])) c' hc'

theorem Lowered.isSettled {text lower : List Char} (h : Lowered text lower) {d : Char}
    (hd : d ∈ lower) : IsSettled d := by
  obtain ⟨c, -, cs, hcs, hd⟩ := h.exists_mem hd
  exact hcs.isSettled hd

theorem lowerAfter_of_isSettled (afterCased : Bool) {text : List Char}
    (h : ∀ c ∈ text, IsSettled c) : lowerAfter afterCased text = text := by
  induction text generalizing afterCased with
  | nil => rfl
  | cons c rest ih =>
    have hc : lowerCharacter c = [c] := h c (by simp)
    have hsigma : c ≠ 'Σ' := IsSettled.ne_sigma hc
    simp [lowerAfter, hsigma, hc, ih _ fun d hd => h d (by simp [hd])]

/-- A text is its own lower case exactly if each of its characters is, whatever surrounds it. -/
theorem lowercase_eq_self_iff {text : List Char} :
    lowercase text = text ↔ ∀ c ∈ text, IsSettled c := by
  constructor
  · intro h c hc
    have hlower : c ∈ lowercase text := by rwa [h]
    exact (lowered_lowercase text).isSettled hlower
  · exact lowerAfter_of_isSettled false

end DialogueScript.Text
