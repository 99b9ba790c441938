import DialogueScript.Text.Blank
import DialogueScript.Text.Lowercase
import DialogueScript.Text.WordCharacter
import Mathlib

/-! # What the character tables say of one another

The lower case of a cased character is made of word characters, all other characters are their own
lower case, and a lower case has no other lower case. A table is a set of code points and such a set
is a number, with a bit for each of its members, so that tables are compared by a few operations on
numbers. -/
namespace DialogueScript.Text

theorem inRanges_iff {ranges : List CodeRange} {c : Char} :
    inRanges ranges c = true ↔ ∃ r ∈ ranges, r.1 ≤ c.toNat ∧ c.toNat ≤ r.2 := by
  simp [inRanges, List.any_eq_true]

/-! ### Sets of code points as numbers -/

def firstBits (n : Nat) : Nat := 1 <<< n - 1

def evenBits (n : Nat) : Nat := (1 <<< (2 * n) - 1) / 3

theorem testBit_firstBits (n i : Nat) : (firstBits n).testBit i = decide (i < n) := by
  rw [firstBits, Nat.one_shiftLeft, Nat.testBit_two_pow_sub_one]

theorem evenBits_succ (n : Nat) : evenBits (n + 1) = 4 * evenBits n + 1 := by
  -- The division by three is exact: a power of four is one more than a multiple of three.
  have hthirds : ∃ q, 4 ^ n = 3 * q + 1 := by
    induction n with
    | zero => exact ⟨0, rfl⟩
    | succ n ih =>
      obtain ⟨q, hq⟩ := ih
      exact ⟨4 * q + 1, by omega⟩
  obtain ⟨q, hq⟩ := hthirds
  have hpow : ∀ m, 1 <<< (2 * m) = 4 ^ m := fun m => by rw [Nat.one_shiftLeft, Nat.pow_mul]
  rw [evenBits, evenBits, hpow, hpow, Nat.pow_succ, hq]
  omega

theorem testBit_evenBits {n i : Nat} (h : i < n) : (evenBits n).testBit (2 * i) = true := by
  induction n generalizing i with
  | zero => omega
  | succ n ih =>
    rw [evenBits_succ]
    cases i with
    | zero =>
      rw [Nat.mul_zero, Nat.testBit_zero, decide_eq_true_eq]
      omega
    | succ i =>
      have hhalf : (4 * evenBits n + 1) / 2 / 2 = evenBits n := by omega
      rw [Nat.mul_succ, Nat.testBit_succ, Nat.testBit_succ, hhalf]
      exact ih (by omega)

def tableBits (ranges : List CodeRange) : Nat :=
  ranges.foldl (fun bits r => bits ||| firstBits (r.2 + 1 - r.1) <<< r.1) 0

theorem testBit_tableBits (ranges : List CodeRange) (n : Nat) :
    (tableBits ranges).testBit n = ranges.any fun r => r.1 ≤ n && n ≤ r.2 := by
  have hrange : ∀ r : CodeRange, (firstBits (r.2 + 1 - r.1) <<< r.1).testBit n =
      (decide (r.1 ≤ n) && decide (n ≤ r.2)) := by
    intro r
    rw [Nat.testBit_shiftLeft, testBit_firstBits, Bool.eq_iff_iff]
    simp only [Bool.and_eq_true, decide_eq_true_eq]
    omega
  have hfold : ∀ bits : Nat,
      (ranges.foldl (fun bits r => bits ||| firstBits (r.2 + 1 - r.1) <<< r.1) bits).testBit n =
        (bits.testBit n || ranges.any fun r => r.1 ≤ n && n ≤ r.2) := by
    induction ranges with
    | nil => simp
    | cons r ranges ih =>
      intro bits
      rw [List.foldl_cons, ih, Nat.testBit_or, hrange, Bool.or_assoc, List.any_cons]
  rw [tableBits, hfold, Nat.zero_testBit, Bool.false_or]

theorem inRanges_eq_testBit (ranges : List CodeRange) (c : Char) :
    inRanges ranges c = (tableBits ranges).testBit c.toNat := (testBit_tableBits ranges c.toNat).symm

def isWithin (bits others : Nat) : Bool := bits &&& others == bits

def areApart (bits others : Nat) : Bool := bits &&& others == 0

theorem testBit_of_isWithin {bits others : Nat} (h : isWithin bits others = true) {n : Nat}
    (hn : bits.testBit n = true) : others.testBit n = true := by
  rw [isWithin, beq_iff_eq] at h
  rw [← h, Nat.testBit_and, Bool.and_eq_true] at hn
  exact hn.2

theorem testBit_eq_false_of_areApart {bits others : Nat} (h : areApart bits others = true) {n : Nat}
    (hn : bits.testBit n = true) : others.testBit n = false := by
  rw [areApart, beq_iff_eq] at h
  have hboth := Nat.testBit_and bits others n
  rw [h, Nat.zero_testBit, hn, Bool.true_and] at hboth
  exact hboth.symm

theorem inRanges_of_isWithin {ranges others : List CodeRange}
    (h : isWithin (tableBits ranges) (tableBits others) = true) {c : Char}
    (hc : inRanges ranges c = true) : inRanges others c = true := by
  rw [inRanges_eq_testBit] at hc ⊢
  exact testBit_of_isWithin h hc

theorem inRanges_eq_false_of_areApart {ranges others : List CodeRange}
    (h : areApart (tableBits ranges) (tableBits others) = true) {c : Char}
    (hc : inRanges ranges c = true) : inRanges others c = false := by
  rw [inRanges_eq_testBit] at hc ⊢
  exact testBit_eq_false_of_areApart h hc

def pointRanges (text : List Char) : List CodeRange := text.map fun c => (c.toNat, c.toNat)

theorem inRanges_pointRanges {text : List Char} {c : Char} (h : c ∈ text) :
    inRanges (pointRanges text) c = true :=
  inRanges_iff.mpr ⟨(c.toNat, c.toNat), List.mem_map_of_mem h, le_rfl, le_rfl⟩

/-! ### Runs of upper-case letters -/

namespace CaseRange

def image (r : CaseRange) (n : Nat) : Nat := (n + r.shift).toNat

def offsets (r : CaseRange) : Nat :=
  if r.step = 1 then firstBits (r.last - r.first + 1) else evenBits ((r.last - r.first) / 2 + 1)

/-- Whether the run has all letters from the first to the last, or every other one. -/
def isRegular (r : CaseRange) : Bool :=
  (r.step == 1 || r.step == 2) && Nat.blt 0 (r.image r.first)

theorem covers_iff {r : CaseRange} {n : Nat} :
    r.covers n = true ↔ r.first ≤ n ∧ n ≤ r.last ∧ (n - r.first) % r.step = 0 := by
  simp only [covers, Bool.and_eq_true, decide_eq_true_eq, beq_iff_eq, and_assoc]

theorem testBit_offsets {r : CaseRange} (hr : r.isRegular = true) {n : Nat}
    (h : r.covers n = true) : r.offsets.testBit (n - r.first) = true := by
  obtain ⟨hfirst, hlast, hstep⟩ := covers_iff.mp h
  simp only [isRegular, Bool.and_eq_true, Bool.or_eq_true, beq_iff_eq] at hr
  rw [offsets]
  split_ifs with hone
  · rw [testBit_firstBits, decide_eq_true_eq]
    omega
  · have htwo : r.step = 2 := hr.1.resolve_left hone
    rw [htwo] at hstep
    have hhalf : 2 * ((n - r.first) / 2) = n - r.first := by omega
    rw [← hhalf]
    exact testBit_evenBits (by omega)

theorem image_eq {r : CaseRange} (hr : r.isRegular = true) {n : Nat} (h : r.covers n = true) :
    r.image n = r.image r.first + (n - r.first) := by
  obtain ⟨hfirst, -, -⟩ := covers_iff.mp h
  simp only [isRegular, Bool.and_eq_true, Nat.blt_eq] at hr
  have hpos := hr.2
  simp only [image] at *
  omega

end CaseRange

/-- The characters that have another lower case. `İ` is in no run. -/
def upperBits : Nat :=
  caseRanges.foldl (fun bits r => bits ||| r.offsets <<< r.first) (tableBits (pointRanges ['İ']))

/-- The lower cases: those of the runs, those of `İ`, and the sigma that ends a word. -/
def lowerBits : Nat :=
  caseRanges.foldl (fun bits r => bits ||| r.offsets <<< r.image r.first)
    (tableBits (pointRanges ['i', '\u0307', 'ς']))

theorem testBit_foldl_or {runs : List CaseRange} {f : CaseRange → Nat} {bits n : Nat}
    (h : bits.testBit n = true ∨ ∃ r ∈ runs, (f r).testBit n = true) :
    (runs.foldl (fun bits r => bits ||| f r) bits).testBit n = true := by
  induction runs generalizing bits with
  | nil => simpa using h
  | cons r runs ih =>
    rw [List.foldl_cons]
    apply ih
    rw [Nat.testBit_or, Bool.or_eq_true]
    rcases h with h | ⟨s, hs, h⟩
    · exact Or.inl (Or.inl h)
    · rcases List.mem_cons.mp hs with rfl | hs
      · exact Or.inl (Or.inr h)
      · exact Or.inr ⟨s, hs, h⟩

/-! ### The checks -/

def asciiRun : CaseRange := ⟨0x41, 0x5a, 1, 32⟩

/-- The run of the Kelvin sign, whose lower case is a `k`. -/
def kelvinRun : CaseRange := ⟨0x212a, 0x212a, 1, -8383⟩

/-- Whether a run and its lower case lie beyond ASCII, if it is not one of those two. -/
def CaseRange.isForeign (r : CaseRange) : Bool :=
  r == asciiRun || r == kelvinRun || Nat.ble 0x80 r.first && Nat.ble 0x80 (r.image r.first)

def validTable : List CodeRange := [(0, 0xd7ff), (0xe000, 0x10ffff)]

theorem tables_agree :
    isWithin (tableBits casedRanges) (tableBits wordRanges) = true ∧
      isWithin upperBits (tableBits casedRanges) = true ∧
      isWithin lowerBits (tableBits wordRanges) = true ∧
      isWithin lowerBits (tableBits validTable) = true ∧
      areApart lowerBits upperBits = true ∧
      areApart (tableBits blankRanges) (tableBits wordRanges) = true ∧
      areApart (tableBits blankRanges) (tableBits caseIgnorableRanges) = true := by
  decide +kernel

theorem runs_agree :
    caseRanges.all CaseRange.isRegular = true ∧ caseRanges.all CaseRange.isForeign = true := by
  decide +kernel

/-! ### What the checks say of characters -/

variable {c : Char} {r : CaseRange}

theorem isRegular_of_mem (hr : r ∈ caseRanges) : r.isRegular = true :=
  List.all_eq_true.mp runs_agree.1 r hr

theorem eq_or_beyondAscii_of_mem (hr : r ∈ caseRanges) :
    r = asciiRun ∨ r = kelvinRun ∨ 0x80 ≤ r.first ∧ 0x80 ≤ r.image r.first := by
  have h := List.all_eq_true.mp runs_agree.2 r hr
  simpa only [CaseRange.isForeign, Bool.or_eq_true, Bool.and_eq_true, beq_iff_eq, Nat.ble_eq,
    or_assoc] using h

theorem isWordCharacter_of_isCased (h : isCased c = true) : isWordCharacter c = true :=
  inRanges_of_isWithin tables_agree.1 h

theorem isWordCharacter_of_isBlank (h : isBlank c = true) : isWordCharacter c = false := by
  obtain ⟨-, -, -, -, -, hblank, -⟩ := tables_agree
  exact inRanges_eq_false_of_areApart hblank h

theorem isCaseIgnorable_of_isBlank (h : isBlank c = true) : isCaseIgnorable c = false := by
  obtain ⟨-, -, -, -, -, -, hblank⟩ := tables_agree
  exact inRanges_eq_false_of_areApart hblank h

theorem isCased_of_upper (h : upperBits.testBit c.toNat = true) : isCased c = true := by
  obtain ⟨-, hupper, -⟩ := tables_agree
  rw [isCased, inRanges_eq_testBit]
  exact testBit_of_isWithin hupper h

theorem isWordCharacter_of_lower (h : lowerBits.testBit c.toNat = true) :
    isWordCharacter c = true := by
  obtain ⟨-, -, hlower, -⟩ := tables_agree
  rw [isWordCharacter, inRanges_eq_testBit]
  exact testBit_of_isWithin hlower h

theorem testBit_upperBits_dotted : upperBits.testBit 'İ'.toNat = true :=
  testBit_foldl_or (Or.inl (by decide))

theorem testBit_upperBits (hr : r ∈ caseRanges) {n : Nat} (h : r.covers n = true) :
    upperBits.testBit n = true := by
  refine testBit_foldl_or (Or.inr ⟨r, hr, ?_⟩)
  rw [Nat.testBit_shiftLeft, CaseRange.testBit_offsets (isRegular_of_mem hr) h, Bool.and_true,
    decide_eq_true_eq]
  exact (CaseRange.covers_iff.mp h).1

theorem testBit_lowerBits_of_mem (h : c ∈ ['i', '\u0307', 'ς']) :
    lowerBits.testBit c.toNat = true := by
  refine testBit_foldl_or (Or.inl ?_)
  rw [← inRanges_eq_testBit]
  exact inRanges_pointRanges h

/-- The lower case of a letter is a character, and one of the set. -/
theorem toNat_ofNat_image (hr : r ∈ caseRanges) {n : Nat} (h : r.covers n = true) :
    (Char.ofNat (r.image n)).toNat = r.image n ∧ lowerBits.testBit (r.image n) = true := by
  have hregular := isRegular_of_mem hr
  have hlower : lowerBits.testBit (r.image n) = true := by
    refine testBit_foldl_or (Or.inr ⟨r, hr, ?_⟩)
    rw [CaseRange.image_eq hregular h, Nat.testBit_shiftLeft, Nat.add_sub_cancel_left,
      CaseRange.testBit_offsets hregular h, Bool.and_true, decide_eq_true_eq]
    exact Nat.le_add_right _ _
  obtain ⟨-, -, -, hvalid, -⟩ := tables_agree
  have hcode := testBit_of_isWithin hvalid hlower
  simp only [testBit_tableBits, validTable, List.any_cons, List.any_nil, Bool.or_false,
    Bool.or_eq_true, Bool.and_eq_true, decide_eq_true_eq] at hcode
  refine ⟨?_, hlower⟩
  rw [Char.toNat_ofNat, if_pos]
  simp only [Nat.isValidChar]
  omega

theorem asciiRun_mem : asciiRun ∈ caseRanges := List.mem_cons_self

theorem isAlpha_iff : c.isAlpha = true ↔
    (0x41 ≤ c.toNat ∧ c.toNat ≤ 0x5a) ∨ 0x61 ≤ c.toNat ∧ c.toNat ≤ 0x7a := by
  simp only [Char.isAlpha, Char.isUpper, Char.isLower, Bool.or_eq_true, Bool.and_eq_true,
    decide_eq_true_eq, ge_iff_le, UInt32.le_iff_toNat_le]
  rfl

theorem isWordCharacter_of_isAlpha (h : c.isAlpha = true) : isWordCharacter c = true := by
  rcases isAlpha_iff.mp h with ⟨hfirst, hlast⟩ | ⟨hfirst, hlast⟩
  · have hcovers : asciiRun.covers c.toNat = true :=
      CaseRange.covers_iff.mpr ⟨hfirst, hlast, Nat.mod_one _⟩
    exact isWordCharacter_of_isCased (isCased_of_upper (testBit_upperBits asciiRun_mem hcovers))
  · have hcovers : asciiRun.covers (c.toNat - 32) = true := by
      refine CaseRange.covers_iff.mpr ⟨?_, ?_, Nat.mod_one _⟩ <;> simp only [asciiRun] <;> omega
    have himage : asciiRun.image (c.toNat - 32) = c.toNat := by
      simp only [CaseRange.image, asciiRun]
      omega
    refine isWordCharacter_of_lower ?_
    rw [← himage]
    exact (toNat_ofNat_image asciiRun_mem hcovers).2

theorem lowerCharacter_of_lower (h : lowerBits.testBit c.toNat = true) : lowerCharacter c = [c] := by
  obtain ⟨-, -, -, -, hapart, -⟩ := tables_agree
  have hupper := testBit_eq_false_of_areApart hapart h
  have hdot : c ≠ 'İ' := by
    rintro rfl
    rw [testBit_upperBits_dotted] at hupper
    cases hupper
  have hnone : caseRanges.find? (·.covers c.toNat) = none := by
    rw [List.find?_eq_none]
    intro r hr hc
    rw [testBit_upperBits hr hc] at hupper
    cases hupper
  simp [lowerCharacter, hdot, hnone]

end DialogueScript.Text
