import DialogueScript.Proofs.Checks
import DialogueScript.Proofs.Json.Grammar
import DialogueScript.Proofs.Json.Tokens

/-! # Readers of tokens and the grammar

A reader succeeds exactly on the texts that start with what the grammar wants there, and it leaves
the rest of them. -/
namespace DialogueScript.Json

variable {text rest : List Char}

/-! ### Words -/

theorem expect_eq_ok_iff {c : Char} : expect c text = .ok rest ↔ text = c :: rest := by
  cases text with
  | nil => simp [expect]
  | cons d text =>
    rw [expect]
    split_ifs with hd
    · simp [hd]
    · simp [hd]

theorem expectWord_eq_ok_iff {word : List Char} :
    expectWord word text = .ok rest ↔ text = word ++ rest := by
  induction word generalizing text with
  | nil => simp [expectWord]
  | cons c word ih =>
    rw [expectWord, bind_eq_ok_iff]
    simp only [expect_eq_ok_iff, ih]
    constructor
    · rintro ⟨after, rfl, rfl⟩
      rfl
    · rintro rfl
      exact ⟨_, rfl, rfl⟩

/-! ### Strings -/

theorem readHexFour_eq_ok_iff {n : Nat} : readHexFour text = .ok (n, rest) ↔
    ∃ digits, IsUnit digits n ∧ text = digits ++ rest := by
  constructor
  · intro h
    unfold readHexFour at h
    split at h
    · split at h
      · rename_i value hvalue
        cases h
        exact ⟨_, ⟨rfl, hvalue⟩, rfl⟩
      · cases h
    · cases h
  · rintro ⟨digits, ⟨hlength, hvalue⟩, rfl⟩
    obtain ⟨a, b, c, d, rfl⟩ := List.length_eq_four.mp hlength
    rw [List.cons_append, List.cons_append, List.cons_append, List.cons_append, List.nil_append,
      readHexFour, hvalue]

theorem isTrailingSurrogate_iff {n : Nat} :
    isTrailingSurrogate n = true ↔ 0xdc00 ≤ n ∧ n ≤ 0xdfff := by
  rw [isTrailingSurrogate, Bool.and_eq_true, decide_eq_true_eq, decide_eq_true_eq]

theorem isLeadingSurrogate_iff {n : Nat} :
    isLeadingSurrogate n = true ↔ 0xd800 ≤ n ∧ n ≤ 0xdbff := by
  rw [isLeadingSurrogate, Bool.and_eq_true, decide_eq_true_eq, decide_eq_true_eq]

theorem ne_u_of_lookup {letter c : Char} (h : letterEscapes.lookup letter = some c) :
    letter ≠ 'u' := by
  rintro rfl
  revert h
  simp [letterEscapes, List.lookup]

theorem readTrailing_eq_ok_iff {n : Nat} {c : Char} : readTrailing n text = .ok (c, rest) ↔
    ∃ digits m, IsUnit digits m ∧ (0xdc00 ≤ m ∧ m ≤ 0xdfff) ∧
      c = Char.ofNat (0x10000 + (n - 0xd800) * 0x400 + (m - 0xdc00)) ∧
      text = '\\' :: 'u' :: (digits ++ rest) := by
  simp only [readTrailing, bind_eq_ok_iff, expect_eq_ok_iff]
  constructor
  · rintro ⟨_, rfl, _, rfl, ⟨m, after⟩, hread, h⟩
    obtain ⟨digits, hunit, rfl⟩ := readHexFour_eq_ok_iff.mp hread
    dsimp only at h
    split_ifs at h with hlow
    rw [Except.ok.injEq, Prod.mk.injEq] at h
    obtain ⟨hc, rfl⟩ := h
    exact ⟨digits, m, hunit, isTrailingSurrogate_iff.mp hlow, hc.symm, rfl⟩
  · rintro ⟨digits, m, hunit, hlow, hc, rfl⟩
    refine ⟨_, rfl, _, rfl, (m, rest), readHexFour_eq_ok_iff.mpr ⟨digits, hunit, rfl⟩, ?_⟩
    rw [if_pos (isTrailingSurrogate_iff.mpr hlow), hc]

theorem readCode_of_unit {digits : List Char} {n : Nat} (hunit : IsUnit digits n)
    (rest : List Char) : readCode (digits ++ rest) =
      if isTrailingSurrogate n then .error .malformed
      else if isLeadingSurrogate n then readTrailing n rest
      else .ok (Char.ofNat n, rest) := by
  have hread : readHexFour (digits ++ rest) = .ok (n, rest) :=
    readHexFour_eq_ok_iff.mpr ⟨digits, hunit, rfl⟩
  rw [readCode, hread]
  rfl

/-- An escape is read, after its backslash, exactly if it spells a character. -/
theorem readEscape_eq_ok_iff {c : Char} : readEscape text = .ok (c, rest) ↔
    ∃ escape, SpellsCharacter ('\\' :: escape) c ∧ text = escape ++ rest := by
  constructor
  · intro h
    cases text with
    | nil => cases h
    | cons letter text =>
      rw [readEscape] at h
      split_ifs at h with hu
      · subst hu
        obtain ⟨⟨n, after⟩, hread, -⟩ := bind_eq_ok_iff.mp h
        obtain ⟨digits, hunit, rfl⟩ := readHexFour_eq_ok_iff.mp hread
        rw [readCode_of_unit hunit] at h
        split_ifs at h with hlow hhigh
        · obtain ⟨trailing, m, htrailing, hpair, hc, rfl⟩ := readTrailing_eq_ok_iff.mp h
          rw [hc]
          refine ⟨_, .pair hunit htrailing (isLeadingSurrogate_iff.mp hhigh) hpair, ?_⟩
          simp
        · cases h
          rw [isTrailingSurrogate_iff] at hlow
          rw [isLeadingSurrogate_iff] at hhigh
          exact ⟨_, .unit hunit (by omega), rfl⟩
      · cases hlookup : letterEscapes.lookup letter with
        | none => simp [hlookup] at h
        | some meant =>
          simp only [hlookup, Except.ok.injEq, Prod.mk.injEq] at h
          obtain ⟨rfl, rfl⟩ := h
          exact ⟨_, .letter hlookup, rfl⟩
  · rintro ⟨escape, hspells, rfl⟩
    generalize hpiece : '\\' :: escape = piece at hspells
    cases hspells with
    | itself _ hbackslash _ =>
      cases hpiece
      exact absurd rfl hbackslash
    | letter hmeant =>
      cases hpiece
      rw [List.singleton_append, readEscape, if_neg (ne_u_of_lookup hmeant), hmeant]
    | unit hunit halone =>
      cases hpiece
      rw [List.cons_append, readEscape, if_pos rfl, readCode_of_unit hunit,
        if_neg (mt isTrailingSurrogate_iff.mp (by omega)),
        if_neg (mt isLeadingSurrogate_iff.mp (by omega))]
    | pair hleading htrailing hhigh hlow =>
      cases hpiece
      rw [List.cons_append, List.append_assoc, readEscape, if_pos rfl, readCode_of_unit hleading,
        if_neg (mt isTrailingSurrogate_iff.mp (by omega)),
        if_pos (isLeadingSurrogate_iff.mpr hhigh), readTrailing_eq_ok_iff]
      exact ⟨_, _, htrailing, hlow, rfl, rfl⟩

theorem readString_piece {piece : List Char} {c : Char} (h : SpellsCharacter piece c)
    (rest : List Char) :
    readString (piece ++ rest) = (readString rest).map fun read => (c :: read.1, read.2) := by
  have hescape : ∀ escape, SpellsCharacter ('\\' :: escape) c →
      readString ('\\' :: (escape ++ rest)) =
        (readString rest).map fun read => (c :: read.1, read.2) := by
    intro escape hspells
    rw [readString_escape, readEscape_eq_ok_iff.mpr ⟨escape, hspells, rfl⟩]
    rfl
  cases h with
  | itself hquote hbackslash hcontrol =>
    rw [List.singleton_append, readString, if_neg hquote, if_neg hbackslash, if_neg (by omega)]
  | letter hmeant => exact hescape _ (.letter hmeant)
  | unit hunit halone => exact hescape _ (.unit hunit halone)
  | pair hleading htrailing hhigh hlow => exact hescape _ (.pair hleading htrailing hhigh hlow)

/-- A string is read, after its opening quote, exactly if what stands there spells its characters. -/
theorem readString_eq_ok_iff {spelled : List Char} : readString text = .ok (spelled, rest) ↔
    ∃ body, Spells body spelled ∧ text = body ++ '"' :: rest := by
  constructor
  · intro h
    fun_induction readString text generalizing spelled with
    | case1 => cases h
    | case2 rest' =>
      cases h
      exact ⟨[], .nil, rfl⟩
    | case3 => cases h
    | case4 rest' meant after hread _ _ ih =>
      obtain ⟨⟨tail, left⟩, htail, htext⟩ := map_ok h
      cases htext
      obtain ⟨body, hspells, rfl⟩ := ih htail
      obtain ⟨escape, hescape, rfl⟩ := readEscape_eq_ok_iff.mp hread
      exact ⟨_, .cons hescape hspells, by simp⟩
    | case5 => cases h
    | case6 c rest' hquote hbackslash hcontrol ih =>
      obtain ⟨⟨tail, left⟩, htail, htext⟩ := map_ok h
      cases htext
      obtain ⟨body, hspells, rfl⟩ := ih htail
      exact ⟨_, .cons (.itself hquote hbackslash (by omega)) hspells, rfl⟩
  · rintro ⟨body, hspells, rfl⟩
    induction hspells with
    | nil => rw [List.nil_append, readString, if_pos rfl]
    | cons hfirst _ ih =>
      rw [List.append_assoc, readString_piece hfirst, ih]
      rfl

theorem skipEscape_eq_ok_iff : skipEscape text = .ok rest ↔
    ∃ escape, IsPiece ('\\' :: escape) ∧ text = escape ++ rest := by
  constructor
  · intro h
    cases text with
    | nil => cases h
    | cons letter text =>
      rw [skipEscape] at h
      split_ifs at h with hu hknown
      · subst hu
        obtain ⟨⟨n, after⟩, hread, rfl⟩ := map_ok h
        obtain ⟨digits, hunit, rfl⟩ := readHexFour_eq_ok_iff.mp hread
        exact ⟨_, .unit hunit, rfl⟩
      · cases h
        exact ⟨_, .letter hknown, rfl⟩
  · rintro ⟨escape, hpiece, rfl⟩
    generalize hescape : '\\' :: escape = piece at hpiece
    cases hpiece with
    | itself _ hbackslash _ =>
      cases hescape
      exact absurd rfl hbackslash
    | letter hknown =>
      cases hescape
      obtain ⟨c, hc⟩ := Option.isSome_iff_exists.mp hknown
      rw [List.singleton_append, skipEscape, if_neg (ne_u_of_lookup hc), if_pos hknown]
    | unit hunit =>
      cases hescape
      rw [List.cons_append, skipEscape, if_pos rfl, readHexFour_eq_ok_iff.mpr ⟨_, hunit, rfl⟩]
      rfl

theorem skipString_piece {piece : List Char} (h : IsPiece piece) (rest : List Char) :
    skipString (piece ++ rest) = skipString rest := by
  have hescape : ∀ escape, IsPiece ('\\' :: escape) →
      skipString ('\\' :: (escape ++ rest)) = skipString rest := by
    intro escape hpiece
    rw [skipString_escape, skipEscape_eq_ok_iff.mpr ⟨escape, hpiece, rfl⟩]
    rfl
  cases h with
  | itself hquote hbackslash hcontrol =>
    rw [List.singleton_append, skipString, if_neg hquote, if_neg hbackslash, if_neg (by omega)]
  | letter hknown => exact hescape _ (.letter hknown)
  | unit hunit => exact hescape _ (.unit hunit)

theorem skipString_eq_ok_iff : skipString text = .ok rest ↔
    ∃ body, IsBody body ∧ text = body ++ '"' :: rest := by
  constructor
  · intro h
    fun_induction skipString text with
    | case1 => cases h
    | case2 rest' =>
      cases h
      exact ⟨[], .nil, rfl⟩
    | case3 => cases h
    | case4 rest' after hskip _ _ ih =>
      obtain ⟨body, hbody, rfl⟩ := ih h
      obtain ⟨escape, hescape, rfl⟩ := skipEscape_eq_ok_iff.mp hskip
      exact ⟨_, .cons hescape hbody, by simp⟩
    | case5 => cases h
    | case6 c rest' hquote hbackslash hcontrol ih =>
      obtain ⟨body, hbody, rfl⟩ := ih h
      exact ⟨_, .cons (.itself hquote hbackslash (by omega)) hbody, rfl⟩
  · rintro ⟨body, hbody, rfl⟩
    induction hbody with
    | nil => rw [List.nil_append, skipString, if_pos rfl]
    | cons hfirst _ ih => rw [List.append_assoc, skipString_piece hfirst, ih]

/-- What spells something may be passed over. -/
theorem SpellsCharacter.isBody {piece : List Char} {c : Char} (h : SpellsCharacter piece c) :
    IsBody piece := by
  have hsingle : ∀ piece, IsPiece piece → IsBody piece := by
    intro piece hpiece
    rw [← List.append_nil piece]
    exact .cons hpiece .nil
  cases h with
  | itself hquote hbackslash hcontrol => exact hsingle _ (.itself hquote hbackslash hcontrol)
  | letter hmeant => exact hsingle _ (.letter (by rw [hmeant, Option.isSome_some]))
  | unit hunit _ => exact hsingle _ (.unit hunit)
  | pair hleading htrailing _ _ => exact .cons (.unit hleading) (hsingle _ (.unit htrailing))

theorem IsBody.append {body others : List Char} (h : IsBody body) (hothers : IsBody others) :
    IsBody (body ++ others) := by
  induction h with
  | nil => exact hothers
  | cons hfirst _ ih =>
    rw [List.append_assoc]
    exact .cons hfirst ih

theorem Spells.isBody {body spelled : List Char} (h : Spells body spelled) : IsBody body := by
  induction h with
  | nil => exact .nil
  | cons hfirst _ ih => exact hfirst.isBody.append ih

/-! ### Numbers that are passed over -/

theorem startsWithDigit_append {digits : List Char} (h : AreDigits digits) (rest : List Char) :
    Text.startsWithDigit (digits ++ rest) = true := by
  obtain ⟨c, others, rfl⟩ := List.exists_cons_of_ne_nil h.1
  simpa [Text.startsWithDigit] using h.2 c (by simp)

/-- A text starts with the digits that are dropped from it. -/
theorem exists_digits (text : List Char) : ∃ digits, text = digits ++ dropDigits text ∧
    (∀ c ∈ digits, c.isDigit = true) ∧ Text.startsWithDigit (dropDigits text) = false := by
  refine ⟨text.takeWhile Char.isDigit, ?_, ?_, ?_⟩
  · exact (List.takeWhile_append_dropWhile).symm
  · intro c hc
    exact List.mem_takeWhile_imp hc
  · have hhead := List.head?_dropWhile_not Char.isDigit text
    rw [dropDigits, Text.startsWithDigit]
    cases hdrop : (text.dropWhile Char.isDigit).head? with
    | none => rfl
    | some c => simpa [hdrop] using hhead

theorem exists_areDigits (h : Text.startsWithDigit text = true) :
    ∃ digits, AreDigits digits ∧ text = digits ++ dropDigits text ∧
      Text.startsWithDigit (dropDigits text) = false := by
  obtain ⟨digits, htext, hdigits, hrest⟩ := exists_digits text
  refine ⟨digits, ⟨?_, hdigits⟩, htext, hrest⟩
  rintro rfl
  rw [List.nil_append] at htext
  rw [← htext, h] at hrest
  cases hrest

/-- A zero before other digits is not whole. -/
theorem leadingZero_eq_false_iff {digits : List Char} (h : AreDigits digits)
    (hrest : Text.startsWithDigit rest = false) :
    ((digits ++ rest).head? = some '0' && Text.startsWithDigit ((digits ++ rest).drop 1)) = false ↔
      IsWhole digits := by
  obtain ⟨c, others, rfl⟩ := List.exists_cons_of_ne_nil h.1
  simp only [List.cons_append, List.head?_cons, List.drop_succ_cons, List.drop_zero, IsWhole, h,
    true_and, Option.some.injEq, Bool.and_eq_false_imp, decide_eq_true_eq, List.cons.injEq]
  refine imp_congr_right fun hzero => ?_
  cases others with
  | nil => simpa [hzero] using hrest
  | cons d others =>
    have hd : d.isDigit = true := h.2 d (by simp)
    simp [Text.startsWithDigit, hd]

theorem dropSign_of_isDigit {digits : List Char} (h : AreDigits digits) {sign : List Char}
    (hsign : sign ∈ [[], ['+'], ['-']]) (rest : List Char) :
    Text.dropSign (sign ++ (digits ++ rest)) = digits ++ rest := by
  obtain ⟨c, others, rfl⟩ := List.exists_cons_of_ne_nil h.1
  have hc : c.isDigit = true := h.2 c (by simp)
  simp only [List.mem_cons, List.not_mem_nil, or_false] at hsign
  rcases hsign with rfl | rfl | rfl
  · have hplus : c ≠ '+' := by rintro rfl; revert hc; decide
    have hminus : c ≠ '-' := by rintro rfl; revert hc; decide
    simp [Text.dropSign, hplus, hminus]
  · rfl
  · rfl

theorem exists_sign (text : List Char) :
    ∃ sign ∈ [[], ['+'], ['-']], text = sign ++ Text.dropSign text := by
  unfold Text.dropSign
  split_ifs with h
  · cases text with
    | nil => simp at h
    | cons c text =>
      simp only [List.head?_cons, Option.some.injEq] at h
      rcases h with rfl | rfl
      · exact ⟨['-'], by simp, rfl⟩
      · exact ⟨['+'], by simp, rfl⟩
  · exact ⟨[], by simp, rfl⟩

theorem startsExponent_cons {c : Char} :
    startsExponent (c :: rest) = true ↔ c = 'e' ∨ c = 'E' := by
  simp [startsExponent]

theorem skipExponent_power {letter : Char} (h : startsExponent (letter :: text) = true) :
    skipExponent (letter :: text) =
      if Text.startsWithDigit (Text.dropSign text) then .ok (dropDigits (Text.dropSign text))
      else .error .malformed := by
  rw [skipExponent, h]
  rfl

theorem isExponent_of_skipExponent (h : skipExponent text = .ok rest) :
    ∃ exponent, IsExponent exponent ∧ text = exponent ++ rest := by
  by_cases hstarts : startsExponent text = true
  · cases text with
    | nil => cases hstarts
    | cons letter text =>
      rw [skipExponent_power hstarts] at h
      split_ifs at h with hdigit
      cases h
      obtain ⟨sign, hsign, hshape⟩ := exists_sign text
      obtain ⟨digits, hdigits, hrow, -⟩ := exists_areDigits hdigit
      refine ⟨_, .power (startsExponent_cons.mp hstarts) hsign hdigits, ?_⟩
      rw [List.cons_append, List.append_assoc, ← hrow]
      exact congrArg (letter :: ·) hshape
  · rw [Bool.not_eq_true] at hstarts
    simp only [skipExponent, hstarts] at h
    cases h
    exact ⟨[], .nothing, rfl⟩

theorem skipExponent_append {exponent : List Char} (h : IsExponent exponent)
    (hrest : EndsNumber rest) : skipExponent (exponent ++ rest) = .ok rest := by
  cases h with
  | nothing => simp [skipExponent, hrest.2.2]
  | power hletter hsign hdigits =>
    rw [List.cons_append, List.append_assoc, skipExponent_power (startsExponent_cons.mpr hletter),
      dropSign_of_isDigit hdigits hsign, if_pos (startsWithDigit_append hdigits rest),
      dropDigits_append hdigits.2 hrest.1]

theorem startsWithDigit_exponent {exponent : List Char} (h : IsExponent exponent)
    (hrest : EndsNumber rest) : Text.startsWithDigit (exponent ++ rest) = false ∧
      (exponent ++ rest).head? ≠ some '.' := by
  cases h with
  | nothing => exact ⟨hrest.1, hrest.2.1⟩
  | power hletter hsign hdigits =>
    rcases hletter with rfl | rfl
    · exact ⟨rfl, by simp⟩
    · exact ⟨rfl, by simp⟩

def skipFraction (text : List Char) : Except DecodeError (List Char) :=
  if text.head? = some '.' then
    if Text.startsWithDigit (text.drop 1) then skipExponent (dropDigits (text.drop 1))
    else .error .malformed
  else skipExponent text

theorem skipNumber_digits {digits more : List Char} (h : AreDigits digits)
    (hmore : Text.startsWithDigit more = false) : skipNumber (digits ++ more) =
      if (digits ++ more).head? = some '0' && Text.startsWithDigit ((digits ++ more).drop 1) then
        .error .malformed
      else skipFraction more := by
  simp only [skipNumber, startsWithDigit_append h, dropDigits_append h.2 hmore]
  rfl

theorem isFraction_of_skipFraction (h : skipFraction text = .ok rest) :
    ∃ fraction exponent, IsFraction fraction ∧ IsExponent exponent ∧
      text = fraction ++ (exponent ++ rest) := by
  rw [skipFraction] at h
  split_ifs at h with hpoint hdigit
  · cases text with
    | nil => cases hpoint
    | cons c text =>
      rw [List.head?_cons, Option.some.injEq] at hpoint
      obtain ⟨digits, hdigits, htext, -⟩ := exists_areDigits hdigit
      obtain ⟨exponent, hexponent, hafter⟩ := isExponent_of_skipExponent h
      refine ⟨_, _, .point hdigits, hexponent, ?_⟩
      rw [← hafter, List.cons_append, hpoint]
      exact congrArg ('.' :: ·) htext
  · obtain ⟨exponent, hexponent, hafter⟩ := isExponent_of_skipExponent h
    exact ⟨[], _, .nothing, hexponent, hafter⟩

theorem isNumber_of_skipNumber (h : skipNumber text = .ok rest) :
    ∃ number, IsNumber number ∧ text = number ++ rest := by
  by_cases hdigit : Text.startsWithDigit text = true
  · obtain ⟨digits, hdigits, htext, hmore⟩ := exists_areDigits hdigit
    generalize dropDigits text = more at htext hmore
    subst htext
    rw [skipNumber_digits hdigits hmore] at h
    split_ifs at h with hzero
    obtain ⟨fraction, exponent, hfraction, hexponent, rfl⟩ := isFraction_of_skipFraction h
    rw [Bool.not_eq_true, leadingZero_eq_false_iff hdigits hmore] at hzero
    exact ⟨_, .parts hzero hfraction hexponent, by simp⟩
  · rw [Bool.not_eq_true] at hdigit
    simp [skipNumber, hdigit] at h

theorem skipFraction_append {fraction exponent : List Char} (hfraction : IsFraction fraction)
    (hexponent : IsExponent exponent) (hrest : EndsNumber rest) :
    skipFraction (fraction ++ (exponent ++ rest)) = .ok rest := by
  obtain ⟨hdigit, hpoint⟩ := startsWithDigit_exponent hexponent hrest
  cases hfraction with
  | nothing => rw [List.nil_append, skipFraction, if_neg hpoint, skipExponent_append hexponent hrest]
  | point hdigits =>
    rw [skipFraction, List.cons_append, if_pos List.head?_cons, List.drop_succ_cons, List.drop_zero,
      if_pos (startsWithDigit_append hdigits _), dropDigits_append hdigits.2 hdigit,
      skipExponent_append hexponent hrest]

theorem startsWithDigit_fraction {fraction exponent : List Char} (hfraction : IsFraction fraction)
    (hexponent : IsExponent exponent) (hrest : EndsNumber rest) :
    Text.startsWithDigit (fraction ++ (exponent ++ rest)) = false := by
  cases hfraction with
  | nothing => exact (startsWithDigit_exponent hexponent hrest).1
  | point hdigits => rfl

theorem skipNumber_append {number : List Char} (h : IsNumber number) (hrest : EndsNumber rest) :
    skipNumber (number ++ rest) = .ok rest := by
  cases h with
  | parts hwhole hfraction hexponent =>
    have hmore := startsWithDigit_fraction hfraction hexponent hrest
    rw [List.append_assoc, List.append_assoc, skipNumber_digits hwhole.1 hmore,
      (leadingZero_eq_false_iff hwhole.1 hmore).mpr hwhole, if_neg Bool.false_ne_true,
      skipFraction_append hfraction hexponent hrest]

/-! ### Columns -/

theorem digitChar_of_isDigit {c : Char} (hc : c.isDigit = true) :
    c.toNat - '0'.toNat < 10 ∧ Nat.digitChar (c.toNat - '0'.toNat) = c := by
  obtain ⟨hzero, hnine⟩ := Char.isDigit_iff_toNat.mp hc
  simp only [Char.reduceToNat] at hzero hnine
  have hself : Char.ofNat c.toNat = c := Char.ofNat_toNat c
  generalize c.toNat = n at *
  subst hself
  interval_cases n <;> decide

/-- A whole number is written as its value is. -/
theorem toDigits_ofDigitChars {digits : List Char} (h : IsWhole digits) :
    Nat.toDigits 10 (Nat.ofDigitChars 10 digits 0) = digits := by
  induction digits using List.reverseRecOn with
  | nil => exact absurd rfl h.1.1
  | append_singleton digits c ih =>
    obtain ⟨hsmall, hchar⟩ := digitChar_of_isDigit (h.1.2 c (by simp))
    rw [Nat.ofDigitChars_append, Nat.ofDigitChars_cons, Nat.ofDigitChars_nil]
    by_cases hnil : digits = []
    · subst hnil
      rw [Nat.ofDigitChars_nil, Nat.mul_zero, Nat.zero_add, Nat.toDigits_eq_if (by decide),
        if_pos hsmall, hchar, List.nil_append]
    · have hwhole : IsWhole digits := by
        refine ⟨⟨hnil, fun d hd => h.1.2 d (by simp [hd])⟩, fun hhead => ?_⟩
        have hall := h.2 (by rw [List.head?_append_of_ne_nil _ hnil, hhead])
        have hlength := congrArg List.length hall
        have := List.length_pos_iff.mpr hnil
        simp only [List.length_append, List.length_cons, List.length_nil] at hlength
        omega
      have hpositive : 0 < Nat.ofDigitChars 10 digits 0 := by
        refine Nat.pos_of_ne_zero fun hzero => ?_
        have hdigits := ih hwhole
        rw [hzero] at hdigits
        have hall := h.2 (by rw [List.head?_append_of_ne_nil _ hnil, ← hdigits]; rfl)
        rw [← hdigits] at hall
        simp at hall
      rw [← Nat.toDigits_append_toDigits (by decide) hpositive hsmall, ih hwhole,
        Nat.toDigits_eq_if (by decide), if_pos hsmall, hchar]

theorem isWhole_toDigits (n : Nat) : IsWhole (Nat.toDigits 10 n) := by
  refine ⟨⟨Nat.toDigits_ne_nil, isDigit_of_mem_toDigits n⟩, fun hhead => ?_⟩
  rw [eq_zero_of_head?_toDigits hhead]
  rfl

theorem exists_digits_takeDigits (value : Nat) (text : List Char) :
    ∃ digits, text = digits ++ (takeDigits value text).2 ∧ (∀ c ∈ digits, c.isDigit = true) ∧
      (takeDigits value text).1 = Nat.ofDigitChars 10 digits value ∧
      (value < 2 ^ 64 → (takeDigits value text).1 < 2 ^ 64) := by
  fun_induction takeDigits value text with
  | case1 value => exact ⟨[], rfl, by simp, rfl, id⟩
  | case2 value c rest next hnext ih =>
    obtain ⟨digits, htext, hdigits, hvalue, hbound⟩ := ih
    refine ⟨c :: digits, by rw [List.cons_append, ← htext], ?_, ?_, fun _ => hbound hnext.2⟩
    · rintro d (_ | ⟨_, hd⟩)
      · exact hnext.1
      · exact hdigits d hd
    · rw [Nat.ofDigitChars_cons, hvalue, mul_comm 10 value]
  | case3 value c rest next hnext => exact ⟨[], rfl, by simp, rfl, id⟩

theorem startsWithDigit_of_dropDigits (h : text.length - (dropDigits text).length = 0) :
    Text.startsWithDigit text = false := by
  obtain ⟨digits, htext, -, hrest⟩ := exists_digits text
  have hlength := congrArg List.length htext
  rw [List.length_append] at hlength
  have hnil : digits = [] := List.length_eq_zero_iff.mp (by omega)
  rw [hnil, List.nil_append] at htext
  rw [htext]
  exact hrest

/-- An integer is read where one is written, as far as 64 bits hold it. -/
theorem eq_toDigits_of_readNumber {value : Int}
    (h : readNumber false text = .ok (.integer value, rest)) :
    ∃ n : Nat, value = n ∧ n < 2 ^ 64 ∧ text = Nat.toDigits 10 n ++ rest := by
  obtain ⟨digits, htext, hdigits, hvalue, hbound⟩ := exists_digits_takeDigits 0 text
  unfold readNumber at h
  dsimp only at h
  split_ifs at h with hempty hdigit hzero hpoint hscale
  · obtain ⟨read, -, hread⟩ := map_ok h
    cases hread
  · obtain ⟨read, -, hread⟩ := map_ok h
    cases hread
  · simp only [Bool.or_eq_true, decide_eq_true_eq, not_or, Nat.not_lt, Nat.le_zero_eq] at hscale
    have hmore := startsWithDigit_of_dropDigits hscale.2
    have hdrop : dropDigits (takeDigits 0 text).2 = (takeDigits 0 text).2 :=
      dropDigits_append (show ∀ c ∈ [], Char.isDigit c = true by simp) hmore
    rw [hdrop, Except.ok.injEq, Prod.mk.injEq] at h
    obtain ⟨hnumber, rfl⟩ := h
    have hwhole : IsWhole digits := by
      rw [htext] at hdigit hzero
      have hne : digits ≠ [] := by
        rintro rfl
        rw [List.nil_append, hmore] at hdigit
        exact hdigit rfl
      rw [Bool.not_eq_true, leadingZero_eq_false_iff ⟨hne, hdigits⟩ hmore] at hzero
      exact hzero
    refine ⟨(takeDigits 0 text).1, ?_, hbound (by decide), ?_⟩
    · simpa [ofInteger] using hnumber.symm
    · rw [hvalue, toDigits_ofDigitChars hwhole, ← htext]

end DialogueScript.Json
