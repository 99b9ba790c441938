import DialogueScript.Identifier
import DialogueScript.Proofs.Checks
import DialogueScript.Proofs.Name.Words

/-! # The rules of identifiers

Six rules, one after the other, say what an identifier is. A text and a column that keep all of
them make one; otherwise the first rule that is broken is the one that is reported. -/
namespace DialogueScript.Identifier

def HasOuterBlank (text : List Char) : Prop :=
  ∃ c rest, Text.isBlank c = true ∧ (text = c :: rest ∨ text = rest ++ [c])

structure KeepsRules (text : List Char) (column : Nat) : Prop where
  noOuterBlank : ¬HasOuterBlank text
  noReservedWord : ¬Name.HoldsReserved text
  noDisallowed : ∀ c ∈ text, c ∉ [',', '(', ')']
  significant : ∃ c ∈ text, Name.isExcluded c = false
  fromOne : 1 ≤ column
  room : column + text.length - 1 ≤ lastColumn

/-- The rules in the order of their checks, each with the rejection that tells of breaking it. -/
inductive Breaks (text : List Char) (column : Nat) : Nat → Rejection → Prop
  | outerBlank (blank : HasOuterBlank text) :
      Breaks text column 1 (.invalid .verbatim .surroundingBlank)
  | reservedWord {before word after : List Char} (place : text = before ++ word ++ after)
      (stands : Name.StandsAsWord before word after)
      (reserved : ∃ reserved ∈ Name.reservedWords, Name.SameLetters word reserved.toList)
      (leftmost : ¬Name.HoldsReserved before) :
      Breaks text column 2 (.invalid .verbatim (.reservedWord (String.ofList word)))
  | disallowed {before after : List Char} {c : Char} (place : text = before ++ c :: after)
      (disallowed : c ∈ [',', '(', ')']) (leftmost : ∀ d ∈ before, d ∉ [',', '(', ')']) :
      Breaks text column 3 (.invalid .verbatim (.disallowedCharacter c))
  | nothingSignificant (excluded : ∀ c ∈ text, Name.isExcluded c = true) :
      Breaks text column 4 (.invalid .verbatim .nothingSignificant)
  | columnBelowOne (below : column < 1) :
      Breaks text column 5 (.invalid .fromColumn .columnBelowOne)
  | columnOutOfRange (beyond : lastColumn < column + text.length - 1) :
      Breaks text column 6 (.invalid .fromColumn .columnOutOfRange)

def KeptBefore (text : List Char) (column rule : Nat) : Prop :=
  ∀ earlier < rule, ∀ rejection, ¬Breaks text column earlier rejection

def BreaksFirst (text : List Char) (column : Nat) (rejection : Rejection) : Prop :=
  ∃ rule, Breaks text column rule rejection ∧ KeptBefore text column rule

/-! ### The rules and their checks -/

variable {text : List Char} {column : Nat}

theorem hasOuterBlank_iff : Text.hasOuterBlank text = true ↔ HasOuterBlank text := by
  simp only [Text.hasOuterBlank, Bool.or_eq_true, Option.any_eq_true, HasOuterBlank]
  constructor
  · rintro (⟨c, hhead, hblank⟩ | ⟨c, hlast, hblank⟩)
    · obtain ⟨rest, rfl⟩ := List.head?_eq_some_iff.mp hhead
      exact ⟨c, rest, hblank, Or.inl rfl⟩
    · obtain ⟨rest, rfl⟩ := List.getLast?_eq_some_iff.mp hlast
      exact ⟨c, rest, hblank, Or.inr rfl⟩
  · rintro ⟨c, rest, hblank, rfl | rfl⟩
    · exact Or.inl ⟨c, rfl, hblank⟩
    · exact Or.inr ⟨c, by simp, hblank⟩

theorem hasSignificant_iff :
    Name.hasSignificant text = true ↔ ∃ c ∈ text, Name.isExcluded c = false := by
  simp [Name.hasSignificant, List.any_eq_true]

theorem isDisallowed_iff {c : Char} : Name.isDisallowed c = true ↔ c ∈ [',', '(', ')'] :=
  List.contains_iff_mem

theorem disallowedIn?_eq_none_iff :
    Name.disallowedIn? text = none ↔ ∀ c ∈ text, c ∉ [',', '(', ')'] := by
  simp only [Name.disallowedIn?, List.find?_eq_none, isDisallowed_iff]

theorem disallowedIn?_eq_some_iff {c : Char} :
    Name.disallowedIn? text = some c ↔ ∃ before after, text = before ++ c :: after ∧
      c ∈ [',', '(', ')'] ∧ ∀ d ∈ before, d ∉ [',', '(', ')'] := by
  rw [Name.disallowedIn?, List.find?_eq_some_iff_append, isDisallowed_iff]
  constructor
  · rintro ⟨hc, before, after, htext, hbefore⟩
    exact ⟨before, after, htext, hc, fun d hd hmem => by
      simpa [isDisallowed_iff.mpr hmem] using hbefore d hd⟩
  · rintro ⟨before, after, htext, hc, hbefore⟩
    refine ⟨hc, before, after, htext, fun d hd => ?_⟩
    rw [Bool.not_eq_true', Bool.eq_false_iff]
    exact fun hdisallowed => hbefore d hd (isDisallowed_iff.mp hdisallowed)

theorem breaks_outerBlank_iff {rejection : Rejection} : Breaks text column 1 rejection ↔
    Text.hasOuterBlank text = true ∧ rejection = .invalid .verbatim .surroundingBlank := by
  rw [hasOuterBlank_iff]
  constructor
  · rintro ⟨⟩
    exact ⟨‹_›, rfl⟩
  · rintro ⟨hblank, rfl⟩
    exact Breaks.outerBlank hblank

theorem breaks_reservedWord_iff {rejection : Rejection} : Breaks text column 2 rejection ↔
    ∃ word, Name.reservedIn? text = some word ∧
      rejection = .invalid .verbatim (.reservedWord (String.ofList word)) := by
  simp only [Name.reservedIn?_eq_some_iff]
  constructor
  · intro h
    cases h with
    | reservedWord place stands reserved leftmost =>
      exact ⟨_, ⟨_, _, place, stands, reserved, leftmost⟩, rfl⟩
  · rintro ⟨word, ⟨before, after, hplace, hstands, hreserved, hleftmost⟩, rfl⟩
    exact Breaks.reservedWord hplace hstands hreserved hleftmost

theorem breaks_disallowed_iff {rejection : Rejection} : Breaks text column 3 rejection ↔
    ∃ c, Name.disallowedIn? text = some c ∧
      rejection = .invalid .verbatim (.disallowedCharacter c) := by
  simp only [disallowedIn?_eq_some_iff]
  constructor
  · intro h
    cases h with
    | disallowed place disallowed leftmost => exact ⟨_, ⟨_, _, place, disallowed, leftmost⟩, rfl⟩
  · rintro ⟨c, ⟨before, after, hplace, hdisallowed, hleftmost⟩, rfl⟩
    exact Breaks.disallowed hplace hdisallowed hleftmost

theorem breaks_nothingSignificant_iff {rejection : Rejection} : Breaks text column 4 rejection ↔
    Name.hasSignificant text = false ∧ rejection = .invalid .verbatim .nothingSignificant := by
  have hexcluded : Name.hasSignificant text = false ↔ ∀ c ∈ text, Name.isExcluded c = true := by
    simp [Name.hasSignificant]
  rw [hexcluded]
  constructor
  · rintro ⟨⟩
    exact ⟨‹_›, rfl⟩
  · rintro ⟨hexcluded, rfl⟩
    exact Breaks.nothingSignificant hexcluded

theorem breaks_columnBelowOne_iff {rejection : Rejection} : Breaks text column 5 rejection ↔
    column < 1 ∧ rejection = .invalid .fromColumn .columnBelowOne := by
  constructor
  · rintro ⟨⟩
    exact ⟨‹_›, rfl⟩
  · rintro ⟨hbelow, rfl⟩
    exact Breaks.columnBelowOne hbelow

theorem breaks_columnOutOfRange_iff {rejection : Rejection} : Breaks text column 6 rejection ↔
    lastColumn < column + text.length - 1 ∧
      rejection = .invalid .fromColumn .columnOutOfRange := by
  constructor
  · rintro ⟨⟩
    exact ⟨‹_›, rfl⟩
  · rintro ⟨hbeyond, rfl⟩
    exact Breaks.columnOutOfRange hbeyond

theorem Breaks.eq {rule : Nat} {rejection other : Rejection} (h : Breaks text column rule rejection)
    (hother : Breaks text column rule other) : rejection = other := by
  have hbreaks := h
  cases h with
  | outerBlank blank => exact (breaks_outerBlank_iff.mp hother).2.symm
  | reservedWord place stands reserved leftmost =>
    obtain ⟨word, hword, hsame⟩ := breaks_reservedWord_iff.mp hbreaks
    obtain ⟨word', hword', rfl⟩ := breaks_reservedWord_iff.mp hother
    rw [hsame, Option.some.inj (hword.symm.trans hword')]
  | disallowed place disallowed leftmost =>
    obtain ⟨c, hc, hsame⟩ := breaks_disallowed_iff.mp hbreaks
    obtain ⟨c', hc', rfl⟩ := breaks_disallowed_iff.mp hother
    rw [hsame, Option.some.inj (hc.symm.trans hc')]
  | nothingSignificant excluded => exact (breaks_nothingSignificant_iff.mp hother).2.symm
  | columnBelowOne below => exact (breaks_columnBelowOne_iff.mp hother).2.symm
  | columnOutOfRange beyond => exact (breaks_columnOutOfRange_iff.mp hother).2.symm

theorem BreaksFirst.eq {rejection other : Rejection} (h : BreaksFirst text column rejection)
    (hother : BreaksFirst text column other) : rejection = other := by
  obtain ⟨rule, hbreaks, hearlier⟩ := h
  obtain ⟨rule', hbreaks', hearlier'⟩ := hother
  rcases lt_trichotomy rule rule' with hlt | rfl | hgt
  · exact absurd hbreaks (hearlier' rule hlt rejection)
  · exact hbreaks.eq hbreaks'
  · exact absurd hbreaks' (hearlier rule' hgt other)

theorem keptBefore_one : KeptBefore text column 1 := by
  intro rule hrule rejection h
  cases h <;> omega

theorem KeptBefore.succ {rule : Nat} (h : KeptBefore text column rule)
    (hrule : ∀ rejection, ¬Breaks text column rule rejection) :
    KeptBefore text column (rule + 1) := by
  intro earlier hearlier
  rcases Nat.lt_succ_iff_lt_or_eq.mp hearlier with hlt | rfl
  · exact h earlier hlt
  · exact hrule

theorem keptBefore_seven_iff : KeptBefore text column 7 ↔ KeepsRules text column := by
  constructor
  · intro h
    refine ⟨fun hblank => h 1 (by decide) _ (Breaks.outerBlank hblank), ?_, ?_, ?_, ?_, ?_⟩
    · rw [← Name.reservedIn?_eq_none_iff, Option.eq_none_iff_forall_ne_some]
      exact fun word hword => h 2 (by decide) _ (breaks_reservedWord_iff.mpr ⟨word, hword, rfl⟩)
    · rw [← disallowedIn?_eq_none_iff, Option.eq_none_iff_forall_ne_some]
      exact fun c hc => h 3 (by decide) _ (breaks_disallowed_iff.mpr ⟨c, hc, rfl⟩)
    · rw [← hasSignificant_iff, ← Bool.not_eq_false]
      exact fun hnone =>
        h 4 (by decide) _ (breaks_nothingSignificant_iff.mpr ⟨hnone, rfl⟩)
    · exact not_lt.mp fun hbelow => h 5 (by decide) _ (Breaks.columnBelowOne hbelow)
    · exact not_lt.mp fun hbeyond => h 6 (by decide) _ (Breaks.columnOutOfRange hbeyond)
  · intro h rule _ rejection hbreaks
    cases hbreaks with
    | outerBlank blank => exact h.noOuterBlank blank
    | reservedWord place stands reserved leftmost =>
      exact h.noReservedWord ⟨_, _, _, place, stands, reserved⟩
    | disallowed place disallowed leftmost =>
      exact h.noDisallowed _ (by simp [place]) disallowed
    | nothingSignificant excluded =>
      obtain ⟨c, hc, hsignificant⟩ := h.significant
      rw [excluded c hc] at hsignificant
      cases hsignificant
    | columnBelowOne below => exact absurd h.fromOne (not_le.mpr below)
    | columnOutOfRange beyond => exact absurd h.room (not_le.mpr beyond)

theorem BreaksFirst.not_keepsRules {rejection : Rejection} (h : BreaksFirst text column rejection) :
    ¬KeepsRules text column := by
  obtain ⟨rule, hbreaks, -⟩ := h
  intro hkeeps
  have hrule : rule < 7 := by cases hbreaks <;> decide
  exact keptBefore_seven_iff.mpr hkeeps rule hrule rejection hbreaks

/-! ### Building an identifier -/

/-- The checks of a name report the first of the four rules on texts that is broken. -/
theorem checkName_spec (text : List Char) (column : Nat) :
    (∃ fault, checkName text = .error fault ∧ BreaksFirst text column (.invalid .verbatim fault)) ∨
      checkName text = .ok () ∧ KeptBefore text column 5 := by
  unfold checkName
  by_cases hblank : Text.hasOuterBlank text = true
  · rw [if_pos hblank]
    exact Or.inl ⟨_, rfl, 1, breaks_outerBlank_iff.mpr ⟨hblank, rfl⟩, keptBefore_one⟩
  rw [if_neg hblank]
  have htwo : KeptBefore text column 2 :=
    keptBefore_one.succ fun _ h => hblank (breaks_outerBlank_iff.mp h).1
  cases hreserved : Name.reservedIn? text with
  | some word =>
    exact Or.inl ⟨_, rfl, 2, breaks_reservedWord_iff.mpr ⟨word, hreserved, rfl⟩, htwo⟩
  | none =>
    have hthree : KeptBefore text column 3 := by
      refine htwo.succ fun _ h => ?_
      obtain ⟨word, hword, -⟩ := breaks_reservedWord_iff.mp h
      rw [hreserved] at hword
      cases hword
    cases hdisallowed : Name.disallowedIn? text with
    | some c => exact Or.inl ⟨_, rfl, 3, breaks_disallowed_iff.mpr ⟨c, hdisallowed, rfl⟩, hthree⟩
    | none =>
      have hfour : KeptBefore text column 4 := by
        refine hthree.succ fun _ h => ?_
        obtain ⟨c, hc, -⟩ := breaks_disallowed_iff.mp h
        rw [hdisallowed] at hc
        cases hc
      cases hsignificant : Name.hasSignificant text with
      | false =>
        exact Or.inl
          ⟨_, rfl, 4, breaks_nothingSignificant_iff.mpr ⟨hsignificant, rfl⟩, hfour⟩
      | true =>
        refine Or.inr ⟨rfl, hfour.succ fun _ h => ?_⟩
        rw [(breaks_nothingSignificant_iff.mp h).1] at hsignificant
        cases hsignificant

def written (verbatim : String) (column : Nat) : Identifier :=
  ⟨verbatim, String.ofList (Name.key verbatim.toList), ⟨column, column + verbatim.length - 1⟩⟩

theorem ofText_spec (verbatim : String) (column : Nat) :
    (∃ rejection, ofText verbatim column = .error rejection ∧
        BreaksFirst verbatim.toList column rejection) ∨
      ofText verbatim column = .ok (written verbatim column) ∧
        KeepsRules verbatim.toList column := by
  rcases checkName_spec verbatim.toList column with ⟨fault, hfault, hfirst⟩ | ⟨hok, hfive⟩
  · exact Or.inl ⟨_, by rw [ofText, hfault]; rfl, hfirst⟩
  -- The fourth rule excludes the empty text, which would have no last column.
  have hne : verbatim.toList ≠ [] := by
    intro hnil
    refine hfive 4 (by decide) _ (Breaks.nothingSignificant ?_)
    simp [hnil]
  have hname : ofText verbatim column = (Columns.require column verbatim).map fun columns =>
      ⟨verbatim, String.ofList (Name.key verbatim.toList), columns⟩ := by
    rw [ofText, hok]
    cases Columns.require column verbatim <;> rfl
  rw [hname]
  rcases Columns.require_spec column hne with ⟨hbelow, h⟩ | ⟨hone, hcolumns⟩
  · rw [h]
    exact Or.inl ⟨_, rfl, 5, Breaks.columnBelowOne hbelow, hfive⟩
  have hsix : KeptBefore verbatim.toList column 6 :=
    hfive.succ fun _ h => absurd hone (not_le.mpr (breaks_columnBelowOne_iff.mp h).1)
  rcases hcolumns with ⟨hbeyond, h⟩ | ⟨hroom, h⟩
  · rw [h]
    exact Or.inl ⟨_, rfl, 6, Breaks.columnOutOfRange hbeyond, hsix⟩
  · rw [h]
    refine Or.inr ⟨rfl, keptBefore_seven_iff.mp (hsix.succ fun _ h => ?_)⟩
    exact absurd hroom (not_le.mpr (breaks_columnOutOfRange_iff.mp h).1)

variable {verbatim : String} {identifier : Identifier}

theorem ofText_eq_ok_iff : ofText verbatim column = .ok identifier ↔
    KeepsRules verbatim.toList column ∧ identifier = written verbatim column := by
  rcases ofText_spec verbatim column with ⟨found, herror, hfirst⟩ | ⟨hok, hkeeps⟩
  · rw [herror]
    exact ⟨fun h => (by cases h), fun h => absurd h.1 hfirst.not_keepsRules⟩
  · rw [hok, Except.ok.injEq, eq_comm]
    exact ⟨fun h => ⟨hkeeps, h⟩, fun h => h.2⟩

theorem ofText_eq_error_iff {rejection : Rejection} :
    ofText verbatim column = .error rejection ↔ BreaksFirst verbatim.toList column rejection := by
  rcases ofText_spec verbatim column with ⟨found, herror, hfirst⟩ | ⟨hok, hkeeps⟩
  · rw [herror, Except.error.injEq]
    exact ⟨fun h => h ▸ hfirst, fun h => hfirst.eq h⟩
  · rw [hok]
    exact ⟨fun h => (by cases h), fun h => absurd hkeeps h.not_keepsRules⟩

/-- A text and a column make an identifier exactly if they keep the six rules, and are rejected
for the first one that they break. -/
theorem ofText_exact (verbatim : String) (column : Nat) :
    (∀ identifier, ofText verbatim column = .ok identifier ↔
      KeepsRules verbatim.toList column ∧
        identifier = ⟨verbatim, String.ofList (Name.key verbatim.toList),
          ⟨column, column + verbatim.length - 1⟩⟩) ∧
    ∀ rejection, ofText verbatim column = .error rejection ↔
      BreaksFirst verbatim.toList column rejection :=
  ⟨fun _ => ofText_eq_ok_iff, fun _ => ofText_eq_error_iff⟩

end DialogueScript.Identifier
