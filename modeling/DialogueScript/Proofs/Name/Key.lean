import DialogueScript.Name.Key
import DialogueScript.Proofs.Name.Words

/-! # What a key keeps of a name

A key holds no excluded character and is its own key. It has the words of the name one for one, so
it has the reserved words and the disallowed characters of the name and no others. -/
namespace DialogueScript.Name
open Text (isWordCharacter lowercase Lowered IsLowering IsSettled)

/-! ### Excluded characters -/

def symbols : List Char := separator :: disallowedCharacters ++ excludedSymbols

theorem symbols_areApart :
    Text.areApart (Text.tableBits (Text.pointRanges symbols)) (Text.tableBits Text.wordRanges) =
      true := by
  decide +kernel

theorem isWordCharacter_of_mem_symbols {c : Char} (h : c ∈ symbols) : isWordCharacter c = false :=
  Text.inRanges_eq_false_of_areApart symbols_areApart (Text.inRanges_pointRanges h)

theorem isWordCharacter_separator : isWordCharacter separator = false :=
  isWordCharacter_of_mem_symbols List.mem_cons_self

theorem isWordCharacter_of_isDisallowed {c : Char} (h : isDisallowed c = true) :
    isWordCharacter c = false :=
  isWordCharacter_of_mem_symbols (by simp [symbols, List.contains_iff_mem.mp h])

theorem isWordCharacter_of_isExcluded {c : Char} (h : isExcluded c = true) :
    isWordCharacter c = false := by
  rw [isExcluded, Bool.or_eq_true] at h
  rcases h with hblank | hsymbol
  · exact Text.isWordCharacter_of_isBlank hblank
  · exact isWordCharacter_of_mem_symbols (by simp [symbols, List.contains_iff_mem.mp hsymbol])

theorem isExcluded_of_isWordCharacter {c : Char} (h : isWordCharacter c = true) :
    isExcluded c = false := by
  rw [Bool.eq_false_iff]
  intro hexcluded
  rw [isWordCharacter_of_isExcluded hexcluded] at h
  cases h

theorem isDisallowed_of_isExcluded {c : Char} (h : isExcluded c = true) :
    isDisallowed c = false := by
  have hall : disallowedCharacters.all (fun c => !isExcluded c) = true := by decide
  rw [Bool.eq_false_iff]
  intro hc
  have := List.all_eq_true.mp hall c (List.contains_iff_mem.mp hc)
  simp [h] at this

theorem isExcluded_separator : isExcluded separator = false := by decide

theorem isDisallowed_separator : isDisallowed separator = false := by decide

/-! ### Collapsing runs -/

theorem collapseFrom_cons {c : Char} (h : isExcluded c = false) (inRun : Bool) (rest : List Char) :
    collapseFrom inRun (c :: rest) = c :: collapseFrom false rest := by
  simp [collapseFrom, h]

theorem collapseFrom_false_excluded {c : Char} (h : isExcluded c = true) (rest : List Char) :
    collapseFrom false (c :: rest) = separator :: collapseFrom true rest := by
  simp [collapseFrom, h]

theorem collapseFrom_true_excluded {c : Char} (h : isExcluded c = true) (rest : List Char) :
    collapseFrom true (c :: rest) = collapseFrom true rest := by
  simp [collapseFrom, h]

theorem collapseFrom_significant {run : List Char} (hne : run ≠ [])
    (hrun : ∀ c ∈ run, isExcluded c = false) (inRun : Bool) (rest : List Char) :
    collapseFrom inRun (run ++ rest) = run ++ collapseFrom false rest := by
  induction run generalizing inRun with
  | nil => exact absurd rfl hne
  | cons c run ih =>
    rw [List.cons_append, collapseFrom_cons (hrun c (by simp)), List.cons_append]
    congr 1
    cases run with
    | nil => rfl
    | cons d run => exact ih (by simp) (fun e he => hrun e (by simp [he])) false

theorem collapse_eq_self {text : List Char} (h : ∀ c ∈ text, isExcluded c = false) :
    collapse text = text := by
  cases text with
  | nil => rfl
  | cons c rest => simpa [collapse, collapseFrom] using collapseFrom_significant (by simp) h false []

theorem collapseFrom_true_eq {text : List Char} (h : text.head?.any isExcluded = false) :
    collapseFrom true text = collapse text := by
  cases text with
  | nil => rfl
  | cons c rest =>
    have hc : isExcluded c = false := h
    rw [collapse, collapseFrom_cons hc, collapseFrom_cons hc]

theorem mem_collapseFrom {inRun : Bool} {text : List Char} {c : Char}
    (h : c ∈ collapseFrom inRun text) : c = separator ∨ c ∈ text ∧ isExcluded c = false := by
  fun_induction collapseFrom inRun text with
  | case1 => simp at h
  | case2 d rest hd ih => exact (ih h).imp_right fun hc => ⟨by simp [hc.1], hc.2⟩
  | case3 inRun d rest hd hrun ih =>
    rcases List.mem_cons.mp h with rfl | h
    · exact Or.inl rfl
    · exact (ih h).imp_right fun hc => ⟨by simp [hc.1], hc.2⟩
  | case4 inRun d rest hd ih =>
    rcases List.mem_cons.mp h with rfl | h
    · exact Or.inr ⟨by simp, by simpa using hd⟩
    · exact (ih h).imp_right fun hc => ⟨by simp [hc.1], hc.2⟩

theorem isExcluded_of_mem_collapse {text : List Char} {c : Char} (h : c ∈ collapse text) :
    isExcluded c = false := by
  rcases mem_collapseFrom h with rfl | ⟨-, hc⟩
  · exact isExcluded_separator
  · exact hc

theorem collapse_ne_nil {text : List Char} (h : text ≠ []) : collapse text ≠ [] := by
  obtain ⟨c, rest, rfl⟩ := List.exists_cons_of_ne_nil h
  rw [collapse]
  cases hc : isExcluded c with
  | false => simp [collapseFrom_cons hc]
  | true => simp [collapseFrom_false_excluded hc]

theorem startsInWord_collapseFrom {text : List Char} (h : startsInWord text = false) :
    startsInWord (collapseFrom false text) = false := by
  cases text with
  | nil => rfl
  | cons c rest =>
    cases hc : isExcluded c with
    | false => rwa [collapseFrom_cons hc]
    | true => rw [collapseFrom_false_excluded hc, startsInWord_cons, isWordCharacter_separator]

/-- Collapsing changes what lies between words and no word. -/
theorem words_collapseFrom (inRun : Bool) (text : List Char) :
    words (collapseFrom inRun text) = words text := by
  induction text using word_induction generalizing inRun with
  | nil => rfl
  | gap c rest hc ih =>
    rw [words_cons_gap hc]
    cases hexcluded : isExcluded c with
    | false => rw [collapseFrom_cons hexcluded, words_cons_gap hc, ih]
    | true =>
      cases inRun with
      | false =>
        rw [collapseFrom_false_excluded hexcluded, words_cons_gap isWordCharacter_separator, ih]
      | true => rw [collapseFrom_true_excluded hexcluded, ih]
  | run run rest hne hrun hrest ih =>
    have hsignificant : ∀ c ∈ run, isExcluded c = false := fun c hc =>
      isExcluded_of_isWordCharacter (hrun c hc)
    rw [collapseFrom_significant hne hsignificant, words_run hne hrun (startsInWord_collapseFrom hrest),
      words_run hne hrun hrest, ih]

/-! ### Lower case -/

theorem startsInWord_of_lowered {text lower : List Char} (h : Lowered text lower) :
    startsInWord lower = startsInWord text := by
  cases h with
  | nil => rfl
  | @cons c cs rest lowerRest first others =>
    obtain ⟨d, tail, rfl⟩ := List.exists_cons_of_ne_nil first.ne_nil
    exact first.isWordCharacter (by simp)

/-- The words of a lower case are the lower cases of the words. -/
theorem words_of_lowered {text lower : List Char} (h : Lowered text lower) :
    List.Forall₂ Lowered (words text) (words lower) := by
  induction text using word_induction generalizing lower with
  | nil =>
    cases h
    simp
  | gap c rest hc ih =>
    cases h with
    | @cons _ cs _ lowerRest first others =>
      rw [first.eq_of_not_word hc, List.singleton_append, words_cons_gap hc, words_cons_gap hc]
      exact ih others
  | run run rest hne hrun hrest ih =>
    obtain ⟨lowerRun, lowerRest, rfl, hlowerRun, hlowerRest⟩ := h.exists_append
    have hrest' : startsInWord lowerRest = false := by
      rw [startsInWord_of_lowered hlowerRest, hrest]
    rw [words_run hne hrun hrest, words_run (hlowerRun.ne_nil hne)
      (fun d hd => hlowerRun.isWordCharacter hrun hd) hrest']
    exact List.Forall₂.cons hlowerRun (ih hlowerRest)

theorem toNat_lt_of_toLower {c : Char} (h : c.toLower.isLower = true) : c.toNat < 0x80 := by
  rw [Char.isLower_toLower_eq_isAlpha, Text.isAlpha_iff] at h
  omega

/-- The letters of reserved words are ASCII, and none is a `k`. -/
theorem letters_of_isReserved {word : List Char} (h : isReserved word = true) {c : Char}
    (hc : c ∈ word) : c ≠ 'k' ∧ c.toNat < 0x80 := by
  have hmem : word.map Char.toLower ∈ reservedWords.map String.toList := List.contains_iff_mem.mp h
  have hno : (reservedWords.map String.toList).all (fun word => !word.contains 'k') = true := by
    decide
  have hlower : c.toLower ∈ word.map Char.toLower := List.mem_map_of_mem hc
  refine ⟨?_, toNat_lt_of_toLower
    (isLower_of_isPlainWord (reservedWords_isPlainWord _ hmem) hlower)⟩
  rintro rfl
  have hk := List.all_eq_true.mp hno _ hmem
  rw [Bool.not_eq_true', Bool.eq_false_iff] at hk
  exact hk (List.contains_iff_mem.mpr hlower)

theorem isReserved_map_toLower (word : List Char) :
    isReserved (word.map Char.toLower) = isReserved word := by
  simp [isReserved, isSpelling, Function.comp_def]

/-- Lower case makes no word reserved and spells the reserved ones in small letters. -/
theorem isReserved_of_lowered {word lower : List Char} (h : Lowered word lower) :
    isReserved lower = isReserved word ∧
      (isReserved word = true → lower = word.map Char.toLower) := by
  have hword : isReserved word = true → lower = word.map Char.toLower := fun hreserved =>
    h.eq_map_toLower fun c hc => (letters_of_isReserved hreserved hc).2
  refine ⟨?_, hword⟩
  rw [Bool.eq_iff_iff]
  constructor
  · intro hreserved
    have hsame := h.eq_map_toLower (h.isAscii fun d hd => letters_of_isReserved hreserved hd)
    rwa [hsame, isReserved_map_toLower] at hreserved
  · intro hreserved
    rwa [hword hreserved, isReserved_map_toLower]

/-! ### Keys -/

theorem words_key (text : List Char) : List.Forall₂ Lowered (words text) (words (key text)) := by
  rw [key, collapse, words_collapseFrom]
  exact words_of_lowered (Text.lowered_lowercase text)

theorem isExcluded_of_mem_key {text : List Char} {c : Char} (h : c ∈ key text) :
    isExcluded c = false := isExcluded_of_mem_collapse h

/-- All blank characters are excluded. -/
theorem isBlank_of_mem_key {text : List Char} {c : Char} (h : c ∈ key text) :
    Text.isBlank c = false := by
  have hexcluded := isExcluded_of_mem_key h
  rw [isExcluded, Bool.or_eq_false_iff] at hexcluded
  exact hexcluded.1

theorem isSettled_of_mem_key {text : List Char} {c : Char} (h : c ∈ key text) : IsSettled c := by
  rcases mem_collapseFrom h with rfl | ⟨hc, -⟩
  · exact Text.lowerCharacter_of_not_word isWordCharacter_separator
  · exact (Text.lowered_lowercase text).isSettled hc

theorem key_ne_nil {text : List Char} (h : text ≠ []) : key text ≠ [] :=
  collapse_ne_nil ((Text.lowered_lowercase text).ne_nil h)

theorem lowercase_key (text : List Char) : lowercase (key text) = key text :=
  Text.lowercase_eq_self_iff.mpr fun _ hc => isSettled_of_mem_key hc

/-- A text that has nothing to collapse and is its own lower case is its own key. -/
theorem key_eq_self {text : List Char} (hsignificant : ∀ c ∈ text, isExcluded c = false)
    (hlower : lowercase text = text) : key text = text := by
  rw [key, hlower]
  exact collapse_eq_self hsignificant

theorem key_key (text : List Char) : key (key text) = key text :=
  key_eq_self (fun _ hc => isExcluded_of_mem_key hc) (lowercase_key text)

/-- Keys are what taking the key leaves as it is: the texts without excluded characters that are
their own lower case. Each character can be looked at alone. -/
theorem key_projection : (∀ text, key (key text) = key text) ∧
    ∀ text : List Char, List.TFAE [
      ∃ name, text = key name,
      key text = text,
      (∀ c ∈ text, isExcluded c = false) ∧ lowercase text = text,
      ∀ c ∈ text, isExcluded c = false ∧ Text.lowerCharacter c = [c]] := by
  refine ⟨key_key, fun text => ?_⟩
  tfae_have 1 → 3 := by
    rintro ⟨name, rfl⟩
    exact ⟨fun _ hc => isExcluded_of_mem_key hc, lowercase_key name⟩
  tfae_have 3 → 2 := fun h => key_eq_self h.1 h.2
  tfae_have 2 → 1 := fun h => ⟨text, h.symm⟩
  tfae_have 3 ↔ 4 := by
    rw [Text.lowercase_eq_self_iff, ← forall₂_and]
    rfl
  tfae_finish

/-- A key holds the reserved word that the name holds, in small letters. -/
theorem reservedIn?_key (text : List Char) :
    reservedIn? (key text) = (reservedIn? text).map (·.map Char.toLower) := by
  rw [reservedIn?_eq_find?, reservedIn?_eq_find?]
  -- The words of text and key correspond, so the first reserved ones stand in the same place.
  have hwords := words_key text
  generalize words text = before, words (key text) = after at hwords ⊢
  induction hwords with
  | nil => rfl
  | @cons word lower _ _ first _ ih =>
    obtain ⟨hsame, hsmall⟩ := isReserved_of_lowered first
    cases hword : isReserved word with
    | false =>
      rw [hword] at hsame
      rwa [List.find?_cons_of_neg (by simp [hsame]), List.find?_cons_of_neg (by simp [hword])]
    | true =>
      rw [hword] at hsame
      rw [List.find?_cons_of_pos hsame, List.find?_cons_of_pos hword, hsmall hword]
      rfl

theorem disallowedIn?_of_lowered {text lower : List Char} (h : Lowered text lower) :
    disallowedIn? lower = disallowedIn? text := by
  induction h with
  | nil => rfl
  | @cons c cs rest lowerRest first others ih =>
    simp only [disallowedIn?] at ih ⊢
    cases hc : isDisallowed c with
    | true =>
      rw [first.eq_of_not_word (isWordCharacter_of_isDisallowed hc), List.singleton_append,
        List.find?_cons_of_pos hc, List.find?_cons_of_pos hc]
    | false =>
      have hnone : cs.find? isDisallowed = none := by
        rw [List.find?_eq_none]
        intro d hd hdisallowed
        have hword := first.isWordCharacter hd
        rw [isWordCharacter_of_isDisallowed hdisallowed] at hword
        rw [first.eq_of_not_word hword.symm, List.mem_singleton] at hd
        rw [hd, hc] at hdisallowed
        cases hdisallowed
      rw [List.find?_append, hnone, Option.none_or, ih, List.find?_cons_of_neg (by simp [hc])]

theorem disallowedIn?_collapseFrom (inRun : Bool) (text : List Char) :
    disallowedIn? (collapseFrom inRun text) = disallowedIn? text := by
  have hseparator : ¬isDisallowed separator = true := by simp [isDisallowed_separator]
  simp only [disallowedIn?]
  fun_induction collapseFrom inRun text with
  | case1 => rfl
  | case2 c rest hc ih =>
    rw [ih, List.find?_cons_of_neg (by simp [isDisallowed_of_isExcluded hc])]
  | case3 inRun c rest hc hrun ih =>
    rw [List.find?_cons_of_neg hseparator, ih,
      List.find?_cons_of_neg (by simp [isDisallowed_of_isExcluded hc])]
  | case4 inRun c rest hc ih => rw [List.find?_cons, List.find?_cons, ih]

theorem disallowedIn?_key (text : List Char) : disallowedIn? (key text) = disallowedIn? text := by
  rw [key, collapse, disallowedIn?_collapseFrom, disallowedIn?_of_lowered
    (Text.lowered_lowercase text)]

/-! ### What a key tells of its texts -/

theorem isReserved_of_reservedIn? {text word : List Char} (h : reservedIn? text = some word) :
    isReserved word = true := by
  rw [reservedIn?_eq_find?] at h
  exact List.find?_some h

/-- The lower case of a reserved word is that of its ASCII letters. -/
theorem lowercase_of_isReserved {word : List Char} (h : isReserved word = true) :
    lowercase word = word.map Char.toLower :=
  (isReserved_of_lowered (Text.lowered_lowercase word)).2 h

/-- Texts with one key hold one reserved word, each in its own spelling, or both hold none. -/
theorem sameLetters_of_key_eq {text other : List Char} (h : key text = key other) :
    Option.Rel SameLetters (reservedIn? text) (reservedIn? other) := by
  have hsmall : (reservedIn? text).map (·.map Char.toLower) =
      (reservedIn? other).map (·.map Char.toLower) := by
    rw [← reservedIn?_key, h, reservedIn?_key]
  cases htext : reservedIn? text with
  | none =>
    rw [htext, Option.map_none, eq_comm, Option.map_eq_none_iff] at hsmall
    rw [hsmall]
    exact Option.Rel.none
  | some word =>
    rw [htext, Option.map_some, eq_comm, Option.map_eq_some_iff] at hsmall
    obtain ⟨word', hother, hsame⟩ := hsmall
    rw [hother]
    exact Option.Rel.some hsame.symm

theorem disallowedIn?_eq_of_key_eq {text other : List Char} (h : key text = key other) :
    disallowedIn? text = disallowedIn? other := by
  rw [← disallowedIn?_key, h, disallowedIn?_key]

/-- What a name must not hold can be read off its key: the reserved word, in its lower case, and
the disallowed character. Texts with one key are refused for the same word or character. -/
theorem forbidden_key (text : List Char) :
    reservedIn? (key text) = (reservedIn? text).map lowercase ∧
      disallowedIn? (key text) = disallowedIn? text ∧
      ∀ other, key text = key other →
        Option.Rel SameLetters (reservedIn? text) (reservedIn? other) ∧
          disallowedIn? text = disallowedIn? other := by
  refine ⟨?_, disallowedIn?_key text, fun other h => ?_⟩
  · rw [reservedIn?_key]
    apply Option.map_congr
    intro word hword
    exact (lowercase_of_isReserved (isReserved_of_reservedIn? hword)).symm
  · exact ⟨sameLetters_of_key_eq h, disallowedIn?_eq_of_key_eq h⟩

/-- Both texts have the key `k-and-(is)`: the one reports `AND` and the other `and`, both `(`. -/
theorem forbidden_key_kelvin :
    key "\u212a AND!(is)".toList = key "k .and (IS)".toList ∧
      reservedIn? "\u212a AND!(is)".toList = some "AND".toList ∧
      Option.Rel SameLetters (reservedIn? "\u212a AND!(is)".toList)
        (reservedIn? "k .and (IS)".toList) ∧
      disallowedIn? "\u212a AND!(is)".toList = disallowedIn? "k .and (IS)".toList := by
  have hkey : key "\u212a AND!(is)".toList = key "k .and (IS)".toList := by decide +kernel
  have hfound : reservedIn? "\u212a AND!(is)".toList = some "AND".toList := by decide +kernel
  exact ⟨hkey, hfound, (forbidden_key _).2.2 _ hkey⟩

end DialogueScript.Name
