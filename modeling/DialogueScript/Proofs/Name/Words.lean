import DialogueScript.Name.Reserved
import DialogueScript.Proofs.Text.Coding
import DialogueScript.Proofs.Text.Lowercase

/-! # The words of a text

A word is a maximal run of word characters. Looking for reserved words position by position, with
boundaries on both sides, finds the first word that is reserved, in whatever order the reserved
words are tried. -/
namespace DialogueScript.Name
open Text (isWordCharacter takeWhile_run dropWhile_run)

def words (text : List Char) : List (List Char) :=
  match text with
  | [] => []
  | c :: rest =>
    if isWordCharacter c then
      (c :: rest.takeWhile isWordCharacter) :: words (rest.dropWhile isWordCharacter)
    else words rest
termination_by text.length
decreasing_by
  · exact Nat.lt_succ_of_le (List.dropWhile_sublist _).length_le
  · simp

@[simp] theorem words_nil : words [] = [] := by simp [words]

@[simp] theorem startsInWord_nil : startsInWord [] = false := rfl

@[simp] theorem startsInWord_cons (c : Char) (rest : List Char) :
    startsInWord (c :: rest) = isWordCharacter c := rfl

theorem words_cons_gap {c : Char} (h : isWordCharacter c = false) (rest : List Char) :
    words (c :: rest) = words rest := by
  rw [words]
  simp [h]

theorem startsInWord_dropWhile (text : List Char) :
    startsInWord (text.dropWhile isWordCharacter) = false := by
  induction text with
  | nil => rfl
  | cons c rest ih =>
    rw [List.dropWhile_cons]
    split_ifs with hc
    · exact ih
    · simpa using hc

theorem words_run {run rest : List Char} (hne : run ≠ [])
    (hrun : ∀ c ∈ run, isWordCharacter c = true) (hrest : startsInWord rest = false) :
    words (run ++ rest) = run :: words rest := by
  cases run with
  | nil => exact absurd rfl hne
  | cons c run =>
    have hc : isWordCharacter c = true := hrun c (by simp)
    have htail : ∀ d ∈ run, isWordCharacter d = true := fun d hd => hrun d (by simp [hd])
    rw [List.cons_append, words, if_pos hc, takeWhile_run htail hrest, dropWhile_run htail hrest]

/-- A text is empty, or a character in no word begins it, or a word does. -/
@[elab_as_elim]
theorem word_induction {motive : List Char → Prop} (nil : motive [])
    (gap : ∀ c rest, isWordCharacter c = false → motive rest → motive (c :: rest))
    (run : ∀ run rest, run ≠ [] → (∀ c ∈ run, isWordCharacter c = true) →
      startsInWord rest = false → motive rest → motive (run ++ rest))
    (text : List Char) : motive text := by
  fun_induction words text with
  | case1 => exact nil
  | case2 c rest hc ih =>
    have hrun : ∀ d ∈ c :: rest.takeWhile isWordCharacter, isWordCharacter d = true := by
      intro d hd
      rcases List.mem_cons.mp hd with rfl | hd
      · exact hc
      · exact List.mem_takeWhile_imp hd
    have := run _ _ (by simp) hrun (startsInWord_dropWhile rest) ih
    rwa [List.cons_append, List.takeWhile_append_dropWhile] at this
  | case3 c rest hc ih => exact gap c rest (by simpa using hc) ih

theorem startsInWord_append {run rest : List Char} (hne : run ≠ []) :
    startsInWord (run ++ rest) = startsInWord run := by
  cases run with
  | nil => exact absurd rfl hne
  | cons c run => rfl

/-- Words lie on one side or the other of a character that is in none. -/
theorem words_append_gap {c : Char} (h : isWordCharacter c = false) (before after : List Char) :
    words (before ++ c :: after) = words before ++ words after := by
  induction before using word_induction with
  | nil => simpa using words_cons_gap h after
  | gap d rest hd ih => rw [List.cons_append, words_cons_gap hd, words_cons_gap hd, ih]
  | run run rest hne hrun hrest ih =>
    have hrest' : startsInWord (rest ++ c :: after) = false := by
      cases rest with
      | nil => simpa using h
      | cons d rest => simpa using hrest
    rw [List.append_assoc, words_run hne hrun hrest', words_run hne hrun hrest, ih,
      List.cons_append]

/-! ### Looking for a word -/

theorem standingAt?_of_not_boundary {inWord : Bool} {text : List Char}
    (h : isBoundary inWord text = false) (word : List Char) : standingAt? inWord text word = none := by
  simp only [standingAt?, h, guard, Option.bind_eq_bind]
  cases writtenAt? word text <;> rfl

theorem firstStanding?_inside (vocabulary : List (List Char)) {run : List Char}
    (hrun : ∀ c ∈ run, isWordCharacter c = true) (rest : List Char) :
    firstStanding? vocabulary true (run ++ rest) = firstStanding? vocabulary true rest := by
  induction run with
  | nil => rfl
  | cons c run ih =>
    have hc : isWordCharacter c = true := hrun c (by simp)
    have hnone : vocabulary.findSome? (standingAt? true (c :: (run ++ rest))) = none := by
      rw [List.findSome?_eq_none_iff]
      intro word _
      exact standingAt?_of_not_boundary (by simp [isBoundary, hc]) word
    rw [List.cons_append, firstStanding?, hnone, Option.none_or, hc]
    exact ih fun d hd => hrun d (by simp [hd])

def isPlainWord (word : List Char) : Bool := !word.isEmpty && word.all Char.isLower

theorem isPlainWord_ne_nil {word : List Char} (h : isPlainWord word = true) : word ≠ [] := by
  rintro rfl
  cases h

theorem isLower_of_isPlainWord {word : List Char} (h : isPlainWord word = true) {c : Char}
    (hc : c ∈ word) : c.isLower = true := by
  rw [isPlainWord, Bool.and_eq_true] at h
  exact List.all_eq_true.mp h.2 c hc

theorem isWordCharacter_of_toLower {c : Char} (h : c.toLower.isLower = true) :
    isWordCharacter c = true :=
  Text.isWordCharacter_of_isAlpha (by rwa [Char.isLower_toLower_eq_isAlpha] at h)

theorem isWordCharacter_of_map_toLower {run word : List Char} (hword : isPlainWord word = true)
    (h : run.map Char.toLower = word) : ∀ c ∈ run, isWordCharacter c = true := by
  intro c hc
  exact isWordCharacter_of_toLower
    (isLower_of_isPlainWord hword (h ▸ List.mem_map_of_mem hc))

theorem getLast?_any_run {run : List Char} (hne : run ≠ [])
    (hrun : ∀ c ∈ run, isWordCharacter c = true) : run.getLast?.any isWordCharacter = true := by
  rw [List.getLast?_eq_some_getLast hne]
  exact hrun _ (List.getLast_mem hne)

/-- A word stands at the start of a text exactly if it spells the text's first word. -/
theorem standingAt?_run {run rest word : List Char} (hword : isPlainWord word = true) (hne : run ≠ [])
    (hrun : ∀ c ∈ run, isWordCharacter c = true) (hrest : startsInWord rest = false) :
    standingAt? false (run ++ rest) word =
      if run.map Char.toLower = word then some run else none := by
  have hbefore : isBoundary false (run ++ rest) = true := by
    rw [isBoundary, startsInWord_append hne]
    cases run with
    | nil => exact absurd rfl hne
    | cons c run => simpa using hrun c (by simp)
  simp only [standingAt?, writtenAt?, hbefore, guard]
  by_cases hspelled : run.map Char.toLower = word
  · have hlength : word.length = run.length := by rw [← hspelled, List.length_map]
    simp [hspelled, hlength, isBoundary, hrest, getLast?_any_run hne hrun]
  · rw [if_neg hspelled]
    split_ifs with htake
    · have hwritten := isWordCharacter_of_map_toLower hword htake
      have hwne : (run ++ rest).take word.length ≠ [] := by
        rintro hnil
        rw [hnil] at htake
        exact isPlainWord_ne_nil hword htake.symm
      -- What is spelled is part of the run and not all of it, so the run goes on behind it.
      have hafter : startsInWord ((run ++ rest).drop word.length) = true := by
        by_contra hstart
        have hsame := takeWhile_run hwritten (Bool.eq_false_iff.mpr hstart)
        rw [List.take_append_drop, takeWhile_run hrun hrest] at hsame
        exact hspelled (hsame ▸ htake)
      simp [isBoundary, hafter, getLast?_any_run hwne hwritten]
    · rfl

theorem findSome?_standingAt?_run {vocabulary : List (List Char)}
    (hplain : ∀ word ∈ vocabulary, isPlainWord word = true) {run rest : List Char} (hne : run ≠ [])
    (hrun : ∀ c ∈ run, isWordCharacter c = true) (hrest : startsInWord rest = false) :
    vocabulary.findSome? (standingAt? false (run ++ rest)) =
      if run.map Char.toLower ∈ vocabulary then some run else none := by
  induction vocabulary with
  | nil => rfl
  | cons word others ih =>
    rw [List.findSome?_cons, standingAt?_run (hplain word (by simp)) hne hrun hrest,
      ih fun other hother => hplain other (by simp [hother])]
    by_cases hword : run.map Char.toLower = word
    · simp [hword]
    · simp [hword, List.mem_cons]

theorem firstStanding?_gap {vocabulary : List (List Char)}
    (hplain : ∀ word ∈ vocabulary, isPlainWord word = true) (inWord : Bool) {c : Char}
    (hc : isWordCharacter c = false) (rest : List Char) :
    firstStanding? vocabulary inWord (c :: rest) = firstStanding? vocabulary false rest := by
  have hnone : vocabulary.findSome? (standingAt? inWord (c :: rest)) = none := by
    rw [List.findSome?_eq_none_iff]
    intro word hword
    have hwritten : writtenAt? word (c :: rest) = none := by
      rw [writtenAt?, if_neg]
      intro hspelled
      obtain ⟨d, word', hd⟩ := List.exists_cons_of_ne_nil (isPlainWord_ne_nil (hplain word hword))
      have := isWordCharacter_of_map_toLower (hplain word hword) hspelled c (by simp [hd])
      rw [hc] at this
      cases this
    simp [standingAt?, hwritten]
  rw [firstStanding?, hnone, Option.none_or, hc]

def isSpelling (vocabulary : List (List Char)) (word : List Char) : Bool :=
  vocabulary.contains (word.map Char.toLower)

/-- Looking for the words of a vocabulary position by position, and at one position in the order of
the vocabulary, finds the first word of the text that spells one of them. -/
theorem firstStanding?_eq_find? {vocabulary : List (List Char)}
    (hplain : ∀ word ∈ vocabulary, isPlainWord word = true) (text : List Char) :
    firstStanding? vocabulary false text = (words text).find? (isSpelling vocabulary) := by
  induction text using word_induction with
  | nil => simp [firstStanding?]
  | gap c rest hc ih => rw [firstStanding?_gap hplain false hc, words_cons_gap hc, ih]
  | run run rest hne hrun hrest ih =>
    have hrest' : firstStanding? vocabulary true rest = firstStanding? vocabulary false rest := by
      cases rest with
      | nil => rfl
      | cons c rest =>
        rw [startsInWord_cons] at hrest
        rw [firstStanding?_gap hplain true hrest, firstStanding?_gap hplain false hrest]
    have hhere := findSome?_standingAt?_run hplain hne hrun hrest
    obtain ⟨c, tail, rfl⟩ := List.exists_cons_of_ne_nil hne
    have hc : isWordCharacter c = true := hrun c (by simp)
    have htail : ∀ d ∈ tail, isWordCharacter d = true := fun d hd => hrun d (by simp [hd])
    rw [words_run hne hrun hrest, List.cons_append, firstStanding?, ← List.cons_append, hhere, hc,
      firstStanding?_inside vocabulary htail, hrest', ih]
    by_cases hmem : (c :: tail).map Char.toLower ∈ vocabulary
    · have hspelled : isSpelling vocabulary (c :: tail) = true := List.contains_iff_mem.mpr hmem
      rw [if_pos hmem, Option.some_or, List.find?_cons_of_pos hspelled]
    · have hspelled : ¬isSpelling vocabulary (c :: tail) = true := mt List.contains_iff_mem.mp hmem
      rw [if_neg hmem, Option.none_or, List.find?_cons_of_neg hspelled]

def isReserved (word : List Char) : Bool := isSpelling (reservedWords.map String.toList) word

theorem reservedWords_isPlainWord :
    ∀ word ∈ reservedWords.map String.toList, isPlainWord word = true :=
  List.all_eq_true.mp (by decide)

theorem reservedIn?_eq_find? (text : List Char) :
    reservedIn? text = (words text).find? isReserved :=
  firstStanding?_eq_find? reservedWords_isPlainWord text

/-! ### Where a word stands -/

/-- Between `before` and `after` a word stands: a maximal run of word characters. -/
structure StandsAsWord (before run after : List Char) : Prop where
  ne_nil : run ≠ []
  isWord : ∀ c ∈ run, isWordCharacter c = true
  startsAfter : ∀ rest c, before = rest ++ [c] → isWordCharacter c = false
  endsBefore : ∀ c rest, after = c :: rest → isWordCharacter c = false

theorem StandsAsWord.startsInWord_eq_false {before run after : List Char}
    (h : StandsAsWord before run after) : startsInWord after = false := by
  cases after with
  | nil => rfl
  | cons c rest => exact h.endsBefore c rest rfl

theorem words_append_of_not_startsInWord (before : List Char) {after : List Char}
    (h : startsInWord after = false) : words (before ++ after) = words before ++ words after := by
  cases after with
  | nil => simp
  | cons c rest => rw [words_append_gap h, words_cons_gap h]

theorem StandsAsWord.words_eq {before run after : List Char} (h : StandsAsWord before run after) :
    words (before ++ run ++ after) = words before ++ run :: words after := by
  have hrun : words run = [run] := by simpa using words_run h.ne_nil h.isWord startsInWord_nil
  rw [words_append_of_not_startsInWord _ h.startsInWord_eq_false]
  rcases List.eq_nil_or_concat before with rfl | ⟨rest, c, rfl⟩
  · simp [hrun]
  · have hc := h.startsAfter rest c (by simp)
    simp only [List.concat_eq_append, List.append_assoc, List.singleton_append]
    rw [words_append_gap hc, words_append_gap hc, hrun]
    simp

/-- More text on the left changes nothing where text is left of the word already. -/
theorem StandsAsWord.append_left {before run after : List Char} (h : StandsAsWord before run after)
    (hne : before ≠ []) (first : List Char) : StandsAsWord (first ++ before) run after := by
  refine ⟨h.ne_nil, h.isWord, ?_, h.endsBefore⟩
  intro rest c hc
  obtain ⟨init, last, rfl⟩ := (List.eq_nil_or_concat before).resolve_left hne
  rw [List.concat_eq_append, ← List.append_assoc] at hc
  obtain ⟨-, hlast⟩ := List.append_inj' hc rfl
  rw [← List.singleton_inj.mp hlast]
  exact h.startsAfter init last (by simp)

theorem StandsAsWord.cons_gap {before run after : List Char} (h : StandsAsWord before run after)
    {c : Char} (hc : isWordCharacter c = false) : StandsAsWord (c :: before) run after := by
  cases before with
  | cons d before => exact h.append_left (by simp) [c]
  | nil =>
    refine ⟨h.ne_nil, h.isWord, ?_, h.endsBefore⟩
    intro rest d hd
    have hlast : [c].getLast? = (rest ++ [d]).getLast? := by rw [hd]
    rw [List.getLast?_singleton, List.getLast?_concat, Option.some.injEq] at hlast
    rwa [← hlast]

/-- Each word of a text stands in it, with the words before it on its left. -/
theorem exists_standsAsWord {text run : List Char} {left right : List (List Char)}
    (h : words text = left ++ run :: right) :
    ∃ before after, text = before ++ run ++ after ∧ StandsAsWord before run after ∧
      words before = left := by
  induction text using word_induction generalizing left with
  | nil => simp at h
  | gap c rest hc ih =>
    rw [words_cons_gap hc] at h
    obtain ⟨before, after, rfl, hstands, hleft⟩ := ih h
    exact ⟨c :: before, after, by simp, hstands.cons_gap hc, by rw [words_cons_gap hc, hleft]⟩
  | run first rest hne hfirst hrest ih =>
    rw [words_run hne hfirst hrest] at h
    cases left with
    | nil =>
      obtain ⟨rfl, -⟩ := List.cons.inj h
      refine ⟨[], rest, by simp, ⟨hne, hfirst, by simp, ?_⟩, words_nil⟩
      rintro c after rfl
      exact hrest
    | cons word left =>
      obtain ⟨rfl, htail⟩ := List.cons.inj h
      obtain ⟨before, after, rfl, hstands, hleft⟩ := ih htail
      -- Two words do not stand side by side, so what ends `before` is not the end of `first`.
      have hbefore : before ≠ [] := by
        rintro rfl
        obtain ⟨c, run, rfl⟩ := List.exists_cons_of_ne_nil hstands.ne_nil
        have := hstands.isWord c (by simp)
        simp_all
      rw [List.append_assoc, startsInWord_append hbefore] at hrest
      exact ⟨first ++ before, after, by simp, hstands.append_left hbefore first,
        by rw [words_run hne hfirst hrest, hleft]⟩

/-- The words of a text are its maximal runs of word characters, from left to right. -/
theorem words_eq_append_iff {text run : List Char} {left right : List (List Char)} :
    words text = left ++ run :: right ↔
      ∃ before after, text = before ++ run ++ after ∧ StandsAsWord before run after ∧
        words before = left ∧ words after = right := by
  constructor
  · intro h
    obtain ⟨before, after, rfl, hstands, hleft⟩ := exists_standsAsWord h
    rw [hstands.words_eq, hleft] at h
    have hright := List.append_cancel_left h
    exact ⟨before, after, rfl, hstands, hleft, (List.cons.inj hright).2⟩
  · rintro ⟨before, after, rfl, hstands, rfl, rfl⟩
    exact hstands.words_eq

def SameLetters (a b : List Char) : Prop := a.map Char.toLower = b.map Char.toLower

instance (a b : List Char) : Decidable (SameLetters a b) :=
  inferInstanceAs (Decidable (a.map Char.toLower = b.map Char.toLower))

def HoldsReserved (text : List Char) : Prop :=
  ∃ before word after, text = before ++ word ++ after ∧ StandsAsWord before word after ∧
    ∃ reserved ∈ reservedWords, SameLetters word reserved.toList

theorem isReserved_iff {word : List Char} :
    isReserved word = true ↔ ∃ reserved ∈ reservedWords, SameLetters word reserved.toList := by
  have hsmall : ∀ reserved ∈ reservedWords,
      reserved.toList.map Char.toLower = reserved.toList := by
    simpa using List.all_eq_true.mp (show reservedWords.all (fun reserved =>
      reserved.toList.map Char.toLower == reserved.toList) = true by decide)
  simp only [isReserved, isSpelling, List.contains_iff_mem, List.mem_map, SameLetters]
  constructor
  · rintro ⟨reserved, hmem, hsame⟩
    exact ⟨reserved, hmem, by rw [← hsame, hsmall reserved hmem]⟩
  · rintro ⟨reserved, hmem, hsame⟩
    exact ⟨reserved, hmem, by rw [hsame, hsmall reserved hmem]⟩

theorem holdsReserved_iff {text : List Char} :
    HoldsReserved text ↔ ∃ word ∈ words text, isReserved word = true := by
  constructor
  · rintro ⟨before, word, after, rfl, hstands, hreserved⟩
    exact ⟨word, by rw [hstands.words_eq]; simp, isReserved_iff.mpr hreserved⟩
  · rintro ⟨word, hmem, hreserved⟩
    obtain ⟨left, right, hwords⟩ := List.append_of_mem hmem
    obtain ⟨before, after, htext, hstands, -⟩ := words_eq_append_iff.mp hwords
    exact ⟨before, word, after, htext, hstands, isReserved_iff.mp hreserved⟩

theorem reservedIn?_eq_none_iff {text : List Char} :
    reservedIn? text = none ↔ ¬HoldsReserved text := by
  simp [reservedIn?_eq_find?, holdsReserved_iff, List.find?_eq_none]

/-- What is found is the leftmost reserved word of the text. -/
theorem reservedIn?_eq_some_iff {text word : List Char} :
    reservedIn? text = some word ↔
      ∃ before after, text = before ++ word ++ after ∧ StandsAsWord before word after ∧
        (∃ reserved ∈ reservedWords, SameLetters word reserved.toList) ∧
          ¬HoldsReserved before := by
  rw [reservedIn?_eq_find?, List.find?_eq_some_iff_append]
  constructor
  · rintro ⟨hreserved, left, right, hwords, hleft⟩
    obtain ⟨before, after, htext, hstands, hbefore, -⟩ := words_eq_append_iff.mp hwords
    refine ⟨before, after, htext, hstands, isReserved_iff.mp hreserved, ?_⟩
    rw [holdsReserved_iff, hbefore]
    rintro ⟨other, hmem, hother⟩
    simpa [hother] using hleft other hmem
  · rintro ⟨before, after, rfl, hstands, hreserved, hbefore⟩
    refine ⟨isReserved_iff.mpr hreserved, words before, words after, hstands.words_eq, ?_⟩
    intro other hmem
    rw [Bool.not_eq_true', Bool.eq_false_iff]
    intro hother
    exact hbefore (holdsReserved_iff.mpr ⟨other, hmem, hother⟩)

/-! ### The search as a choice from the words -/

theorem isReserved_eq_decide :
    isReserved = fun word => decide (∃ reserved ∈ reservedWords, SameLetters word reserved.toList) := by
  funext word
  rw [Bool.eq_iff_iff, isReserved_iff, decide_eq_true_eq]

theorem isSpelling_of_perm {vocabulary other : List (List Char)} (h : vocabulary.Perm other) :
    isSpelling vocabulary = isSpelling other := by
  funext word
  exact h.contains_eq

/-- In whatever order the reserved words are tried, the search finds the same. -/
theorem firstStanding?_of_perm {order : List String} (h : order.Perm reservedWords)
    (text : List Char) : firstStanding? (order.map String.toList) false text = reservedIn? text := by
  have hperm : (order.map String.toList).Perm (reservedWords.map String.toList) :=
    h.map String.toList
  have hplain : ∀ word ∈ order.map String.toList, isPlainWord word = true := by
    intro word hword
    exact reservedWords_isPlainWord word (hperm.mem_iff.mp hword)
  rw [firstStanding?_eq_find? hplain, isSpelling_of_perm hperm, reservedIn?_eq_find?]
  rfl

/-- The words of a text are its maximal runs of word characters, and the search for a reserved word
finds the first of them that is one but for the case of its ASCII letters, as it is written there.
The order in which the reserved words are tried does not matter. -/
theorem search_eq_firstWord (text : List Char) :
    (∀ left run right, words text = left ++ run :: right ↔
      ∃ before after, text = before ++ run ++ after ∧ StandsAsWord before run after ∧
        words before = left ∧ words after = right) ∧
    reservedIn? text = (words text).find? (fun word =>
      decide (∃ reserved ∈ reservedWords, SameLetters word reserved.toList)) ∧
    ∀ order : List String, order.Perm reservedWords →
      firstStanding? (order.map String.toList) false text = reservedIn? text := by
  refine ⟨fun _ _ _ => words_eq_append_iff, ?_, fun order h => firstStanding?_of_perm h text⟩
  rw [reservedIn?_eq_find?, isReserved_eq_decide]

/-- The longer `exits` is found although `exit` is tried before it. -/
theorem search_eq_firstWord_reversed :
    reservedWords.reverse.Perm reservedWords ∧
      firstStanding? (reservedWords.reverse.map String.toList) false "to\u0301 is_ EXITS,or".toList =
        reservedIn? "to\u0301 is_ EXITS,or".toList ∧
      reservedIn? "to\u0301 is_ EXITS,or".toList = some "EXITS".toList := by
  have hperm : reservedWords.reverse.Perm reservedWords := List.reverse_perm reservedWords
  have hfound : reservedIn? "to\u0301 is_ EXITS,or".toList = some "EXITS".toList := by decide +kernel
  exact ⟨hperm, (search_eq_firstWord _).2.2 _ hperm, hfound⟩

end DialogueScript.Name
