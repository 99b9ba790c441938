import DialogueScript.Proofs.Name.Filling

/-! # The key of a name, run by run

The lower case of a name is made of runs of excluded characters and runs of others, in turn. Its key
keeps the others and has one separator for each excluded run. -/
namespace DialogueScript.Name
open Text (lowercase)

/-! ### Maximal runs -/

/-- The maximal runs of a text: of the characters of a run all are excluded, or none is. -/
def runs (text : List Char) : List (List Char) :=
  text.splitBy fun c d => isExcluded c == isExcluded d

def isExcludedRun (run : List Char) : Bool := run.all isExcluded

/-- Runs of one kind each that are not empty, the two kinds in turn. -/
structure AreMaximal (parts : List (List Char)) : Prop where
  nonempty : ∀ run ∈ parts, run ≠ []
  uniform : ∀ run ∈ parts, (∀ c ∈ run, isExcluded c = true) ∨ ∀ c ∈ run, isExcluded c = false
  inTurn : parts.IsChain fun run next => isExcludedRun run ≠ isExcludedRun next

variable {run : List Char} {parts : List (List Char)}

theorem isExcludedRun_eq_true_iff : isExcludedRun run = true ↔ ∀ c ∈ run, isExcluded c = true :=
  List.all_eq_true

/-- Each character of a run is of the kind that the run is. -/
theorem isExcluded_eq_isExcludedRun
    (huniform : (∀ c ∈ run, isExcluded c = true) ∨ ∀ c ∈ run, isExcluded c = false) {c : Char}
    (hc : c ∈ run) : isExcluded c = isExcludedRun run := by
  rcases huniform with hall | hnone
  · rw [hall c hc, isExcludedRun_eq_true_iff.mpr hall]
  · rw [hnone c hc, eq_comm, Bool.eq_false_iff]
    intro hrun
    have := isExcludedRun_eq_true_iff.mp hrun c hc
    rw [hnone c hc] at this
    cases this

theorem uniform_of_isChain
    (h : run.IsChain fun c d => (isExcluded c == isExcluded d) = true) :
    (∀ c ∈ run, isExcluded c = true) ∨ ∀ c ∈ run, isExcluded c = false := by
  induction run with
  | nil => exact Or.inl (by simp)
  | cons c rest ih =>
    rw [List.isChain_cons] at h
    cases rest with
    | nil => cases hc : isExcluded c <;> simp [hc]
    | cons d rest =>
      have hsame : isExcluded c = isExcluded d := by simpa using h.1 d (by simp)
      refine (ih h.2).imp ?_ ?_
      · exact fun hall => List.forall_mem_cons.mpr ⟨hsame.trans (hall d (by simp)), hall⟩
      · exact fun hnone => List.forall_mem_cons.mpr ⟨hsame.trans (hnone d (by simp)), hnone⟩

theorem isChain_of_uniform
    (h : (∀ c ∈ run, isExcluded c = true) ∨ ∀ c ∈ run, isExcluded c = false) :
    run.IsChain fun c d => (isExcluded c == isExcluded d) = true := by
  refine List.Pairwise.isChain (List.pairwise_of_forall_mem_list fun c hc d hd => ?_)
  rw [isExcluded_eq_isExcludedRun h hc, isExcluded_eq_isExcludedRun h hd, beq_self_eq_true]

/-- The runs of a text are the only way to take it apart into maximal runs. -/
theorem runs_eq_iff {text : List Char} :
    runs text = parts ↔ parts.flatten = text ∧ AreMaximal parts := by
  rw [runs, List.splitBy_eq_iff]
  constructor
  · rintro ⟨htext, hne, hchain, hturn⟩
    have huniform := fun run hrun => uniform_of_isChain (hchain run hrun)
    refine ⟨htext.symm, fun run hrun hnil => hne (hnil ▸ hrun), huniform, ?_⟩
    refine hturn.imp_of_mem_imp fun run next hrun hnext hends => ?_
    obtain ⟨hrunNe, hnextNe, hdiffer⟩ := hends
    rw [beq_eq_false_iff_ne] at hdiffer
    rwa [isExcluded_eq_isExcludedRun (huniform run hrun) (List.getLast_mem hrunNe),
      isExcluded_eq_isExcludedRun (huniform next hnext) (List.head_mem hnextNe)] at hdiffer
  · rintro ⟨htext, hmaximal⟩
    refine ⟨htext.symm, fun hnil => hmaximal.nonempty [] hnil rfl,
      fun run hrun => isChain_of_uniform (hmaximal.uniform run hrun), ?_⟩
    refine hmaximal.inTurn.imp_of_mem_imp fun run next hrun hnext hdiffer => ?_
    refine ⟨hmaximal.nonempty run hrun, hmaximal.nonempty next hnext, ?_⟩
    rwa [beq_eq_false_iff_ne,
      isExcluded_eq_isExcludedRun (hmaximal.uniform run hrun) (List.getLast_mem _),
      isExcluded_eq_isExcludedRun (hmaximal.uniform next hnext) (List.head_mem _)]

/-! ### Collapsing runs one by one -/

def shownRun (run : List Char) : List Char := if isExcludedRun run then [separator] else run

theorem AreMaximal.tail (h : AreMaximal (run :: parts)) : AreMaximal parts where
  nonempty other hother := h.nonempty other (by simp [hother])
  uniform other hother := h.uniform other (by simp [hother])
  inTurn := h.inTurn.tail

/-- An excluded run that reaches into maximal runs is not written once more if no excluded run
begins them. -/
theorem collapseFrom_flatten (h : AreMaximal parts) (inRun : Bool)
    (hfirst : inRun = true → ∀ run ∈ parts.head?, isExcludedRun run = false) :
    collapseFrom inRun parts.flatten = parts.flatMap shownRun := by
  induction parts generalizing inRun with
  | nil => rfl
  | cons run parts ih =>
    have hne : run ≠ [] := h.nonempty run (by simp)
    have hchars := fun c (hc : c ∈ run) =>
      isExcluded_eq_isExcludedRun (h.uniform run (by simp)) hc
    rw [List.flatten_cons, List.flatMap_cons, shownRun]
    cases hkind : isExcludedRun run with
    | false =>
      rw [hkind] at hchars
      rw [collapseFrom_significant hne hchars, ih h.tail false (by simp)]
      rfl
    | true =>
      rw [hkind] at hchars
      have hopen : inRun = false := by
        rw [Bool.eq_false_iff]
        intro hinRun
        have := hfirst hinRun run (by simp)
        rw [hkind] at this
        cases this
      have hnext : ∀ next ∈ parts.head?, isExcludedRun next = false := by
        intro next hnext
        have hdiffer := h.inTurn.rel_head? hnext
        rw [hkind] at hdiffer
        exact Bool.eq_false_iff.mpr hdiffer.symm
      rw [collapseFrom_run hne hchars, ih h.tail true fun _ => hnext, hopen]
      rfl

theorem length_flatMap_shownRun (h : AreMaximal parts) :
    (parts.flatMap shownRun).length =
      parts.flatten.countP (fun c => !isExcluded c) + parts.countP isExcludedRun := by
  induction parts with
  | nil => rfl
  | cons run parts ih =>
    have hchars := fun c (hc : c ∈ run) =>
      isExcluded_eq_isExcludedRun (h.uniform run (by simp)) hc
    rw [List.flatMap_cons, List.flatten_cons, List.length_append, ih h.tail, List.countP_append,
      List.countP_cons, shownRun]
    cases hkind : isExcludedRun run with
    | false =>
      have hcount : run.countP (fun c => !isExcluded c) = run.length :=
        List.countP_eq_length.mpr fun c hc => by rw [hchars c hc, hkind]; rfl
      rw [hcount]
      simp
      omega
    | true =>
      have hcount : run.countP (fun c => !isExcluded c) = 0 :=
        List.countP_eq_zero.mpr fun c hc => by rw [hchars c hc, hkind]; simp
      rw [hcount]
      simp
      omega

/-! ### Replacing what a pattern matches -/

/-- The characters that mean something in a pattern, unless a backslash stands before them. -/
def patternSymbols : List Char :=
  ['\\', '.', '+', '*', '?', '(', ')', '|', '[', ']', '{', '}', '^', '$', '#', '&', '-', '~']

def escapedSymbol (c : Char) : List Char := if patternSymbols.contains c then ['\\', c] else [c]

/-- Matches runs of the excluded symbols, escaped, and of blank characters. -/
def runPattern : List Char :=
  '[' :: excludedSymbols.flatMap escapedSymbol ++ ['\\', 's', ']', '+']

/-- What stands in the brackets of a pattern: a character, or the class of all blank ones. -/
inductive SetItem
  | character (c : Char)
  | blank
  deriving DecidableEq, Repr

def SetItem.holds (c : Char) : SetItem → Bool
  | character d => c = d
  | blank => Text.isBlank c

def readSet? : List Char → Option (List SetItem × List Char)
  | [] => none
  | ']' :: rest => some ([], rest)
  | '\\' :: 's' :: rest => (readSet? rest).map fun read => (.blank :: read.1, read.2)
  | '\\' :: c :: rest =>
    if patternSymbols.contains c then
      (readSet? rest).map fun read => (.character c :: read.1, read.2)
    else none
  | c :: rest =>
    if patternSymbols.contains c then none
    else (readSet? rest).map fun read => (.character c :: read.1, read.2)

/-- Writes a text in the place of each match of a set that is repeated, from left to right. A match
goes on as long as it can. -/
def replaceRepeated (holds : Char → Bool) (replacement text : List Char) : List Char :=
  match text with
  | [] => []
  | c :: rest =>
    if holds c then replacement ++ replaceRepeated holds replacement (rest.dropWhile holds)
    else c :: replaceRepeated holds replacement rest
termination_by text.length
decreasing_by
  · exact Nat.lt_succ_of_le (List.dropWhile_sublist _).length_le
  · simp

/-- Escaped characters are items of their own, whatever they are. -/
theorem readSet?_escaped (symbols rest : List Char) :
    readSet? (symbols.flatMap escapedSymbol ++ rest) =
      (readSet? rest).map fun read => (symbols.map .character ++ read.1, read.2) := by
  induction symbols with
  | nil => simp
  | cons c symbols ih =>
    rw [List.flatMap_cons, List.append_assoc, escapedSymbol]
    by_cases hc : patternSymbols.contains c = true
    · have hblank : c ≠ 's' := by
        rintro rfl
        exact absurd hc (by decide)
      rw [if_pos hc, List.cons_append, List.singleton_append, readSet?, if_pos hc, ih]
      · simp [Option.map_map, Function.comp_def]
      · rintro rfl
        exact hblank rfl
    · have hplain : c ≠ ']' ∧ c ≠ '\\' := by
        constructor <;> rintro rfl <;> exact hc (by decide)
      rw [if_neg hc, List.singleton_append, readSet?, if_neg hc, ih]
      · simp [Option.map_map, Function.comp_def]
      · simp [hplain]
      · simp [hplain]
      · simp [hplain]

theorem readSet?_runPattern : readSet? (runPattern.drop 1) =
    some (excludedSymbols.map .character ++ [.blank], ['+']) := by
  change readSet? (excludedSymbols.flatMap escapedSymbol ++ ['\\', 's', ']', '+']) = _
  rw [readSet?_escaped]
  rfl

theorem holds_eq_isExcluded (c : Char) :
    (excludedSymbols.map SetItem.character ++ [SetItem.blank]).any (SetItem.holds c) =
      isExcluded c := by
  have hsymbols : (excludedSymbols.map SetItem.character).any (SetItem.holds c) =
      excludedSymbols.contains c := by
    rw [List.any_map, List.contains_eq_any_beq]
    rfl
  rw [List.any_append, hsymbols, isExcluded, Bool.or_comm, List.any_cons, List.any_nil,
    Bool.or_false, SetItem.holds]

/-- A match is what collapsing takes for one run. -/
theorem replaceRepeated_eq_collapse (text : List Char) :
    replaceRepeated isExcluded [separator] text = collapse text := by
  fun_induction replaceRepeated isExcluded [separator] text with
  | case1 => rfl
  | case2 c rest hc ih =>
    have hstop : (rest.dropWhile isExcluded).head?.any isExcluded = false := by
      have hnot := List.head?_dropWhile_not isExcluded rest
      cases hhead : (rest.dropWhile isExcluded).head? with
      | none => rfl
      | some d => simpa [hhead] using hnot
    have hrun : ∀ d ∈ rest.takeWhile isExcluded, isExcluded d = true := fun d hd =>
      List.mem_takeWhile_imp hd
    calc [separator] ++ replaceRepeated isExcluded [separator] (rest.dropWhile isExcluded)
        = separator :: collapse (rest.dropWhile isExcluded) := by rw [ih, List.singleton_append]
      _ = separator :: collapseFrom true rest := by
        rw [← collapseFrom_true_eq hstop, ← collapseFrom_true_run hrun,
          List.takeWhile_append_dropWhile]
      _ = collapse (c :: rest) := (collapseFrom_false_excluded hc rest).symm
  | case3 c rest hc ih =>
    have hsignificant : isExcluded c = false := by simpa using hc
    rw [ih, collapse, collapse, collapseFrom_cons hsignificant]

/-! ### Keys -/

/-- A key shows the maximal runs of the lower case one by one: excluded characters as one separator,
at the ends too, and others as they are. Replacing the matches of the pattern gives the same. -/
theorem key_runs (text : List Char) :
    (∀ parts, runs (lowercase text) = parts ↔
      parts.flatten = lowercase text ∧ AreMaximal parts) ∧
    key text = (runs (lowercase text)).flatMap (fun run =>
      if run.all isExcluded then ['-'] else run) ∧
    (key text).length = (lowercase text).countP (fun c => !isExcluded c) +
      (runs (lowercase text)).countP (fun run => run.all isExcluded) ∧
    ∃ set, readSet? (runPattern.drop 1) = some (set, ['+']) ∧
      (∀ c, set.any (SetItem.holds c) = isExcluded c) ∧
      key text = replaceRepeated (fun c => set.any (SetItem.holds c)) ['-'] (lowercase text) := by
  obtain ⟨hflatten, hmaximal⟩ := runs_eq_iff.mp (Eq.refl (runs (lowercase text)))
  have hkey : key text = (runs (lowercase text)).flatMap shownRun := by
    rw [key, collapse, ← collapseFrom_flatten hmaximal false (by simp), hflatten]
  refine ⟨fun parts => runs_eq_iff, hkey, ?_, _, readSet?_runPattern, holds_eq_isExcluded, ?_⟩
  · have hlength := length_flatMap_shownRun hmaximal
    rw [hflatten, ← hkey] at hlength
    exact hlength
  · rw [funext holds_eq_isExcluded]
    exact (replaceRepeated_eq_collapse (lowercase text)).symm

end DialogueScript.Name
