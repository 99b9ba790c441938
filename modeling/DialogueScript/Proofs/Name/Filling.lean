import DialogueScript.Proofs.Name.Key
import DialogueScript.Proofs.Text.Sigma

/-! # What fills a run of excluded characters

A key shows that excluded characters stand in a place and not which ones. They show through in the
letters beside them all the same: marks hide no letter from a capital sigma, other excluded
characters do. -/
namespace DialogueScript.Name
open Text (isCased isCaseIgnorable meetsCased reachesCased lowerBetween lowercase Lowered IsLowering
  EndsInSigma BeginsInSigma)

/-- The excluded characters that a capital sigma looks through. -/
def transparentSymbols : List Char := ['\x27', '.', ':', '\x60']

theorem isCased_of_isExcluded {c : Char} (h : isExcluded c = true) : isCased c = false := by
  rw [Bool.eq_false_iff]
  intro hcased
  have hword := isWordCharacter_of_isExcluded h
  rw [Text.isWordCharacter_of_isCased hcased] at hword
  cases hword

theorem symbols_isCaseIgnorable :
    (excludedSymbols.all fun c => isCaseIgnorable c == transparentSymbols.contains c) = true := by
  decide +kernel

theorem isCaseIgnorable_of_isExcluded {c : Char} (h : isExcluded c = true) :
    isCaseIgnorable c = true ↔ c ∈ transparentSymbols := by
  rw [isExcluded, Bool.or_eq_true] at h
  rcases h with hblank | hsymbol
  · have hsymbols : transparentSymbols.all (fun c => !Text.isBlank c) = true := by decide
    rw [Text.isCaseIgnorable_of_isBlank hblank]
    refine ⟨fun htrue => (by cases htrue), fun hmem => ?_⟩
    have := List.all_eq_true.mp hsymbols c hmem
    simp [hblank] at this
  · have := List.all_eq_true.mp symbols_isCaseIgnorable c (List.contains_iff_mem.mp hsymbol)
    rw [beq_iff_eq] at this
    rw [this, List.contains_iff_mem]

/-- Whether both texts are made of transparent characters alone, or neither is. -/
def IsFilledAlike (fill other : List Char) : Prop :=
  (∀ c ∈ fill, c ∈ transparentSymbols) ↔ ∀ c ∈ other, c ∈ transparentSymbols

theorem isFilledAlike_iff {fill other : List Char} (hfill : ∀ c ∈ fill, isExcluded c = true)
    (hother : ∀ c ∈ other, isExcluded c = true) :
    IsFilledAlike fill other ↔ fill.all isCaseIgnorable = other.all isCaseIgnorable := by
  have hall : ∀ run : List Char, (∀ c ∈ run, isExcluded c = true) →
      (run.all isCaseIgnorable = true ↔ ∀ c ∈ run, c ∈ transparentSymbols) := by
    intro run hrun
    rw [List.all_eq_true]
    exact forall₂_congr fun c hc => isCaseIgnorable_of_isExcluded (hrun c hc)
  rw [Bool.eq_iff_iff, hall fill hfill, hall other hother, IsFilledAlike]

/-- Excluded characters let through what follows if they are all transparent; otherwise no letter
follows. -/
theorem reachesCased_of_isExcluded {run : List Char} (hrun : ∀ c ∈ run, isExcluded c = true)
    (followed : Bool) : reachesCased followed run = (run.all isCaseIgnorable && followed) := by
  induction run with
  | nil => simp [reachesCased]
  | cons c run ih =>
    rw [reachesCased, ih fun d hd => hrun d (by simp [hd]), isCased_of_isExcluded (hrun c (by simp)),
      List.all_cons]
    cases isCaseIgnorable c <;> simp

theorem eq_self_of_lowered {run lower : List Char} (h : Lowered run lower)
    (hrun : ∀ c ∈ run, isExcluded c = true) : lower = run := by
  induction h with
  | nil => rfl
  | @cons c cs rest lowerRest first others ih =>
    rw [first.eq_of_not_word (isWordCharacter_of_isExcluded (hrun c (by simp))),
      ih fun d hd => hrun d (by simp [hd]), List.singleton_append]

/-- Lower case looks at what fills a run only to see whether all of it is transparent. -/
theorem lowercase_filled (before after : List Char) {run : List Char}
    (hrun : ∀ c ∈ run, isExcluded c = true) :
    lowercase (before ++ run ++ after) =
      lowerBetween false (run.all isCaseIgnorable && meetsCased after) before ++ run ++
        lowerBetween (run.all isCaseIgnorable && meetsCased before.reverse) false after := by
  have hreverse : ∀ c ∈ run.reverse, isExcluded c = true := by simpa using hrun
  have hself := eq_self_of_lowered
    (Text.lowered_lowerBetween (reachesCased false before.reverse) (reachesCased false after) run) hrun
  rw [lowercase, ← Text.lowerBetween_false, List.append_assoc, Text.lowerBetween_append,
    Text.lowerBetween_append, hself, Text.reachesCased_append, reachesCased_of_isExcluded hrun,
    reachesCased_of_isExcluded hreverse, List.all_reverse, Text.reachesCased_false,
    Text.reachesCased_false, List.append_assoc]

/-! ### Collapsing two texts of one shape -/

/-- Whether a run of excluded characters reaches out of a text at its end. -/
def endsInRun (inRun : Bool) : List Char → Bool
  | [] => inRun
  | c :: rest => endsInRun (isExcluded c) rest

theorem collapseFrom_append (inRun : Bool) (text rest : List Char) :
    collapseFrom inRun (text ++ rest) =
      collapseFrom inRun text ++ collapseFrom (endsInRun inRun text) rest := by
  induction text generalizing inRun with
  | nil => rfl
  | cons c text ih =>
    rw [List.cons_append, endsInRun]
    cases hc : isExcluded c with
    | false => rw [collapseFrom_cons hc, collapseFrom_cons hc, ih, List.cons_append]
    | true =>
      cases inRun with
      | false =>
        rw [collapseFrom_false_excluded hc, collapseFrom_false_excluded hc, ih, List.cons_append]
      | true => rw [collapseFrom_true_excluded hc, collapseFrom_true_excluded hc, ih]

theorem collapseFrom_true_run {run : List Char} (hrun : ∀ c ∈ run, isExcluded c = true)
    (rest : List Char) : collapseFrom true (run ++ rest) = collapseFrom true rest := by
  induction run with
  | nil => rfl
  | cons c run ih =>
    rw [List.cons_append, collapseFrom_true_excluded (hrun c (by simp))]
    exact ih fun d hd => hrun d (by simp [hd])

/-- All that is seen of a run is that there is one. -/
theorem collapseFrom_run {run : List Char} (hne : run ≠ [])
    (hrun : ∀ c ∈ run, isExcluded c = true) (inRun : Bool) (rest : List Char) :
    collapseFrom inRun (run ++ rest) =
      (if inRun then [] else [separator]) ++ collapseFrom true rest := by
  cases run with
  | nil => exact absurd rfl hne
  | cons c run =>
    have hc : isExcluded c = true := hrun c (by simp)
    have hrest : collapseFrom true (run ++ rest) = collapseFrom true rest :=
      collapseFrom_true_run (fun d hd => hrun d (by simp [hd])) rest
    cases inRun with
    | false => rw [List.cons_append, collapseFrom_false_excluded hc, hrest]; rfl
    | true => rw [List.cons_append, collapseFrom_true_excluded hc, hrest]; rfl

def IsAlike (c d : Char) : Prop :=
  isExcluded c = isExcluded d ∧ (isExcluded c = true → c = d)

theorem isAlike_refl (text : List Char) : List.Forall₂ IsAlike text text :=
  List.forall₂_same.mpr fun _ _ => ⟨rfl, fun _ => rfl⟩

theorem isAlike_of_isLowering {c : Char} {lower other : List Char} (h : IsLowering c lower)
    (hother : IsLowering c other) : List.Forall₂ IsAlike lower other := by
  have hsigmas : IsAlike 'σ' 'ς' ∧ IsAlike 'ς' 'σ' := by
    unfold IsAlike
    decide
  rcases h with rfl | ⟨rfl, rfl⟩ <;> rcases hother with rfl | ⟨hc, rfl⟩
  · exact isAlike_refl _
  · rw [hc, Text.lowerCharacter_sigma]
    exact List.Forall₂.cons hsigmas.1 List.Forall₂.nil
  · rw [Text.lowerCharacter_sigma]
    exact List.Forall₂.cons hsigmas.2 List.Forall₂.nil
  · exact isAlike_refl _

/-- Two lower cases of a text differ in their sigmas at most. -/
theorem isAlike_of_lowered {text lower other : List Char} (h : Lowered text lower)
    (hother : Lowered text other) : List.Forall₂ IsAlike lower other := by
  induction h generalizing other with
  | nil =>
    cases hother
    exact List.Forall₂.nil
  | cons first others ih =>
    cases hother with
    | cons first' others' => exact List.rel_append (isAlike_of_isLowering first first') (ih others')

theorem endsInRun_eq_of_isAlike {text other : List Char} (h : List.Forall₂ IsAlike text other)
    (inRun : Bool) : endsInRun inRun text = endsInRun inRun other := by
  induction h generalizing inRun with
  | nil => rfl
  | cons hcd _ ih => rw [endsInRun, endsInRun, hcd.1, ih]

theorem length_collapseFrom_eq_of_isAlike {text other : List Char}
    (h : List.Forall₂ IsAlike text other) (inRun : Bool) :
    (collapseFrom inRun text).length = (collapseFrom inRun other).length := by
  induction h generalizing inRun with
  | nil => rfl
  | @cons c d rest others hcd _ ih =>
    rw [collapseFrom, collapseFrom, hcd.1]
    split_ifs <;> simp [ih]

theorem collapseFrom_eq_iff_of_isAlike {text other : List Char}
    (h : List.Forall₂ IsAlike text other) (inRun : Bool) :
    collapseFrom inRun text = collapseFrom inRun other ↔ text = other := by
  induction h generalizing inRun with
  | nil => simp
  | @cons c d rest others hcd _ ih =>
    rw [collapseFrom, collapseFrom, hcd.1]
    cases hd : isExcluded d with
    | false => simp [ih]
    | true =>
      have hsame : c = d := hcd.2 (hcd.1.trans hd)
      cases inRun <;> simp [ih, hsame]

/-- What fills a run does not show in a collapsed text, and all else shows. -/
theorem collapse_filled_eq_iff {before before' after after' fill other : List Char}
    (hbefore : List.Forall₂ IsAlike before before') (hafter : List.Forall₂ IsAlike after after')
    (hne : fill ≠ []) (hfill : ∀ c ∈ fill, isExcluded c = true) (hne' : other ≠ [])
    (hother : ∀ c ∈ other, isExcluded c = true) :
    collapse (before ++ fill ++ after) = collapse (before' ++ other ++ after') ↔
      before = before' ∧ after = after' := by
  rw [← collapseFrom_eq_iff_of_isAlike hbefore false, ← collapseFrom_eq_iff_of_isAlike hafter true,
    collapse, collapse, List.append_assoc, List.append_assoc,
    collapseFrom_append false before (fill ++ after),
    collapseFrom_append false before' (other ++ after'), collapseFrom_run hne hfill,
    collapseFrom_run hne' hother, endsInRun_eq_of_isAlike hbefore]
  constructor
  · intro h
    obtain ⟨hsame, hrest⟩ := List.append_inj h (length_collapseFrom_eq_of_isAlike hbefore false)
    exact ⟨hsame, List.append_cancel_left hrest⟩
  · rintro ⟨hsame, hrest⟩
    rw [hsame, hrest]

/-! ### The key of a filled text -/

/-- A capital sigma stands beside the place between two texts, marks aside, and what is beyond the
place decides whether it ends a word: a letter precedes it, and the first letter that could follow
it lies beyond; or none follows it, and the letter that could precede it lies beyond. -/
def HasOpenSigma (before after : List Char) : Prop :=
  EndsInSigma false before ∧ meetsCased after = true ∨
    BeginsInSigma false after ∧ meetsCased before.reverse = true

/-- What depends on a bit only under a condition is the same for two bits, each masked by a third,
if they agree or the condition or the mask is not there. -/
theorem eq_iff_of_true_eq_false_iff {α : Type} {f : Bool → α} {condition : Prop}
    (h : f true = f false ↔ ¬condition) (bit other mask : Bool) :
    f (bit && mask) = f (other && mask) ↔ bit = other ∨ ¬(condition ∧ mask = true) := by
  have hsymm : f false = f true ↔ ¬condition := by rw [eq_comm, h]
  cases mask with
  | false => simp
  | true => cases bit <;> cases other <;> simp [h, hsymm]

/-- Two fillings make one key exactly if they are both transparent or both not, or no sigma is
open. -/
theorem key_filled_eq_iff (before after : List Char) {fill other : List Char} (hne : fill ≠ [])
    (hfill : ∀ c ∈ fill, isExcluded c = true) (hne' : other ≠ [])
    (hother : ∀ c ∈ other, isExcluded c = true) :
    key (before ++ fill ++ after) = key (before ++ other ++ after) ↔
      IsFilledAlike fill other ∨ ¬HasOpenSigma before after := by
  have hbefore := eq_iff_of_true_eq_false_iff (f := fun bit => lowerBetween false bit before)
    (Text.lowerBetween_followed_eq_iff false before)
    (fill.all isCaseIgnorable) (other.all isCaseIgnorable) (meetsCased after)
  have hafter := eq_iff_of_true_eq_false_iff (f := fun bit => lowerBetween bit false after)
    (Text.lowerBetween_preceded_eq_iff false after)
    (fill.all isCaseIgnorable) (other.all isCaseIgnorable) (meetsCased before.reverse)
  -- The bits change no more than sigmas, so both keys have the shape that collapsing tells apart.
  have halike : ∀ (preceded preceded' followed followed' : Bool) (text : List Char),
      List.Forall₂ IsAlike (lowerBetween preceded followed text)
        (lowerBetween preceded' followed' text) := fun _ _ _ _ _ =>
    isAlike_of_lowered (Text.lowered_lowerBetween _ _ _) (Text.lowered_lowerBetween _ _ _)
  rw [key, key, lowercase_filled before after hfill, lowercase_filled before after hother,
    collapse_filled_eq_iff (halike _ _ _ _ _) (halike _ _ _ _ _) hne hfill hne' hother, hbefore,
    hafter, isFilledAlike_iff hfill hother, HasOpenSigma, not_or, or_and_left]

end DialogueScript.Name
