import DialogueScript.Proofs.Identifier.SameName

/-! # Joining names

Two names with excluded characters between them make a name. With blank characters between them the
key of the whole is the keys of the two with a separator between them: no letter looks through a
blank, so neither name shows in the lower case of the other. -/
namespace DialogueScript

namespace Name
open Text (isCaseIgnorable lowercase Lowered IsLowering)

variable {run : List Char}

/-! ### Words on both sides of a run -/

theorem words_append_run (hne : run ≠ []) (hrun : ∀ c ∈ run, isExcluded c = true)
    (before after : List Char) : words (before ++ run ++ after) = words before ++ words after := by
  have hskip : ∀ rest : List Char, (∀ c ∈ rest, isExcluded c = true) →
      words (rest ++ after) = words after := by
    intro rest hrest
    induction rest with
    | nil => rfl
    | cons c rest ih =>
      rw [List.cons_append, words_cons_gap (isWordCharacter_of_isExcluded (hrest c (by simp)))]
      exact ih fun d hd => hrest d (by simp [hd])
  obtain ⟨c, rest, rfl⟩ := List.exists_cons_of_ne_nil hne
  rw [List.append_assoc, List.cons_append,
    words_append_gap (isWordCharacter_of_isExcluded (hrun c (by simp))),
    hskip rest fun d hd => hrun d (by simp [hd])]

/-- No reserved word arises where two texts are joined. -/
theorem holdsReserved_joined_iff (hne : run ≠ []) (hrun : ∀ c ∈ run, isExcluded c = true)
    (before after : List Char) :
    HoldsReserved (before ++ run ++ after) ↔ HoldsReserved before ∨ HoldsReserved after := by
  simp only [holdsReserved_iff, words_append_run hne hrun, List.mem_append, or_and_right,
    exists_or]

/-! ### The key of a joined text -/

theorem isExcluded_of_isLowering {c d : Char} {lower : List Char} (h : IsLowering c lower)
    (hd : d ∈ lower) : isExcluded d = isExcluded c := by
  cases hc : Text.isWordCharacter c with
  | false =>
    rw [h.eq_of_not_word hc, List.mem_singleton] at hd
    rw [hd]
  | true =>
    have hword := h.isWordCharacter hd
    rw [hc] at hword
    rw [isExcluded_of_isWordCharacter hword, isExcluded_of_isWordCharacter hc]

theorem endsInRun_of_forall {text : List Char} (hne : text ≠ []) {excluded : Bool}
    (h : ∀ c ∈ text, isExcluded c = excluded) (inRun : Bool) : endsInRun inRun text = excluded := by
  induction text generalizing inRun with
  | nil => exact absurd rfl hne
  | cons c rest ih =>
    rw [endsInRun, h c (by simp)]
    cases rest with
    | nil => rfl
    | cons d rest => exact ih (by simp) (fun e he => h e (by simp [he])) excluded

theorem endsInRun_append (inRun : Bool) (text rest : List Char) :
    endsInRun inRun (text ++ rest) = endsInRun (endsInRun inRun text) rest := by
  induction text generalizing inRun with
  | nil => rfl
  | cons c text ih => rw [List.cons_append, endsInRun, ih, endsInRun]

theorem endsInRun_of_lowered {text lower : List Char} (h : Lowered text lower) (inRun : Bool) :
    endsInRun inRun lower = endsInRun inRun text := by
  induction h generalizing inRun with
  | nil => rfl
  | cons first others ih =>
    rw [endsInRun_append,
      endsInRun_of_forall first.ne_nil (fun _ hd => isExcluded_of_isLowering first hd), ih,
      endsInRun]

theorem endsInRun_eq_any_getLast? (text : List Char) :
    endsInRun false text = text.getLast?.any isExcluded := by
  cases text using List.reverseRecOn with
  | nil => rfl
  | append_singleton text c => simp [endsInRun_append, endsInRun]

theorem any_head?_of_lowered {text lower : List Char} (h : Lowered text lower) :
    lower.head?.any isExcluded = text.head?.any isExcluded := by
  cases h with
  | nil => rfl
  | cons first others =>
    obtain ⟨d, tail, rfl⟩ := List.exists_cons_of_ne_nil first.ne_nil
    exact isExcluded_of_isLowering first (by simp)

/-- A character that no letter looks through keeps the lower cases on its two sides apart. -/
theorem lowercase_joined (hrun : ∀ c ∈ run, isExcluded c = true)
    (hbarrier : ∃ c ∈ run, isCaseIgnorable c = false) (before after : List Char) :
    lowercase (before ++ run ++ after) = lowercase before ++ run ++ lowercase after := by
  have hall : run.all isCaseIgnorable = false := by simpa using hbarrier
  rw [lowercase_filled before after hrun, hall, Bool.false_and, Bool.false_and,
    Text.lowerBetween_false, Text.lowerBetween_false, lowercase, lowercase]

theorem key_joined (hrun : ∀ c ∈ run, isExcluded c = true)
    (hbarrier : ∃ c ∈ run, isCaseIgnorable c = false) {before after : List Char}
    (hbefore : before.getLast?.any isExcluded = false)
    (hafter : after.head?.any isExcluded = false) :
    key (before ++ run ++ after) = key before ++ separator :: key after := by
  have hne : run ≠ [] := by
    obtain ⟨c, hc, -⟩ := hbarrier
    exact List.ne_nil_of_mem hc
  -- Between two names that do not border on the run, the run is collapsed on its own.
  have hends : endsInRun false (lowercase before) = false := by
    rw [endsInRun_of_lowered (Text.lowered_lowercase before), endsInRun_eq_any_getLast?, hbefore]
  have hstarts : (lowercase after).head?.any isExcluded = false := by
    rw [any_head?_of_lowered (Text.lowered_lowercase after), hafter]
  calc key (before ++ run ++ after)
      = collapse (lowercase before ++ (run ++ lowercase after)) := by
        rw [key, lowercase_joined hrun hbarrier, List.append_assoc]
    _ = collapse (lowercase before) ++ collapseFrom false (run ++ lowercase after) := by
        rw [collapse, collapseFrom_append, hends, collapse]
    _ = collapse (lowercase before) ++ separator :: collapseFrom true (lowercase after) := by
        rw [collapseFrom_run hne hrun]
        rfl
    _ = key before ++ separator :: key after := by
        rw [collapseFrom_true_eq hstarts, key, key]

end Name

namespace Identifier

variable {text other run : List Char}

theorem hasOuterBlank_joined (htext : text ≠ []) (hother : other ≠ []) :
    Text.hasOuterBlank (text ++ run ++ other) =
      (text.head?.any Text.isBlank || other.getLast?.any Text.isBlank) := by
  rw [Text.hasOuterBlank, List.getLast?_append_of_ne_nil _ hother, List.append_assoc,
    List.head?_append_of_ne_nil _ htext]

/-- Two names with excluded characters between them keep the rules of names, wherever the line has
room for them. -/
theorem KeepsRules.joined {column column' place : Nat} (h : KeepsRules text column)
    (h' : KeepsRules other column') (hne : run ≠ [])
    (hrun : ∀ c ∈ run, Name.isExcluded c = true) (hone : 1 ≤ place)
    (hroom : place + (text ++ run ++ other).length - 1 ≤ lastColumn) :
    KeepsRules (text ++ run ++ other) place where
  noOuterBlank := by
    obtain ⟨c, hc, -⟩ := h.significant
    obtain ⟨d, hd, -⟩ := h'.significant
    have hbegin : Text.hasOuterBlank text = false :=
      Bool.eq_false_iff.mpr fun hblank => h.noOuterBlank (hasOuterBlank_iff.mp hblank)
    have hend : Text.hasOuterBlank other = false :=
      Bool.eq_false_iff.mpr fun hblank => h'.noOuterBlank (hasOuterBlank_iff.mp hblank)
    rw [Text.hasOuterBlank, Bool.or_eq_false_iff] at hbegin hend
    rw [← hasOuterBlank_iff, hasOuterBlank_joined (List.ne_nil_of_mem hc) (List.ne_nil_of_mem hd),
      hbegin.1, hend.2]
    simp
  noReservedWord := by
    rw [Name.holdsReserved_joined_iff hne hrun]
    rintro (hreserved | hreserved)
    · exact h.noReservedWord hreserved
    · exact h'.noReservedWord hreserved
  noDisallowed := by
    intro c hc
    rcases List.mem_append.mp hc with hc | hc
    · rcases List.mem_append.mp hc with hc | hc
      · exact h.noDisallowed c hc
      · rw [← isDisallowed_iff, Name.isDisallowed_of_isExcluded (hrun c hc)]
        simp
    · exact h'.noDisallowed c hc
  significant := by
    obtain ⟨c, hc, hsignificant⟩ := h.significant
    exact ⟨c, by simp [hc], hsignificant⟩
  fromOne := hone
  room := hroom

/-- Two identifiers with excluded characters between them make an identifier, in every place that
has room for it. If these are blanks, and neither name has excluded characters beside them, its key
is the two keys with a separator between them. -/
theorem ofText_joined {verbatim verbatim' : String} {column column' : Nat} {a b : Identifier}
    (ha : ofText verbatim column = .ok a) (hb : ofText verbatim' column' = .ok b) {fill : String}
    (hne : fill.toList ≠ []) (hfill : ∀ c ∈ fill.toList, Name.isExcluded c = true) {place : Nat}
    (hone : 1 ≤ place)
    (hroom : place + (a.verbatim ++ fill ++ b.verbatim).length - 1 ≤ lastColumn) :
    ∃ joined, ofText (a.verbatim ++ fill ++ b.verbatim) place = .ok joined ∧
      ((∀ c ∈ fill.toList, Text.isBlank c = true) →
        a.verbatim.toList.getLast?.any Name.isExcluded = false →
        b.verbatim.toList.head?.any Name.isExcluded = false →
          joined.key = a.key ++ "-" ++ b.key) := by
  obtain ⟨hkeeps, rfl⟩ := ofText_eq_ok_iff.mp ha
  obtain ⟨hkeeps', rfl⟩ := ofText_eq_ok_iff.mp hb
  simp only [written] at hroom ⊢
  have htext : (verbatim ++ fill ++ verbatim').toList =
      verbatim.toList ++ fill.toList ++ verbatim'.toList := by
    rw [String.toList_append, String.toList_append]
  have hjoined : KeepsRules (verbatim ++ fill ++ verbatim').toList place := by
    rw [htext]
    refine hkeeps.joined hkeeps' hne hfill hone ?_
    rwa [← htext]
  refine ⟨_, ofText_eq_ok_iff.mpr ⟨hjoined, rfl⟩, fun hblank hbefore hafter => ?_⟩
  obtain ⟨c, hc⟩ := List.exists_mem_of_ne_nil _ hne
  have hkey := Name.key_joined hfill ⟨c, hc, Text.isCaseIgnorable_of_isBlank (hblank c hc)⟩
    hbefore hafter
  rw [written, htext, hkey, ← String.toList_inj]
  simp [Name.separator]

/-- The sigma that ends the first name stays final, with a letter behind the blanks. -/
theorem ofText_joined_sigma :
    ofText "ΑΣ" 1 = .ok ⟨"ΑΣ", "ας", ⟨1, 2⟩⟩ ∧ ofText "Mr. Ω" 7 = .ok ⟨"Mr. Ω", "mr-ω", ⟨7, 11⟩⟩ ∧
      (∀ c ∈ " \u2028\t".toList, Text.isBlank c = true) ∧
      ofText ("ΑΣ" ++ " \u2028\t" ++ "Mr. Ω") 18446744073709551606 =
        .ok ⟨"ΑΣ \u2028\tMr. Ω", "ας-mr-ω", ⟨18446744073709551606, 18446744073709551615⟩⟩ ∧
      "ας-mr-ω" = "ας" ++ "-" ++ "mr-ω" := by
  have ha : ofText "ΑΣ" 1 = .ok ⟨"ΑΣ", "ας", ⟨1, 2⟩⟩ := by decide +kernel
  have hb : ofText "Mr. Ω" 7 = .ok ⟨"Mr. Ω", "mr-ω", ⟨7, 11⟩⟩ := by decide +kernel
  have hblank : " \u2028\t".toList.all Text.isBlank = true := by decide +kernel
  have hexcluded : " \u2028\t".toList.all Name.isExcluded = true := by decide +kernel
  have hroom : 18446744073709551606 + ("ΑΣ" ++ " \u2028\t" ++ "Mr. Ω").length - 1 ≤ lastColumn := by
    decide
  have hjoined : ofText ("ΑΣ" ++ " \u2028\t" ++ "Mr. Ω") 18446744073709551606 =
      .ok ⟨"ΑΣ \u2028\tMr. Ω", "ας-mr-ω", ⟨18446744073709551606, 18446744073709551615⟩⟩ := by
    decide +kernel
  obtain ⟨joined, hfound, hkey⟩ :=
    ofText_joined ha hb (by decide) (List.all_eq_true.mp hexcluded) (by decide) hroom
  obtain rfl := Except.ok.inj (hjoined.symm.trans hfound)
  exact ⟨ha, hb, List.all_eq_true.mp hblank, hjoined,
    hkey (List.all_eq_true.mp hblank) (by decide +kernel) (by decide +kernel)⟩

end Identifier

end DialogueScript
