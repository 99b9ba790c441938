import DialogueScript.Proofs.Identifier.Rules
import DialogueScript.Proofs.Name.Filling

/-! # Spellings of one name

The key of an identifier is a spelling of its name, the one that is its own key. -/
namespace DialogueScript.Identifier

variable {text : List Char} {column : Nat}

theorem not_hasOuterBlank_key (text : List Char) : ¬HasOuterBlank (Name.key text) := by
  rintro ⟨c, rest, hblank, htext⟩
  have hmem : c ∈ Name.key text := by
    rcases htext with htext | htext <;> simp [htext]
  rw [Name.isBlank_of_mem_key hmem] at hblank
  cases hblank

/-- The key of a name keeps the rules of names, wherever the line has room for it. -/
theorem KeepsRules.key (h : KeepsRules text column) {column' : Nat} (hone : 1 ≤ column')
    (hroom : column' + (Name.key text).length - 1 ≤ lastColumn) :
    KeepsRules (Name.key text) column' where
  noOuterBlank := not_hasOuterBlank_key text
  noReservedWord := by
    rw [← Name.reservedIn?_eq_none_iff, Name.reservedIn?_key,
      Name.reservedIn?_eq_none_iff.mpr h.noReservedWord]
    rfl
  noDisallowed := by
    rw [← disallowedIn?_eq_none_iff, Name.disallowedIn?_key]
    exact disallowedIn?_eq_none_iff.mpr h.noDisallowed
  significant := by
    obtain ⟨c, hc, -⟩ := h.significant
    have hne : Name.key text ≠ [] := Name.key_ne_nil (List.ne_nil_of_mem hc)
    obtain ⟨d, hd⟩ := List.exists_mem_of_ne_nil _ hne
    exact ⟨d, hd, Name.isExcluded_of_mem_key hd⟩
  fromOne := hone
  room := hroom

/-- The key of an identifier makes an identifier, in every place that has room for it. That one is
its own key and has the same name. -/
theorem ofText_key {verbatim : String} {identifier : Identifier}
    (h : ofText verbatim column = .ok identifier) {column' : Nat} (hone : 1 ≤ column')
    (hroom : column' + identifier.key.length - 1 ≤ lastColumn) :
    ∃ plain, ofText identifier.key column' = .ok plain ∧ plain.verbatim = identifier.key ∧
      plain.key = plain.verbatim ∧ isSameName plain identifier = true := by
  obtain ⟨hkeeps, rfl⟩ := ofText_eq_ok_iff.mp h
  have hkey : (written verbatim column).key.toList = Name.key verbatim.toList :=
    String.toList_ofList
  have hself : (written (written verbatim column).key column').key =
      (written verbatim column).key := by
    rw [written, hkey, Name.key_key]
    rfl
  have hplain : KeepsRules (written verbatim column).key.toList column' := by
    rw [hkey]
    refine hkeeps.key hone ?_
    rwa [← hkey]
  refine ⟨_, ofText_eq_ok_iff.mpr ⟨hplain, rfl⟩, rfl, hself, ?_⟩
  rw [isSameName, hself, decide_eq_true_eq]

theorem ofText_key_kelvin :
    ofText "\u212a!\u0130" 3 = .ok ⟨"\u212a!\u0130", "k-i\u0307", ⟨3, 5⟩⟩ ∧
      ∃ plain, ofText "k-i\u0307" 18446744073709551612 = .ok plain ∧
        plain.verbatim = "k-i\u0307" ∧ plain.key = plain.verbatim ∧
          isSameName plain ⟨"\u212a!\u0130", "k-i\u0307", ⟨3, 5⟩⟩ = true := by
  have h : ofText "\u212a!\u0130" 3 = .ok ⟨"\u212a!\u0130", "k-i\u0307", ⟨3, 5⟩⟩ := by
    decide +kernel
  exact ⟨h, ofText_key h (by decide) (by decide)⟩

theorem isSameName_iff {a b : Identifier} {verbatim verbatim' : String} {column' : Nat}
    (ha : ofText verbatim column = .ok a) (hb : ofText verbatim' column' = .ok b) :
    isSameName a b = true ↔ Name.key verbatim.toList = Name.key verbatim'.toList := by
  obtain ⟨-, rfl⟩ := ofText_eq_ok_iff.mp ha
  obtain ⟨-, rfl⟩ := ofText_eq_ok_iff.mp hb
  rw [isSameName, decide_eq_true_eq, written, written, String.ofList_inj]

/-- Two spellings that differ in what fills one run of excluded characters are one name, unless a
capital sigma beside the run looks through one filling and not through the other. -/
theorem isSameName_filled_iff (before after : List Char) {fill other : List Char} (hne : fill ≠ [])
    (hfill : ∀ c ∈ fill, Name.isExcluded c = true) (hne' : other ≠ [])
    (hother : ∀ c ∈ other, Name.isExcluded c = true) :
    (Name.key (before ++ fill ++ after) = Name.key (before ++ other ++ after) ↔
      Name.IsFilledAlike fill other ∨ ¬Name.HasOpenSigma before after) ∧
    ∀ column column' a b, ofText (String.ofList (before ++ fill ++ after)) column = .ok a →
      ofText (String.ofList (before ++ other ++ after)) column' = .ok b →
        (isSameName a b = true ↔
          Name.IsFilledAlike fill other ∨ ¬Name.HasOpenSigma before after) := by
  have hkey := Name.key_filled_eq_iff before after hne hfill hne' hother
  refine ⟨hkey, fun column column' a b ha hb => ?_⟩
  rw [isSameName_iff ha hb, String.toList_ofList, String.toList_ofList, hkey]

theorem isSameName_filled_sigma :
    ofText (String.ofList (['Α', 'Σ'] ++ ['.'] ++ ['Α'])) 1 = .ok ⟨"ΑΣ.Α", "ασ-α", ⟨1, 4⟩⟩ ∧
      ofText (String.ofList (['Α', 'Σ'] ++ [' '] ++ ['Α'])) 1 = .ok ⟨"ΑΣ Α", "ας-α", ⟨1, 4⟩⟩ ∧
      isSameName ⟨"ΑΣ.Α", "ασ-α", ⟨1, 4⟩⟩ ⟨"ΑΣ Α", "ας-α", ⟨1, 4⟩⟩ = false ∧
      ¬(Name.IsFilledAlike ['.'] [' '] ∨ ¬Name.HasOpenSigma ['Α', 'Σ'] ['Α']) := by
  have hpoint : ofText (String.ofList (['Α', 'Σ'] ++ ['.'] ++ ['Α'])) 1 =
      .ok ⟨"ΑΣ.Α", "ασ-α", ⟨1, 4⟩⟩ := by decide +kernel
  have hblank : ofText (String.ofList (['Α', 'Σ'] ++ [' '] ++ ['Α'])) 1 =
      .ok ⟨"ΑΣ Α", "ας-α", ⟨1, 4⟩⟩ := by decide +kernel
  have hdiffer : isSameName ⟨"ΑΣ.Α", "ασ-α", ⟨1, 4⟩⟩ ⟨"ΑΣ Α", "ας-α", ⟨1, 4⟩⟩ = false := by
    decide +kernel
  have hexcluded : [' ', '.'].all Name.isExcluded = true := by decide +kernel
  have hfill := List.all_eq_true.mp hexcluded
  refine ⟨hpoint, hblank, hdiffer, ?_⟩
  rw [← (isSameName_filled_iff ['Α', 'Σ'] ['Α'] (by simp) (fun c hc => hfill c (by simp_all))
    (by simp) (fun c hc => hfill c (by simp_all))).2 1 1 _ _ hpoint hblank, hdiffer]
  simp

end DialogueScript.Identifier
