import Mathlib
import DialogueScript.Entries

/-! # Entries under names

What a list of named entries holds under a name: the first entry that has it. -/
namespace DialogueScript

variable {α : Type} {name other : String} {value : α} {entries : List (String × α)}

theorem lookup_cons_eq_ite (name other : String) (value : α) (entries : List (String × α)) :
    ((name, value) :: entries).lookup other =
      if other = name then some value else entries.lookup other := by
  by_cases h : other = name
  · simp [h]
  · have hne : (other == name) = false := beq_eq_false_iff_ne.mpr h
    rw [List.lookup_cons, hne, if_neg h]

theorem lookup_cons_of_ne (h : other ≠ name) (value : α) (entries : List (String × α)) :
    ((other, value) :: entries).lookup name = entries.lookup name := by
  rw [lookup_cons_eq_ite, if_neg h.symm]

theorem mem_of_lookup_eq_some {κ : Type} [BEq κ] [LawfulBEq κ] {name : κ} {entries : List (κ × α)}
    (h : entries.lookup name = some value) : (name, value) ∈ entries := by
  obtain ⟨before, after, rfl, -⟩ := List.lookup_eq_some_iff.mp h
  simp

theorem lookup_eq_none_iff_notMem :
    entries.lookup name = none ↔ name ∉ entries.map Prod.fst := by
  rw [List.lookup_eq_none_iff]
  constructor
  · intro h hmem
    obtain ⟨entry, hentry, hname⟩ := List.mem_map.mp hmem
    have hne := h entry hentry
    rw [hname, bne_self_eq_false] at hne
    cases hne
  · intro h entry hentry
    rw [bne_iff_ne]
    rintro rfl
    exact h (List.mem_map_of_mem hentry)

theorem lookup_map {β : Type} (f : String → α → β) (entries : List (String × α)) (name : String) :
    (entries.map fun entry => (entry.1, f entry.1 entry.2)).lookup name =
      (entries.lookup name).map (f name) := by
  induction entries with
  | nil => rfl
  | cons entry rest ih =>
    rw [List.map_cons, lookup_cons_eq_ite, lookup_cons_eq_ite, ih]
    split_ifs with h
    · rw [h]
      rfl
    · rfl

/-! ### Putting an entry -/

theorem lookup_put (name other : String) (value : α) (entries : List (String × α)) :
    (put name value entries).lookup other =
      if other = name then some value else entries.lookup other := by
  induction entries with
  | nil => exact lookup_cons_eq_ite name other value []
  | cons entry rest ih =>
    obtain ⟨first, old⟩ := entry
    by_cases hfirst : first = name
    · subst hfirst
      by_cases h : other = first <;> simp [put, lookup_cons_eq_ite, h]
    · have hne : other = first → other ≠ name := fun h => h ▸ hfirst
      by_cases h : other = first
      · simp [put, hfirst, h]
      · simp [put, hfirst, lookup_cons_eq_ite, h, ih]

theorem map_fst_put : (put name value entries).map Prod.fst =
    if name ∈ entries.map Prod.fst then entries.map Prod.fst
    else entries.map Prod.fst ++ [name] := by
  induction entries with
  | nil => simp [put]
  | cons entry rest ih =>
    by_cases hentry : entry.1 = name
    · simp [put, hentry]
    · have hname : name ≠ entry.1 := fun h => hentry h.symm
      simp only [put, hentry, if_false, List.map_cons, ih, List.mem_cons, hname, false_or]
      split_ifs <;> rfl

theorem nodup_put (h : (entries.map Prod.fst).Nodup) :
    ((put name value entries).map Prod.fst).Nodup := by
  rw [map_fst_put]
  split_ifs with hname
  · exact h
  · rw [← List.concat_eq_append]
    exact h.concat hname

theorem mem_put {entry : String × α} (h : entry ∈ put name value entries) :
    entry = (name, value) ∨ entry ∈ entries := by
  induction entries with
  | nil => simpa [put] using h
  | cons first rest ih =>
    rw [put] at h
    split_ifs at h with hfirst
    · rcases List.mem_cons.mp h with rfl | h
      · exact Or.inl rfl
      · exact Or.inr (by simp [h])
    · rcases List.mem_cons.mp h with rfl | h
      · exact Or.inr (by simp)
      · exact (ih h).imp_right fun hrest => by simp [hrest]

/-! ### Entries in another order -/

theorem lookup_of_mem (hnames : (entries.map Prod.fst).Nodup) (h : (name, value) ∈ entries) :
    entries.lookup name = some value := by
  induction entries with
  | nil => cases h
  | cons entry rest ih =>
    obtain ⟨first, old⟩ := entry
    rw [List.map_cons, List.nodup_cons] at hnames
    rw [lookup_cons_eq_ite]
    rcases List.mem_cons.mp h with hfirst | hrest
    · cases hfirst
      rw [if_pos rfl]
    · have hne : name ≠ first := by
        rintro rfl
        exact hnames.1 (List.mem_map.mpr ⟨_, hrest, rfl⟩)
      rw [if_neg hne, ih hnames.2 hrest]

/-- Where no name stands twice, the order of the entries does not matter. -/
theorem lookup_perm {others : List (String × α)} (h : others.Perm entries)
    (hnames : (entries.map Prod.fst).Nodup) (name : String) :
    others.lookup name = entries.lookup name := by
  have hothers : (others.map Prod.fst).Nodup := (h.map Prod.fst).nodup_iff.mpr hnames
  refine Option.ext fun value => ⟨fun hlookup => ?_, fun hlookup => ?_⟩
  · exact lookup_of_mem hnames (h.mem_iff.mp (mem_of_lookup_eq_some hlookup))
  · exact lookup_of_mem hothers (h.mem_iff.mpr (mem_of_lookup_eq_some hlookup))

end DialogueScript
