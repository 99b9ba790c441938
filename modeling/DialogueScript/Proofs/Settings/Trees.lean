import DialogueScript.Settings.Order
import DialogueScript.Proofs.Entries

/-! # What a tree says after it was changed

Each change is described by what the entries of the tree are afterwards. The order that entries come
in has a part in that only where two names are the same in lower case. -/
namespace DialogueScript.Settings

namespace Tree

def names : Tree → List String
  | .table _ entries => entries.map Prod.fst
  | _ => []

@[simp] theorem entry?_putEntry (tree : Tree) (name other : String) (value : Tree) :
    Tree.entry? other (tree.putEntry name value) =
      if other = name then some value else tree.entry? other := by
  cases tree with
  | leaf origin content => exact lookup_cons_eq_ite name other value []
  | array origin items => exact lookup_cons_eq_ite name other value []
  | table origin entries => exact lookup_put name other value entries

theorem nodup_putEntry {tree : Tree} (h : tree.names.Nodup) (name : String) (value : Tree) :
    (tree.putEntry name value).names.Nodup := by
  cases tree with
  | leaf origin content => exact List.nodup_singleton name
  | array origin items => exact List.nodup_singleton name
  | table origin entries => exact nodup_put h

/-- A value where it is laid over an old one: only a table keeps some of that. -/
def laidOver (value : Tree) (old : Option Tree) : Tree :=
  match value with
  | .table _ entries => (old.getD empty).setAll entries
  | _ => value

theorem set_eq (tree : Tree) (name : String) (value : Tree) :
    tree.set name value =
      tree.putEntry (lowerName name) (value.laidOver (tree.entry? (lowerName name))) := by
  cases value <;> simp only [set, laidOver]

theorem entry?_set (tree : Tree) (name other : String) (value : Tree) :
    Tree.entry? other (tree.set name value) =
      if other = lowerName name then some (value.laidOver (tree.entry? other))
      else tree.entry? other := by
  rw [set_eq, entry?_putEntry]
  split_ifs with h
  · rw [h]
  · rfl

theorem nodup_setAll {tree : Tree} (h : tree.names.Nodup) (entries : Entries) :
    (tree.setAll entries).names.Nodup := by
  induction entries generalizing tree with
  | nil => rwa [setAll]
  | cons entry rest ih =>
    rw [setAll, set_eq]
    exact ih (nodup_putEntry h _ _)

/-- Of entries with different names in lower case, each one is laid over the one of its name. -/
theorem entry?_setAll (tree : Tree) {entries : Entries} (hnames : (entries.map Prod.fst).Nodup)
    (hlower : ∀ entry ∈ entries, lowerName entry.1 = entry.1) (name : String) :
    Tree.entry? name (tree.setAll entries) =
      match entries.lookup name with
      | some value => some (value.laidOver (tree.entry? name))
      | none => tree.entry? name := by
  induction entries generalizing tree with
  | nil => simp [setAll]
  | cons entry rest ih =>
    obtain ⟨first, value⟩ := entry
    rw [List.map_cons, List.nodup_cons] at hnames
    have hfirst : lowerName first = first := hlower (first, value) (by simp)
    have hrest : ∀ entry ∈ rest, lowerName entry.1 = entry.1 := by
      intro entry hentry
      exact hlower entry (by simp [hentry])
    rw [setAll, ih _ hnames.2 hrest, entry?_set, hfirst, lookup_cons_eq_ite]
    by_cases hname : name = first
    · -- No later entry has this name, so what was set is left alone.
      have hlast : rest.lookup name = none := lookup_eq_none_iff_notMem.mpr (hname ▸ hnames.1)
      rw [hlast, if_pos hname, if_pos hname]
    · rw [if_neg hname, if_neg hname]

theorem ofTomlEntries_eq_map (origin : Option String) (entries : Toml.Entries) :
    ofTomlEntries origin entries =
      entries.map fun entry => (entry.1, ofToml origin entry.2) := by
  induction entries with
  | nil => rw [ofTomlEntries, List.map_nil]
  | cons entry rest ih => rw [ofTomlEntries, ih, List.map_cons]

@[simp] theorem lookup_ofTomlEntries (origin : Option String) (name : String)
    (entries : Toml.Entries) :
    (ofTomlEntries origin entries).lookup name = (entries.lookup name).map (ofToml origin) := by
  rw [ofTomlEntries_eq_map]
  exact lookup_map (fun _ => ofToml origin) entries name

@[simp] theorem map_fst_ofTomlEntries (origin : Option String) (entries : Toml.Entries) :
    (ofTomlEntries origin entries).map Prod.fst = entries.map Prod.fst := by
  rw [ofTomlEntries_eq_map, List.map_map]
  rfl

end Tree

namespace Order

variable (order : Order) (source : Nat) (names : List String) (entries : Entries)

theorem arrangedValues_eq_map : order.arrangedValues source names entries =
    entries.map fun entry => (entry.1, order.arranged source (names ++ [entry.1]) entry.2) := by
  induction entries with
  | nil => rw [arrangedValues, List.map_nil]
  | cons entry rest ih => rw [arrangedValues, ih, List.map_cons]

@[simp] theorem map_fst_arrangedValues :
    (order.arrangedValues source names entries).map Prod.fst = entries.map Prod.fst := by
  rw [arrangedValues_eq_map, List.map_map]
  rfl

@[simp] theorem lookup_arrangedValues (name : String) :
    (order.arrangedValues source names entries).lookup name =
      (entries.lookup name).map (order.arranged source (names ++ [name])) := by
  rw [arrangedValues_eq_map]
  exact lookup_map (fun name => order.arranged source (names ++ [name])) entries name

variable {entries}

theorem nodup_arrange (visit : Visit) (h : (entries.map Prod.fst).Nodup) :
    ((order.arrange visit entries).map Prod.fst).Nodup :=
  ((order.perm visit entries).map Prod.fst).nodup_iff.mpr h

theorem lookup_arrange (visit : Visit) (h : (entries.map Prod.fst).Nodup) (name : String) :
    (order.arrange visit entries).lookup name = entries.lookup name :=
  lookup_perm (order.perm visit entries) h name

@[simp] theorem arrange_nil (visit : Visit) : order.arrange visit [] = [] :=
  (order.perm visit []).eq_nil

@[simp] theorem arrange_singleton (visit : Visit) (entry : String × Tree) :
    order.arrange visit [entry] = [entry] :=
  (order.perm visit [entry]).eq_singleton

end Order

end DialogueScript.Settings
