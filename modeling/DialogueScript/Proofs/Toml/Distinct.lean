import DialogueScript.Toml.Reader
import DialogueScript.Proofs.Entries

/-! # No name twice

Each table of a document that can be read has its names once, at any depth. -/
namespace DialogueScript.Toml

inductive Value.IsDistinct : Value → Prop
  | string (text : String) : IsDistinct (.string text)
  | integer (value : Int) : IsDistinct (.integer value)
  | float (value : Decimal.Real) : IsDistinct (.float value)
  | boolean (value : Bool) : IsDistinct (.boolean value)
  | moment (text : String) : IsDistinct (.moment text)
  | array {items : List Value} (items_distinct : ∀ item ∈ items, IsDistinct item) :
      IsDistinct (.array items)
  | tables {items : List Value} (items_distinct : ∀ item ∈ items, IsDistinct item) :
      IsDistinct (.tables items)
  | table {origin : TableOrigin} {entries : List (String × Value)}
      (names : (entries.map Prod.fst).Nodup) (values : ∀ entry ∈ entries, IsDistinct entry.2) :
      IsDistinct (.table origin entries)

structure AreDistinct (entries : Entries) : Prop where
  names : (entries.map Prod.fst).Nodup
  values : ∀ entry ∈ entries, entry.2.IsDistinct

theorem AreDistinct.table {entries : Entries} (h : AreDistinct entries) (origin : TableOrigin) :
    (Value.table origin entries).IsDistinct := .table h.names h.values

theorem Value.IsDistinct.entries {origin : TableOrigin} {entries : Entries}
    (h : (Value.table origin entries).IsDistinct) : AreDistinct entries := by
  cases h with
  | table names values => exact ⟨names, values⟩

theorem Value.IsDistinct.items {items : List Value} (h : (Value.tables items).IsDistinct) :
    ∀ item ∈ items, item.IsDistinct := by
  cases h with
  | tables h => exact h

theorem areDistinct_nil : AreDistinct [] := ⟨List.nodup_nil, by simp⟩

/-! ### Building tables -/

variable {entries changed : Entries} {key : String} {value : Value}

namespace AreDistinct

theorem lookup (h : AreDistinct entries) (hlookup : entries.lookup key = some value) :
    value.IsDistinct :=
  h.values _ (mem_of_lookup_eq_some hlookup)

theorem put (h : AreDistinct entries) (hvalue : value.IsDistinct) :
    AreDistinct (DialogueScript.put key value entries) := by
  constructor
  · exact nodup_put h.names
  · intro entry hentry
    rcases mem_put hentry with rfl | hold
    · exact hvalue
    · exact h.values entry hold

theorem add (h : AreDistinct entries) (hvalue : value.IsDistinct)
    (hadd : entries.add? key value = some changed) : AreDistinct changed := by
  rw [Entries.add?] at hadd
  split_ifs at hadd with hkey
  cases hadd
  have hnot := lookup_eq_none_iff_notMem.mp (Option.not_isSome_iff_eq_none.mp hkey)
  constructor
  · rw [List.map_append, List.map_singleton, ← List.concat_eq_append]
    exact h.names.concat hnot
  · intro entry hentry
    rcases List.mem_append.mp hentry with hold | hnew
    · exact h.values entry hold
    · rw [List.mem_singleton.mp hnew]
      exact hvalue

/-- What a change of one table keeps, the change of a table inside others keeps as well. -/
theorem alter {origin current : TableOrigin} {change : TableOrigin → Entries → Option Entries}
    (hchange : ∀ found inner changed, AreDistinct inner → change found inner = some changed →
      AreDistinct changed)
    {path : List String} (h : AreDistinct entries)
    (halter : Entries.alter? origin change current path entries = some changed) :
    AreDistinct changed := by
  induction path generalizing entries current changed with
  | nil => exact hchange _ _ _ h halter
  | cons name path ih =>
    rw [Entries.alter?] at halter
    split at halter
    · obtain ⟨inner, hinner, hput⟩ := Option.bind_eq_some_iff.mp halter
      cases hput
      exact h.put ((ih areDistinct_nil hinner).table origin)
    · rename_i found inner hlookup
      simp only [Option.bind_eq_bind, Option.bind_eq_some_iff] at halter
      obtain ⟨-, -, -, -, changed', hinner, hput⟩ := halter
      cases hput
      exact h.put ((ih (h.lookup hlookup).entries hinner).table found)
    · rename_i items hlookup
      split at halter
      · rename_i found inner hlast
        obtain ⟨changed', hinner, hput⟩ := Option.bind_eq_some_iff.mp halter
        cases hput
        have hitems := (h.lookup hlookup).items
        have hinner' := ih (hitems _ (List.mem_of_getLast? hlast)).entries hinner
        refine h.put (.tables fun item hitem => ?_)
        rcases List.mem_append.mp hitem with hold | hnew
        · exact hitems item (List.mem_of_mem_dropLast hold)
        · rw [List.mem_singleton.mp hnew]
          exact hinner'.table found
      · cases halter
    · cases halter

theorem insert {name : List String} (h : AreDistinct entries) (hvalue : value.IsDistinct)
    (hinsert : entries.insert? name value = some changed) : AreDistinct changed := by
  obtain ⟨last, -, halter⟩ := Option.bind_eq_some_iff.mp hinsert
  refine h.alter ?_ halter
  intro found inner changed hinner hchange
  split_ifs at hchange
  exact hinner.add hvalue hchange

def ArePairs (pairs : List (List String × Value)) : Prop := ∀ pair ∈ pairs, pair.2.IsDistinct

theorem insertAll {pairs : List (List String × Value)} (h : AreDistinct entries)
    (hpairs : ArePairs pairs) (hinsert : entries.insertAll? pairs = some changed) :
    AreDistinct changed := by
  induction pairs generalizing entries with
  | nil =>
    cases hinsert
    exact h
  | cons pair pairs ih =>
    obtain ⟨next, hnext, hrest⟩ := Option.bind_eq_some_iff.mp hinsert
    have hnext' := h.insert (hpairs pair (by simp)) hnext
    exact ih hnext' (fun other hother => hpairs other (by simp [hother])) hrest

/-- A section adds a table that was not written before, or entries to one. -/
theorem addSection {part : Section} (h : AreDistinct entries) (hpairs : ArePairs part.pairs)
    (hadd : entries.addSection? part = some changed) : AreDistinct changed := by
  obtain ⟨name, -, halter⟩ := Option.bind_eq_some_iff.mp hadd
  refine h.alter ?_ halter
  intro found parent changed hparent hchange
  split at hchange
  · obtain ⟨inner, hinner, hput⟩ := Option.bind_eq_some_iff.mp hchange
    cases hput
    have hnew := (areDistinct_nil.insertAll hpairs hinner).table .headed
    exact hparent.put (.tables (by simpa using hnew))
  · rename_i items _ hlookup
    obtain ⟨inner, hinner, hput⟩ := Option.bind_eq_some_iff.mp hchange
    cases hput
    have hnew := (areDistinct_nil.insertAll hpairs hinner).table .headed
    refine hparent.put (.tables fun item hitem => ?_)
    rcases List.mem_append.mp hitem with hold | hlast
    · exact (hparent.lookup hlookup).items item hold
    · rw [List.mem_singleton.mp hlast]
      exact hnew
  · obtain ⟨inner, hinner, hput⟩ := Option.bind_eq_some_iff.mp hchange
    cases hput
    exact hparent.put ((areDistinct_nil.insertAll hpairs hinner).table .headed)
  · rename_i inner _ hlookup
    obtain ⟨added, hadded, hput⟩ := Option.bind_eq_some_iff.mp hchange
    cases hput
    exact hparent.put (((hparent.lookup hlookup).entries.insertAll hpairs hadded).table .headed)
  · cases hchange

theorem document {pairs : List (List String × Value)} {sections : List Section}
    (hpairs : ArePairs pairs) (hsections : ∀ part ∈ sections, ArePairs part.pairs)
    (h : document? pairs sections = some entries) : AreDistinct entries := by
  obtain ⟨start, hstart, hfold⟩ := Option.bind_eq_some_iff.mp h
  have hdistinct := areDistinct_nil.insertAll hpairs hstart
  clear hstart h
  induction sections generalizing start with
  | nil =>
    cases hfold
    exact hdistinct
  | cons part sections ih =>
    obtain ⟨next, hnext, hrest⟩ := Option.bind_eq_some_iff.mp hfold
    exact ih (fun other hother => hsections other (by simp [hother])) next hrest
      (hdistinct.addSection (hsections part (by simp)) hnext)

end AreDistinct

/-! ### Reading values -/

open AreDistinct (ArePairs)

theorem isDistinct_of_plain {word : List Char} {value : Value}
    (h : plainValue? word = some value) : value.IsDistinct := by
  rw [plainValue?] at h
  split_ifs at h
  · cases h
    exact .boolean true
  · cases h
    exact .boolean false
  · simp only [Option.or_eq_some_iff, Option.map_eq_some_iff] at h
    rcases h with ⟨text, -, rfl⟩ | ⟨-, ⟨number, -, rfl⟩ | ⟨-, number, -, rfl⟩⟩
    · exact .moment _
    · exact .integer number
    · exact .float number

/-- In `fuel` steps nothing is read that has a name twice. -/
structure ReadsDistinct (fuel : Nat) : Prop where
  value : ∀ depth text value rest, readValue? fuel depth text = some (value, rest) →
    value.IsDistinct
  items : ∀ depth text items rest, readItems? fuel depth text = some (items, rest) →
    ∀ item ∈ items, item.IsDistinct
  pairs : ∀ depth text pairs rest, readPairs? fuel depth text = some (pairs, rest) →
    ArePairs pairs

namespace ReadsDistinct

variable {fuel depth : Nat} {text rest : List Char}

theorem value_succ (reads : ReadsDistinct fuel) {value : Value}
    (h : readValue? (fuel + 1) depth text = some (value, rest)) : value.IsDistinct := by
  rw [readValue?.eq_def] at h
  dsimp only at h
  split at h
  · simp only [Option.bind_eq_bind, Option.bind_eq_some_iff] at h
    obtain ⟨-, -, ⟨items, after⟩, hitems, hvalue⟩ := h
    cases hvalue
    exact .array (reads.items _ _ _ _ hitems)
  · simp only [Option.bind_eq_bind, Option.bind_eq_some_iff] at h
    obtain ⟨-, -, h⟩ := h
    split at h
    · cases h
      exact areDistinct_nil.table .inline
    · simp only [Option.bind_eq_some_iff] at h
      obtain ⟨⟨pairs, after⟩, hpairs, entries, hinsert, hvalue⟩ := h
      cases hvalue
      exact (areDistinct_nil.insertAll (reads.pairs _ _ _ _ hpairs) hinsert).table .inline
  · split_ifs at h
    · obtain ⟨⟨string, after⟩, -, hvalue⟩ := Option.map_eq_some_iff.mp h
      cases hvalue
      exact .string _
    · obtain ⟨plain, hplain, hvalue⟩ := Option.map_eq_some_iff.mp h
      cases hvalue
      exact isDistinct_of_plain hplain
  · cases h

theorem items_succ (reads : ReadsDistinct fuel) {items : List Value}
    (h : readItems? (fuel + 1) depth text = some (items, rest)) :
    ∀ item ∈ items, item.IsDistinct := by
  rw [readItems?.eq_def] at h
  dsimp only at h
  split at h
  · cases h
    simp
  · simp only [Option.bind_eq_bind, Option.bind_eq_some_iff] at h
    obtain ⟨⟨value, after⟩, hvalue, h⟩ := h
    have hfirst := reads.value _ _ _ _ hvalue
    split at h
    · cases h
      simpa using hfirst
    · simp only [Option.bind_eq_some_iff] at h
      obtain ⟨⟨others, more⟩, hothers, hitems⟩ := h
      cases hitems
      simpa using ⟨hfirst, reads.items _ _ _ _ hothers⟩
    · cases h

theorem pairs_succ (reads : ReadsDistinct fuel) {pairs : List (List String × Value)}
    (h : readPairs? (fuel + 1) depth text = some (pairs, rest)) : ArePairs pairs := by
  rw [readPairs?.eq_def] at h
  simp only [Option.bind_eq_bind, Option.bind_eq_some_iff] at h
  obtain ⟨⟨key, after⟩, -, text', -, ⟨value, after'⟩, hvalue, h⟩ := h
  have hfirst := reads.value _ _ _ _ hvalue
  split at h
  · cases h
    simpa [ArePairs] using hfirst
  · simp only [Option.bind_eq_some_iff] at h
    obtain ⟨⟨others, more⟩, hothers, hpairs⟩ := h
    cases hpairs
    exact List.forall_mem_cons.mpr ⟨hfirst, reads.pairs _ _ _ _ hothers⟩
  · cases h

end ReadsDistinct

/-- Values, items and pairs read one another, so this is one induction on the steps they have. -/
theorem readsDistinct (fuel : Nat) : ReadsDistinct fuel := by
  induction fuel with
  | zero => constructor <;> simp [readValue?, readItems?, readPairs?]
  | succ fuel ih =>
    exact ⟨fun _ _ _ _ => ih.value_succ, fun _ _ _ _ => ih.items_succ,
      fun _ _ _ _ => ih.pairs_succ⟩

/-! ### Reading documents -/

theorem isDistinct_of_readPair {text rest : List Char} {pair : List String × Value}
    (h : readPair? text = some (pair, rest)) : pair.2.IsDistinct := by
  simp only [readPair?, Option.bind_eq_bind, Option.bind_eq_some_iff] at h
  obtain ⟨⟨key, after⟩, -, text', -, ⟨value, after'⟩, hvalue, text'', -, hpair⟩ := h
  cases hpair
  exact (readsDistinct _).value _ _ _ _ hvalue

theorem arePairs_of_readSections {fuel : Nat} {text : List Char}
    {pairs : List (List String × Value)} {sections : List Section}
    (h : readSections? fuel text = some (pairs, sections)) :
    ArePairs pairs ∧ ∀ part ∈ sections, ArePairs part.pairs := by
  have hnone : ArePairs [] := by simp [ArePairs]
  induction fuel generalizing text pairs sections with
  | zero => cases h
  | succ fuel ih =>
    rw [readSections?] at h
    split at h
    · cases h
      exact ⟨hnone, by simp⟩
    · simp only [Option.bind_eq_bind, Option.bind_eq_some_iff] at h
      obtain ⟨⟨path, after⟩, -, ⟨pairs', sections'⟩, hread, hsections⟩ := h
      cases hsections
      obtain ⟨hpairs, hothers⟩ := ih hread
      exact ⟨hnone, List.forall_mem_cons.mpr ⟨hpairs, hothers⟩⟩
    · simp only [Option.bind_eq_bind, Option.bind_eq_some_iff] at h
      obtain ⟨⟨path, after⟩, -, ⟨pairs', sections'⟩, hread, hsections⟩ := h
      cases hsections
      obtain ⟨hpairs, hothers⟩ := ih hread
      exact ⟨hnone, List.forall_mem_cons.mpr ⟨hpairs, hothers⟩⟩
    · split at h
      · exact ih h
      · simp only [Option.bind_eq_bind, Option.bind_eq_some_iff] at h
        obtain ⟨⟨pair, after⟩, hpair, ⟨pairs', sections'⟩, hread, hsections⟩ := h
        cases hsections
        obtain ⟨hpairs, hothers⟩ := ih hread
        exact ⟨List.forall_mem_cons.mpr ⟨isDistinct_of_readPair hpair, hpairs⟩, hothers⟩

/-- Whatever is read has no name twice in one table. -/
theorem areDistinct_of_read {document : String} {entries : Entries}
    (h : read? document = some entries) : AreDistinct entries := by
  obtain ⟨⟨pairs, sections⟩, hread, hdocument⟩ := Option.bind_eq_some_iff.mp h
  obtain ⟨hpairs, hsections⟩ := arePairs_of_readSections hread
  exact AreDistinct.document hpairs hsections hdocument

end DialogueScript.Toml
