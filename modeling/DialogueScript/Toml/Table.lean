import DialogueScript.Entries
import DialogueScript.Toml.Value

/-! # Building TOML tables

A key is given a value once, and a table is written once: under a header, by dotted keys under one
header, or in braces. Headers may add tables inside other tables, dotted keys only inside tables
that dotted keys began. -/
namespace DialogueScript.Toml

namespace Entries

def add? (key : String) (value : Value) (entries : Entries) : Option Entries :=
  if (entries.lookup key).isSome then none else some (entries ++ [(key, value)])

/-- Changes the entries of the table at a path, given how that table came to be. Tables that are
missing on the way come to be by `origin`. -/
def alter? (origin : TableOrigin) (change : TableOrigin → Entries → Option Entries)
    (current : TableOrigin) : List String → Entries → Option Entries
  | [], entries => change current entries
  | key :: path, entries =>
    match entries.lookup key with
    | none => do
      let inner ← alter? origin change origin path []
      pure (put key (.table origin inner) entries)
    | some (.table found inner) => do
      guard (found ≠ .inline)
      guard (origin ≠ .dotted ∨ found ≠ .headed)
      let inner ← alter? origin change found path inner
      pure (put key (.table found inner) entries)
    | some (.tables items) => do
      match items.getLast? with
      | some (.table found inner) =>
        let inner ← alter? origin change found path inner
        pure (put key (.tables (items.dropLast ++ [.table found inner])) entries)
      | _ => none
    | some _ => none

/-- Adds a value under a key of one or more names. The last one goes into the table itself if the
key has no others, and else only into a table that dotted keys began. -/
def insert? (key : List String) (value : Value) (entries : Entries) : Option Entries := do
  let name ← key.getLast?
  let path := key.dropLast
  alter? .dotted
    (fun origin inner => if path.isEmpty || origin = .dotted then inner.add? name value else none)
    .headed path entries

/-- As `insert?`, for a table in braces, where all tables but those of dotted keys are complete. -/
def insertAll? (entries : Entries) (pairs : List (List String × Value)) : Option Entries :=
  pairs.foldlM (fun entries pair => entries.insert? pair.1 pair.2) entries

end Entries

structure Section where
  /-- Whether the header begins one more table of an array. -/
  isItem : Bool
  path : List String
  pairs : List (List String × Value)
  deriving Repr

def Entries.addSection? (document : Entries) (part : Section) : Option Entries := do
  let name ← part.path.getLast?
  let addTable (_ : TableOrigin) (parent : Entries) : Option Entries :=
    match part.isItem, parent.lookup name with
    | true, none => do
      let entries ← Entries.insertAll? [] part.pairs
      pure (put name (.tables [.table .headed entries]) parent)
    | true, some (.tables items) => do
      let entries ← Entries.insertAll? [] part.pairs
      pure (put name (.tables (items ++ [.table .headed entries])) parent)
    | false, none => do
      let entries ← Entries.insertAll? [] part.pairs
      pure (put name (.table .headed entries) parent)
    | false, some (.table .implied inner) => do
      let entries ← Entries.insertAll? inner part.pairs
      pure (put name (.table .headed entries) parent)
    | _, _ => none
  Entries.alter? .implied addTable .headed part.path.dropLast document

def document? (pairs : List (List String × Value)) (sections : List Section) : Option Entries := do
  sections.foldlM Entries.addSection? (← Entries.insertAll? [] pairs)

end DialogueScript.Toml
