import DialogueScript.Rejection

/-! # Columns of a line

Columns count characters from 1, both ends included. -/
namespace DialogueScript

/-- The last column a line can have: columns have 64 bits. -/
def lastColumn : Nat := 18446744073709551615

/-- The columns of a line that a text occupies. -/
structure Columns where
  first : Nat
  last : Nat
  deriving DecidableEq, Repr

namespace Columns

/-- The columns of a nonempty text that starts in column `first`, if the line has room for it. -/
def covering? (first : Nat) (text : String) : Option Columns :=
  let last := first + (text.length - 1)
  if last ≤ lastColumn then some ⟨first, last⟩ else none

def require (first : Nat) (text : String) : Except Rejection Columns :=
  if first < 1 then .error (.invalid .fromColumn .columnBelowOne)
  else match covering? first text with
    | none => .error (.invalid .fromColumn .columnOutOfRange)
    | some columns => .ok columns

def width (columns : Columns) : Nat := columns.last - columns.first + 1

def text (columns : Columns) : String :=
  Nat.repr columns.first ++ ".." ++ Nat.repr columns.last

/-- Earlier columns first; of two that start together, the shorter. -/
protected def compare (a b : Columns) : Ordering :=
  (Ord.compare a.first b.first).then (Ord.compare a.last b.last)

end Columns

end DialogueScript
