import DialogueScript.Settings.Tree

/-! # In what order entries come

The entries of a table are gone through in an order that nothing fixes: neither the file nor the
names do. It decides which of two entries of one name in lower case is set last, and which of two
bad entries is complained about. -/
namespace DialogueScript.Settings

/-- The times that a table is gone through. -/
inductive Visit
  /-- A table of the source of this number is laid over others. The names lead to it. -/
  | laid (source : Nat) (names : List String)
  /-- The table of the output is read, after all sources. -/
  | read
  deriving DecidableEq, Repr

structure Order where
  arrange : Visit → Entries → Entries
  perm : ∀ visit entries, (arrange visit entries).Perm entries

namespace Order

def written : Order := ⟨fun _ entries => entries, fun _ _ => .rfl⟩

mutual

/-- A value of a source, its tables in the order that their entries come in. Nothing is laid over
what is in an array. -/
def arranged (order : Order) (source : Nat) (names : List String) : Tree → Tree
  | .leaf origin value => .leaf origin value
  | .array origin items => .array origin items
  | .table origin entries => .table origin
    (order.arrange (.laid source names) (arrangedValues order source names entries))

def arrangedValues (order : Order) (source : Nat) (names : List String) : Entries → Entries
  | [] => []
  | (name, value) :: entries =>
    (name, arranged order source (names ++ [name]) value) ::
      arrangedValues order source names entries

end

def entries (order : Order) (source : Nat) (entries : Entries) : Entries :=
  order.arrange (.laid source []) (order.arrangedValues source [] entries)

end Order

end DialogueScript.Settings
