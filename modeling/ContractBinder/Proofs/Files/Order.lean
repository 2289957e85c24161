import ContractBinder.Proofs.Files.Listing

/-!
# Trees in order

A tree in order (`Node.IsOrdered`) keeps the entries of every directory in the order of
their names. Putting something into it leaves it in order (`Node.IsOrdered.put`), and
putting in what is there already leaves it as it is (`Node.IsOrdered.put_eq_self`). So
trees in order that store the same are the same. No name occurs twice in a directory of
such a tree (`Node.IsOrdered.hasDistinctNames`).
-/

namespace ContractBinder.Files.Node

variable {node new : Node} {location : Location}

/-- The entries of every directory are in the order of their names. -/
inductive IsOrdered : Node → Prop
  | file (content : ByteArray) : IsOrdered (.file content)
  | link (target : Path) : IsOrdered (.link target)
  | directory {entries : List (Name × Node)} : InOrder entries →
      (∀ entry ∈ entries, IsOrdered entry.2) → IsOrdered (.directory entries)

theorem isOrdered_directory_nil : (directory []).IsOrdered :=
  .directory .nil fun _ listed => absurd listed List.not_mem_nil

theorem IsOrdered.put (ordered : node.IsOrdered) (inner : new.IsOrdered) :
    (put new location node).IsOrdered := by
  induction location generalizing node with
  | nil => exact inner
  | cons name rest ih =>
    cases ordered with
    | file content => exact .file content
    | link target => exact .link target
    | @directory entries inOrder below =>
      refine .directory (inOrder_insertSorted inOrder) fun entry listed => ?_
      rcases mem_of_mem_insertSorted listed with rfl | old
      · refine ih ?_
        cases found : entries.lookup name with
        | none => exact isOrdered_directory_nil
        | some child => exact below (name, child) (mem_of_lookup found)
      · exact below entry old

theorem IsOrdered.hasDistinctNames (ordered : node.IsOrdered) : node.HasDistinctNames := by
  induction ordered with
  | file content => exact .file content
  | link target => exact .link target
  | directory inOrder _ ih => exact .directory inOrder.nodup_keys ih

/-- Putting what is there already changes nothing. -/
theorem IsOrdered.put_eq_self (ordered : node.IsOrdered) (there : node.get? location = some new) :
    Node.put new location node = node := by
  induction location generalizing node with
  | nil =>
    rw [get?_nil] at there
    exact (Option.some.inj there).symm
  | cons name rest ih =>
    cases ordered with
    | file _ | link _ => cases there
    | directory inOrder below =>
      obtain ⟨child, found, listed, belowChild⟩ := exists_entry_of_get? there
      have same := ih (below _ listed) belowChild
      rw [Node.put, found, Option.getD_some, same, insertSorted_eq_self inOrder found]

end ContractBinder.Files.Node
