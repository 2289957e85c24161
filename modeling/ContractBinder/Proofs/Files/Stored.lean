import ContractBinder.Files.Tree
import ContractBinder.Proofs.Ordered

/-!
# What is stored where

A file tree as a table: at every location there is a file with its content, a directory,
a link with its target or nothing. What is below a directory is stored at locations of its
own, so putting a leaf into a directory changes the table at one location (`stored_put`).
-/

namespace ContractBinder

namespace Files

/-! ## 1. Nodes -/

/-- What is stored at a location by itself. -/
inductive Stored where
  | file (content : ByteArray)
  | directory
  | link (target : Path)

namespace Node

/-- What is stored at a node, without what is below it. -/
def stored : Node → Stored
  | file content => .file content
  | directory _ => .directory
  | link target => .link target

theorem get?_nil (node : Node) : node.get? [] = some node := by
  cases node <;> rfl

theorem get?_append (node : Node) (first second : Location) :
    node.get? (first ++ second) = (node.get? first).bind (·.get? second) := by
  induction first generalizing node with
  | nil => rw [List.nil_append, get?_nil, Option.bind_some]
  | cons name rest ih =>
    cases node with
    | file _ => rfl
    | link _ => rfl
    | directory entries =>
      rw [List.cons_append, get?, get?]
      cases entries.lookup name with
      | none => rfl
      | some child => exact ih child

/-- What is below a directory is below one of its entries. -/
theorem exists_entry_of_get? {entries : List (Name × Node)} {name : Name} {rest : Location}
    {child : Node} (there : (directory entries).get? (name :: rest) = some child) :
    ∃ next, entries.lookup name = some next ∧ (name, next) ∈ entries ∧
      next.get? rest = some child := by
  obtain ⟨next, found, below⟩ := Option.bind_eq_some_iff.mp there
  exact ⟨next, found, mem_of_lookup found, below⟩

/-- A node with nothing below it. -/
def IsLeaf (node : Node) : Prop :=
  ∀ name rest, node.get? (name :: rest) = none

theorem isLeaf_file (content : ByteArray) : (file content).IsLeaf :=
  fun _ _ => rfl

theorem isLeaf_link (target : Path) : (link target).IsLeaf :=
  fun _ _ => rfl

theorem isLeaf_directory : (directory []).IsLeaf :=
  fun _ _ => rfl

/-- Putting a leaf into a directory, in place of a leaf or of nothing, changes what is
stored at its own location only. -/
theorem stored_put {node new : Node} {directory : Location} {entries : List (Name × Node)}
    {name : Name} (there : node.get? directory = some (.directory entries))
    (leaf : new.IsLeaf) (old : ∀ node, entries.lookup name = some node → node.IsLeaf)
    (location : Location) :
    ((put new (directory ++ [name]) node).get? location).map stored =
      if location = directory ++ [name] then some new.stored
      else (node.get? location).map stored := by
  -- Along the way to the directory only the entry of the next step is another one.
  induction directory generalizing node location with
  | nil =>
    rw [get?_nil] at there
    cases there
    rw [List.nil_append, put]
    cases location with
    | nil => rfl
    | cons step rest =>
      rw [get?, lookup_insertSorted, get?]
      by_cases same : step = name
      · subst same
        rw [if_pos rfl, Option.bind_some, put]
        cases rest with
        | nil => rw [get?_nil, if_pos rfl]; rfl
        | cons next others =>
          rw [leaf, if_neg (by simp)]
          cases found : entries.lookup step with
          | none => rfl
          | some node => rw [Option.bind_some, old node found]
      · rw [if_neg same, if_neg (by simp [same])]
  | cons first others ih =>
    cases node with
    | file _ => cases there
    | link _ => cases there
    | directory around =>
      rw [get?] at there
      obtain ⟨child, found, below⟩ := Option.bind_eq_some_iff.mp there
      rw [List.cons_append, put, found, Option.getD_some]
      cases location with
      | nil => rfl
      | cons step rest =>
        rw [get?, lookup_insertSorted, get?]
        by_cases same : step = first
        · subst same
          rw [if_pos rfl, Option.bind_some, ih below rest, found, Option.bind_some]
          simp only [List.cons.injEq, true_and]
        · rw [if_neg same, if_neg (by simp [same])]

end Node

/-! ## 2. File systems -/

namespace FileSystem

variable {fs : FileSystem} {location directory : Location} {name : Name}

/-- What is stored at a location, if anything is. -/
def stored (fs : FileSystem) (location : Location) : Option Stored :=
  (fs.get? location).map Node.stored

theorem get?_child {entries : List (Name × Node)}
    (there : fs.get? directory = some (.directory entries)) :
    fs.get? (directory ++ [name]) = entries.lookup name := by
  rw [get?, Node.get?_append, ← get?, there, Option.bind_some, Node.get?]
  cases entries.lookup name with
  | none => rfl
  | some node => exact node.get?_nil

theorem exists_get?_of_stored (there : fs.stored directory = some .directory) :
    ∃ entries, fs.get? directory = some (.directory entries) := by
  obtain ⟨node, found, kind⟩ := Option.map_eq_some_iff.mp there
  cases node with
  | file _ | link _ => cases kind
  | directory entries => exact ⟨entries, found⟩

theorem get?_of_stored_file {content : ByteArray}
    (there : fs.stored location = some (.file content)) :
    fs.get? location = some (.file content) := by
  obtain ⟨node, found, kind⟩ := Option.map_eq_some_iff.mp there
  cases node with
  | directory _ | link _ => cases kind
  | file _ =>
    cases kind
    exact found

/-- What is stored in a directory is in a place that leads there. -/
theorem stored_of_stored_append {rest : Location} (nonempty : rest ≠ [])
    (there : (fs.stored (location ++ rest)).isSome = true) :
    fs.stored location = some .directory := by
  rw [stored, Option.isSome_map, get?, Node.get?_append] at there
  obtain ⟨node, found⟩ := Option.isSome_iff_exists.mp there
  obtain ⟨around, foundAround, below⟩ := Option.bind_eq_some_iff.mp found
  rw [stored, get?, foundAround]
  cases around with
  | directory _ => rfl
  | file _ | link _ =>
    cases rest with
    | nil => exact absurd rfl nonempty
    | cons _ _ => cases below

theorem stored_of_proper_prefix {part whole : Location} (inside : part <+: whole)
    (proper : part ≠ whole) (there : (fs.stored whole).isSome = true) :
    fs.stored part = some .directory := by
  obtain ⟨rest, rfl⟩ := inside
  have nonempty : rest ≠ [] := by
    rintro rfl
    exact proper (List.append_nil part).symm
  exact stored_of_stored_append nonempty there

theorem stored_of_prefix (inside : location <+: directory)
    (there : fs.stored directory = some .directory) : fs.stored location = some .directory := by
  by_cases same : location = directory
  · rwa [same]
  · refine stored_of_proper_prefix inside same ?_
    rw [there]
    rfl

/-- A new leaf in a directory, where no directory with something in it was before. -/
theorem stored_put_leaf {new : Node} (there : fs.stored directory = some .directory)
    (leaf : new.IsLeaf) (old : fs.stored (directory ++ [name]) ≠ some .directory)
    (location : Location) :
    (fs.put (directory ++ [name]) new).stored location =
      if location = directory ++ [name] then some new.stored else fs.stored location := by
  obtain ⟨entries, found⟩ := exists_get?_of_stored there
  refine Node.stored_put found leaf (fun node listed => ?_) location
  cases node with
  | file content => exact Node.isLeaf_file content
  | link target => exact Node.isLeaf_link target
  | directory _ =>
    rw [stored, get?_child found, listed] at old
    exact absurd rfl old

/-- A new leaf in place of a file. -/
theorem stored_put_of_file {new : Node} {content : ByteArray}
    (there : fs.stored location = some (.file content)) (leaf : new.IsLeaf) (other : Location) :
    (fs.put location new).stored other =
      if other = location then some new.stored else fs.stored other := by
  rcases List.eq_nil_or_concat' location with rfl | ⟨around, name, rfl⟩
  · have root : fs.root = .file content := by
      have found := get?_of_stored_file there
      rwa [get?, Node.get?_nil, Option.some.injEq] at found
    cases other with
    | nil => rw [stored, get?, put, Node.put, Node.get?_nil, if_pos rfl]; rfl
    | cons step rest =>
      rw [stored, get?, put, Node.put, leaf, if_neg (List.cons_ne_nil step rest), stored, get?,
        root]
      rfl
  · have present : (fs.stored (around ++ [name])).isSome = true := by
      rw [there]
      rfl
    have around := stored_of_stored_append (List.cons_ne_nil name []) present
    refine stored_put_leaf around leaf ?_ other
    rw [there]
    simp

end FileSystem

end Files

end ContractBinder
