import ContractBinder.Proofs.Files.Walking
import ContractBinder.Proofs.Lists

/-!
# Files below a directory

Where no directory has two entries of one name (`Node.HasDistinctNames`), a listing gives
each file that no skipped directory is around
(`Node.HasDistinctNames.mem_filesBelow_iff`), in the order of their locations
(`Node.HasDistinctNames.pairwise_filesBelow`).

A tree that can be stored and has no links in it (`Node.IsTree`) is one of these. In it,
putting the names of a location behind the path of the directory gives a path that leads
there (`FileSystem.leads_pathBelow`).
-/

namespace ContractBinder.Files

/-- Names that can be given to something in a directory. -/
structure IsStorable (name : Name) : Prop extends IsName name where
  short : name.length ≤ maxNameSize
  noZero : 0 ∉ name

instance (name : Name) : Decidable (IsStorable name) :=
  decidable_of_iff (IsName name ∧ name.length ≤ maxNameSize ∧ 0 ∉ name)
    ⟨fun h => ⟨h.1, h.2.1, h.2.2⟩, fun h => ⟨h.toIsName, h.short, h.noZero⟩⟩

namespace Node

/-- A tree that can be stored, without links: all that is in a directory has a name of its
own. -/
inductive IsTree : Node → Prop
  | file (content : ByteArray) : IsTree (.file content)
  | directory {entries : List (Name × Node)} : (entries.map Prod.fst).Nodup →
      (∀ entry ∈ entries, IsStorable entry.1) → (∀ entry ∈ entries, IsTree entry.2) →
      IsTree (.directory entries)

/-- All that is in a directory has a name of its own, whatever the names are. -/
inductive HasDistinctNames : Node → Prop
  | file (content : ByteArray) : HasDistinctNames (.file content)
  | link (target : Path) : HasDistinctNames (.link target)
  | directory {entries : List (Name × Node)} : (entries.map Prod.fst).Nodup →
      (∀ entry ∈ entries, HasDistinctNames entry.2) → HasDistinctNames (.directory entries)

variable {node : Node} {skips : Location → Bool} {here location : Location}

theorem IsTree.hasDistinctNames (tree : node.IsTree) : node.HasDistinctNames := by
  induction tree with
  | file content => exact .file content
  | directory distinct _ _ ih => exact .directory distinct ih

theorem HasDistinctNames.of_get? (distinct : node.HasDistinctNames) {child : Node}
    (there : node.get? location = some child) : child.HasDistinctNames := by
  induction location generalizing node with
  | nil =>
    rw [get?_nil] at there
    exact Option.some.inj there ▸ distinct
  | cons name rest ih =>
    cases distinct with
    | file _ | link _ => cases there
    | directory _ below =>
      obtain ⟨next, _, listed, belowNext⟩ := exists_entry_of_get? there
      exact ih (below _ listed) belowNext

theorem entriesBelow_eq_map (skips : Location → Bool) (here : Location)
    (entries : List (Name × Node)) :
    entriesBelow skips here entries = entries.map fun entry =>
      (entry.1, (filesBelow skips (here ++ [entry.1]) entry.2).map (entry.1 :: ·)) := by
  induction entries with
  | nil => rfl
  | cons entry rest ih => rw [entriesBelow, ih, List.map_cons]

theorem lookup_of_mem {entries : List (Name × Node)} {entry : Name × Node}
    (distinct : (entries.map Prod.fst).Nodup) (member : entry ∈ entries) :
    entries.lookup entry.1 = some entry.2 := by
  induction entries with
  | nil => exact absurd member List.not_mem_nil
  | cons first rest ih =>
    obtain ⟨absent, others⟩ := List.nodup_cons.mp distinct
    rcases List.mem_cons.mp member with rfl | later
    · exact List.lookup_cons_self
    · have differs : (entry.1 == first.1) = false := beq_eq_false_iff_ne.mpr fun same =>
        absent (same ▸ List.mem_map_of_mem later)
      rw [List.lookup_cons, differs]
      exact ih others later

theorem get?_of_mem {entries : List (Name × Node)} {entry : Name × Node}
    (distinct : (entries.map Prod.fst).Nodup) (listed : entry ∈ entries) (rest : Location) :
    (directory entries).get? (entry.1 :: rest) = entry.2.get? rest := by
  rw [get?, lookup_of_mem distinct listed, Option.bind_some]

/-- What is listed below a directory is listed below one of its entries. -/
theorem mem_filesBelow_directory_iff {entries : List (Name × Node)}
    (distinct : (entries.map Prod.fst).Nodup) :
    location ∈ (directory entries).filesBelow skips here ↔
      skips here = false ∧ ∃ entry ∈ entries,
        ∃ rest ∈ entry.2.filesBelow skips (here ++ [entry.1]), location = entry.1 :: rest := by
  have sameKeys : ((entriesBelow skips here entries).map Prod.fst).Nodup := by
    rwa [entriesBelow_eq_map, List.map_map]
  rw [filesBelow]
  split
  · next skipped => simp [skipped]
  · next visited =>
    rw [Bool.eq_false_iff.mpr visited, List.mem_flatMap]
    simp only [mem_sortedPairs_iff sameKeys, true_and]
    rw [entriesBelow_eq_map]
    simp only [List.mem_map]
    constructor
    · rintro ⟨_, ⟨entry, listed, rfl⟩, inside⟩
      obtain ⟨rest, below, rfl⟩ := List.mem_map.mp inside
      exact ⟨entry, listed, rest, below, rfl⟩
    · rintro ⟨entry, listed, rest, below, rfl⟩
      exact ⟨_, ⟨entry, listed, rfl⟩, List.mem_map.mpr ⟨rest, below, rfl⟩⟩

/-- What is at a location is a tree again, and all names on the way there can be given. -/
theorem IsTree.of_get? (tree : node.IsTree) {child : Node}
    (there : node.get? location = some child) :
    child.IsTree ∧ ∀ name ∈ location, IsStorable name := by
  induction location generalizing node with
  | nil =>
    rw [get?_nil] at there
    exact ⟨Option.some.inj there ▸ tree, fun _ listed => absurd listed List.not_mem_nil⟩
  | cons name rest ih =>
    cases tree with
    | file _ => cases there
    | directory _ storable below =>
      obtain ⟨next, _, listed, belowNext⟩ := exists_entry_of_get? there
      obtain ⟨tree, names⟩ := ih (below _ listed) belowNext
      exact ⟨tree, List.forall_mem_cons.mpr ⟨storable _ listed, names⟩⟩

/-- Every file is listed, unless a directory around it is skipped. -/
theorem HasDistinctNames.mem_filesBelow_iff (distinct : node.HasDistinctNames) :
    location ∈ node.filesBelow skips here ↔
      (∃ content, node.get? location = some (.file content)) ∧
        ∀ part, part <+: location → part ≠ location → skips (here ++ part) = false := by
  induction distinct generalizing here location with
  | file content =>
    rw [filesBelow, List.mem_singleton]
    cases location with
    | nil => simp [get?]
    | cons name rest => simp [get?]
  | link target =>
    rw [filesBelow]
    cases location with
    | nil => simp [get?]
    | cons name rest => simp [get?]
  | @directory entries names _ ih =>
    rw [mem_filesBelow_directory_iff names]
    cases location with
    | nil => simp [get?]
    | cons name rest =>
      -- The directories around are this one and those around the rest in the entry.
      have around : (∀ part, part <+: name :: rest → part ≠ name :: rest →
            skips (here ++ part) = false) ↔
          skips here = false ∧ ∀ part, part <+: rest → part ≠ rest →
            skips (here ++ [name] ++ part) = false := by
        refine forall_prefix_cons_iff.trans ?_
        simp only [List.append_nil, List.append_assoc, List.singleton_append]
      rw [around, and_left_comm]
      refine and_congr_right fun _ => ?_
      constructor
      · rintro ⟨entry, listed, other, below, shape⟩
        obtain ⟨rfl, rfl⟩ := List.cons.inj shape
        rw [get?_of_mem names listed]
        exact (ih entry listed).mp below
      · rintro ⟨⟨content, found⟩, visited⟩
        obtain ⟨child, _, listed, file⟩ := exists_entry_of_get? found
        exact ⟨(name, child), listed, rest, (ih _ listed).mpr ⟨⟨content, file⟩, visited⟩, rfl⟩

/-- Locations are listed in their order. -/
theorem HasDistinctNames.pairwise_filesBelow (distinct : node.HasDistinctNames) :
    (node.filesBelow skips here).Pairwise (· < ·) := by
  induction distinct generalizing here with
  | file _ => exact List.pairwise_singleton _ _
  | link _ => exact .nil
  | @directory entries _ _ ih =>
    rw [filesBelow]
    split
    · exact .nil
    -- What is listed for an entry starts with the name of the entry.
    have listedFor : ∀ pair ∈ sortedPairs (entriesBelow skips here entries), ∃ entry ∈ entries,
        pair = (entry.1, (filesBelow skips (here ++ [entry.1]) entry.2).map (entry.1 :: ·)) := by
      intro pair sorted
      have listed := mem_of_mem_sortedPairs sorted
      rw [entriesBelow_eq_map] at listed
      obtain ⟨entry, inEntries, rfl⟩ := List.mem_map.mp listed
      exact ⟨entry, inEntries, rfl⟩
    rw [List.pairwise_flatMap]
    constructor
    · intro pair sorted
      obtain ⟨entry, inEntries, rfl⟩ := listedFor pair sorted
      refine List.pairwise_map.mpr ((ih entry inEntries).imp fun below => ?_)
      exact List.cons_lt_cons_iff.mpr (.inr ⟨rfl, below⟩)
    · refine (inOrder_sortedPairs _).imp_of_mem fun sorted sorted' below first inFirst second
        inSecond => ?_
      obtain ⟨entry, _, rfl⟩ := listedFor _ sorted
      obtain ⟨entry', _, rfl⟩ := listedFor _ sorted'
      obtain ⟨_, _, rfl⟩ := List.mem_map.mp inFirst
      obtain ⟨_, _, rfl⟩ := List.mem_map.mp inSecond
      exact List.cons_lt_cons_iff.mpr (.inl below)

/-- What is listed below a node is a file there. -/
theorem IsTree.get?_of_mem_filesBelow (tree : node.IsTree)
    (member : location ∈ node.filesBelow skips here) :
    ∃ content, node.get? location = some (.file content) :=
  (tree.hasDistinctNames.mem_filesBelow_iff.mp member).1

end Node

namespace FileSystem

variable {fs : FileSystem} {directory : Path} {around : Location}

theorem noLinks_of_isTree (tree : fs.root.IsTree) : fs.NoLinks := by
  intro location target there
  obtain ⟨node, found, kind⟩ := Option.map_eq_some_iff.mp there
  obtain ⟨inner, _⟩ := tree.of_get? found
  cases inner <;> cases kind

/-- The path that names make behind the path of a directory leads to what they lead to there. -/
theorem leads_pathBelow {names : Location} (plain : fs.NoLinks)
    (leads : fs.Leads directory around) (storable : ∀ name ∈ names, IsStorable name)
    (present : (fs.stored (around ++ names)).isSome = true) :
    fs.Leads (pathBelow directory names) (around ++ names) := by
  induction names generalizing directory around with
  | nil => rwa [List.append_nil]
  | cons name rest ih =>
    obtain ⟨first, others⟩ := List.forall_mem_cons.mp storable
    have inside := stored_of_stored_append (List.cons_ne_nil name rest) present
    rw [List.append_cons] at present ⊢
    have next : (fs.stored (around ++ [name])).isSome = true := by
      cases rest with
      | nil => rwa [List.append_nil] at present
      | cons second more =>
        rw [stored_of_stored_append (List.cons_ne_nil second more) present]
        rfl
    have led := leads_join first.toIsName leads inside first.short (plain.has_of_isSome next)
    exact ih led others present

end FileSystem

theorem parts_pathBelow {names : Location} (storable : ∀ name ∈ names, IsStorable name)
    (directory : Path) : parts (pathBelow directory names) = parts directory ++ names := by
  induction names generalizing directory with
  | nil => exact (List.append_nil _).symm
  | cons name rest ih =>
    obtain ⟨first, others⟩ := List.forall_mem_cons.mp storable
    rw [pathBelow, List.foldl_cons, ← pathBelow, ih others, parts_join first.toIsName,
      ← List.append_cons]

theorem endsWithSlash_pathBelow {directory : Path} {names : Location} (nonempty : names ≠ [])
    (storable : ∀ name ∈ names, IsStorable name) :
    endsWithSlash (pathBelow directory names) = false := by
  obtain ⟨before, last, rfl⟩ := (List.eq_nil_or_concat' names).resolve_left nonempty
  rw [pathBelow, List.foldl_append]
  exact endsWithSlash_join (storable last List.mem_concat_self).toIsName

variable {directory : Path} {name : Name} {names : Location}

theorem mem_join {byte : UInt8} (member : byte ∈ join directory name) :
    byte ∈ directory ∨ byte = slash ∨ byte ∈ name := by
  unfold join at member
  split at member
  · exact (List.mem_append.mp member).imp_right .inr
  · exact (List.mem_append.mp member).imp_right List.mem_cons.mp

theorem join_ne_nil (given : directory ≠ []) : join directory name ≠ [] := by
  unfold join
  split <;> exact List.append_ne_nil_of_left_ne_nil given _

/-- Names that can be stored add nothing to a path with which it could not be passed on. -/
theorem pathBelow_given (storable : ∀ name ∈ names, IsStorable name)
    (given : 0 ∉ directory ∧ directory ≠ []) :
    0 ∉ pathBelow directory names ∧ pathBelow directory names ≠ [] := by
  induction names generalizing directory with
  | nil => exact given
  | cons name rest ih =>
    obtain ⟨first, others⟩ := List.forall_mem_cons.mp storable
    refine ih others ⟨fun zero => ?_, join_ne_nil given.2⟩
    rcases mem_join zero with early | same | late
    · exact given.1 early
    · cases same
    · exact first.noZero late

/-- So it is only passed on unless it becomes too long. -/
theorem checkPath_pathBelow_iff (storable : ∀ name ∈ names, IsStorable name)
    (checked : checkPath directory = .ok ()) :
    checkPath (pathBelow directory names) = .ok () ↔
      (pathBelow directory names).length ≤ maxPathSize := by
  have given := pathBelow_given storable (FileSystem.checkPath_eq_ok_iff.mp checked).1
  rw [FileSystem.checkPath_eq_ok_iff, and_iff_right given]

end ContractBinder.Files
