import ContractBinder.Proofs.Files.Order
import ContractBinder.Proofs.Files.Writing

/-!
# Writing again

Writing a text where it is stored leaves a tree in order as it is (`Holds.writeText_again`),
and so does making a directory that is there (`makeDirectoryAt_of_leads`). A tree in
order stays in order whatever is written (`isOrdered_writeText`,
`isOrdered_makeDirectoryAt`).
-/

namespace ContractBinder.Files.FileSystem

variable {fs before after : FileSystem} {path directory : Path} {name : Name} {text : String}
  {around location : Location}

/-! ## 1. Order -/

theorem isOrdered_writeText (ordered : before.root.IsOrdered)
    (done : before.writeText path text = .ok after) : after.root.IsOrdered := by
  obtain ⟨place, _, rfl⟩ := writeText_eq_ok_iff.mp done
  exact ordered.put (.file _)

theorem isOrdered_makeDirectory {steps : List Name}
    (ordered : before.root.IsOrdered) (done : before.makeDirectory path steps = .ok after) :
    after.root.IsOrdered := by
  unfold makeDirectory at done
  split at done
  · cases done
  obtain ⟨⟨location, old⟩, _, done⟩ := Outcome.bind_eq_ok_iff.mp done
  simp only at done
  split at done
  · cases done
  · cases done
    exact ordered.put Node.isOrdered_directory_nil

theorem isOrdered_makeDirectories {surroundings : List (List Name)}
    (ordered : fs.root.IsOrdered) : (fs.makeDirectories path surroundings).1.root.IsOrdered := by
  induction surroundings with
  | nil => exact ordered
  | cons steps surroundings ih =>
    rw [makeDirectories]
    split
    · next made done => exact isOrdered_makeDirectory ordered done
    · split
      · next prepared _ failed => rwa [failed] at ih
      · next prepared done =>
        rw [done] at ih
        split
        · next made last => exact isOrdered_makeDirectory ih last
        · exact ih
    · exact ordered

theorem isOrdered_makeDirectoryAt (path : Path) (ordered : fs.root.IsOrdered) :
    (fs.makeDirectoryAt path).1.root.IsOrdered := by
  unfold makeDirectoryAt
  split
  · exact ordered
  split
  · exact ordered
  split
  · exact ordered
  · exact isOrdered_makeDirectories ordered

/-! ## 2. What is there already -/

theorem put_eq_self {node : Node} (ordered : fs.root.IsOrdered)
    (there : fs.get? location = some node) : fs.put location node = fs := by
  rw [put, ordered.put_eq_self there]

/-- Writing a text again changes nothing. -/
theorem Holds.writeText_again (holds : fs.Holds directory name text around) (named : IsName name)
    (ordered : fs.root.IsOrdered) : fs.writeText (join directory name) text = .ok fs := by
  have there := get?_of_stored_file holds.there
  have leads := leads_join named holds.leads holds.inside holds.short (.inr ⟨_, holds.there⟩)
  refine writeText_eq_ok_iff.mpr ⟨.taken (around ++ [name]), ?_, (put_eq_self ordered there).symm⟩
  exact
    { walks := .stays leads
      writable := by rw [isWritable, there]
      noSlash := endsWithSlash_join named
      checked := holds.checked }

/-- A directory cannot be made where steps lead already. -/
theorem makeDirectory_of_goes {steps : List Name} (nonempty : steps ≠ [])
    (goes : fs.Goes (fs.startOf path) steps around) :
    fs.makeDirectory path steps = .error .alreadyExists := by
  obtain ⟨first, last, rfl⟩ := (List.eq_nil_or_concat' steps).resolve_left nonempty
  obtain ⟨inner, goes, final⟩ := goes_append_iff.mp goes
  obtain ⟨inside, turn⟩ := goes_cons_iff.mp final
  have short : last.length ≤ maxNameSize := by
    rcases turn with ⟨rfl, _⟩ | ⟨rfl, _⟩ | ⟨canLookUp, _⟩
    · decide
    · decide
    · exact canLookUp.short
  have taken : isDotName last = true ∨ (fs.get? (inner ++ [last])).isSome = true := by
    rcases turn with ⟨rfl, _⟩ | ⟨rfl, _⟩ | ⟨_, has, _⟩
    · exact .inl rfl
    · exact .inl rfl
    · rw [← Option.isSome_map (f := Node.stored), ← stored]
      rcases has with directory | ⟨content, file⟩
      · rw [directory]
        exact .inr rfl
      · rw [file]
        exact .inr rfl
  have placed := place_eq_ok_iff.mpr ⟨inner, .stays goes, inside, short, rfl, rfl⟩
  unfold makeDirectory
  rw [List.reverse_append, List.reverse_singleton, List.singleton_append]
  simp only [List.reverse_reverse, placed]
  exact if_pos (Bool.or_eq_true_iff.mpr taken)

theorem leadsToDirectory_of_goes {steps : List Name}
    (goes : fs.Goes (fs.startOf path) steps location)
    (there : fs.stored location = some .directory) : fs.leadsToDirectory path steps = true := by
  rw [leadsToDirectory, locateFrom_eq_ok_iff.mpr (.stays goes)]
  exact hasDirectory_iff.mpr there

/-- Making a directory again changes nothing. -/
theorem makeDirectoryAt_of_leads (accepted : (before.makeDirectoryAt path).2 = .ok ())
    (leads : fs.Leads path around) (there : fs.stored around = some .directory) :
    fs.makeDirectoryAt path = (fs, .ok ()) := by
  unfold makeDirectoryAt at accepted ⊢
  split
  · rfl
  next given =>
  rw [if_neg given] at accepted
  cases checked : checkPath path with
  | error fault =>
    rw [checked] at accepted
    cases accepted
  | ok _ =>
    simp only
    split
    · rfl
    next someParts =>
    have nonempty : parts path ≠ [] := fun none => someParts (by rw [none]; rfl)
    rw [makeDirectories, makeDirectory_of_goes nonempty leads]
    simp only [leadsToDirectory_of_goes leads there, if_true]

end ContractBinder.Files.FileSystem
