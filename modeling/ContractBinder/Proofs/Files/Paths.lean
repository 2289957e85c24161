import ContractBinder.Files.Path
import ContractBinder.Proofs.Text.Bytes
import ContractBinder.Proofs.Text.Splitting

/-!
# Paths into directories

The path of something in a directory has the parts of the directory's path and its
name behind them (`parts_join`), and starts where the directory's path starts. A text is
such a name if it has no slash in it and something other than dots (`isName_bytes`).
-/

namespace ContractBinder.Files

/-- What something in a directory can be called. -/
structure IsName (name : Name) : Prop where
  noSlash : slash ∉ name
  nonempty : name ≠ []
  proper : isDotName name = false

instance (name : Name) : Decidable (IsName name) :=
  decidable_of_iff (slash ∉ name ∧ name ≠ [] ∧ isDotName name = false)
    ⟨fun h => ⟨h.1, h.2.1, h.2.2⟩, fun h => ⟨h.noSlash, h.nonempty, h.proper⟩⟩

theorem parts_append (before behind : Path) :
    parts (before ++ slash :: behind) = parts before ++ parts behind := by
  simp only [parts, Text.splitOn_eq, List.splitOn_append_cons_self, List.filter_append]

theorem parts_nil : parts [] = [] := rfl

variable {directory : Path} {name : Name}

theorem IsName.parts_eq (named : IsName name) : parts name = [name] := by
  have kept : [name].filter (!·.isEmpty) = [name] := by
    simpa using named.nonempty
  rw [parts, Text.splitOn_eq, List.splitOn_eq_singleton named.noSlash, kept]

/-- A slash is put in front of the name, unless there is one or the directory's path is empty. -/
theorem join_cases (directory : Path) (name : Name) :
    (directory = [] ∧ join directory name = name) ∨
      ∃ before, join directory name = before ++ slash :: name ∧
        (directory = before ++ [slash] ∨ directory = before ∧ before ≠ []) := by
  unfold join
  split
  · next closed =>
    rcases Bool.or_eq_true_iff.mp closed with empty | ends
    · obtain rfl := List.isEmpty_iff.mp empty
      exact .inl ⟨rfl, rfl⟩
    · obtain ⟨before, rfl⟩ := List.getLast?_eq_some_iff.mp (of_decide_eq_true ends)
      exact .inr ⟨before, List.append_assoc _ _ _, .inl rfl⟩
  · next open_ =>
    have nonempty : directory ≠ [] := by
      rintro rfl
      exact open_ rfl
    exact .inr ⟨directory, rfl, .inr ⟨rfl, nonempty⟩⟩

theorem parts_join (named : IsName name) :
    parts (join directory name) = parts directory ++ [name] := by
  rcases join_cases directory name with ⟨rfl, joined⟩ | ⟨before, joined, rfl | ⟨rfl, _⟩⟩
  · rw [joined, named.parts_eq, parts_nil, List.nil_append]
  · rw [joined, parts_append, parts_append, named.parts_eq, parts_nil, List.append_nil]
  · rw [joined, parts_append, named.parts_eq]

theorem isAbsolute_join (named : IsName name) :
    isAbsolute (join directory name) = isAbsolute directory := by
  have relative : name.head? ≠ some slash := fun head => named.noSlash (List.mem_of_head? head)
  unfold isAbsolute
  rcases join_cases directory name with ⟨rfl, joined⟩ | ⟨before, joined, rfl | ⟨rfl, nonempty⟩⟩
  · rw [joined]
    simpa using relative
  · rw [joined]
    cases before <;> rfl
  · rw [joined]
    cases directory with
    | nil => exact absurd rfl nonempty
    | cons _ _ => rfl

theorem endsWithSlash_join (named : IsName name) :
    endsWithSlash (join directory name) = false := by
  have last : name.getLast? ≠ some slash := fun ends => named.noSlash (List.mem_of_getLast? ends)
  obtain ⟨byte, found⟩ :=
    Option.ne_none_iff_exists'.mp (mt List.getLast?_eq_none_iff.mp named.nonempty)
  refine decide_eq_false ?_
  rcases join_cases directory name with ⟨_, joined⟩ | ⟨before, joined, _⟩
  · rwa [joined]
  · rwa [joined, List.getLast?_append, List.getLast?_cons, found, Option.getD_some,
      Option.some_or, ← found]

/-- The components of a path are its parts but for dots. -/
theorem filter_components (path : Path) :
    (components path).filter (· ≠ dot) = (parts path).filter (· ≠ dot) := by
  unfold components
  cases parts path with
  | nil => rfl
  | cons first rest =>
    have twice : (rest.filter (· ≠ dot)).filter (· ≠ dot) = rest.filter (· ≠ dot) := by
      rw [List.filter_filter]
      simp only [Bool.and_self]
    rw [List.filter_append, twice]
    split
    · next dropped =>
      have same : first = dot := of_decide_eq_true (Bool.and_eq_true_iff.mp dropped).1
      rw [same]
      rfl
    · rw [← List.filter_append]
      rfl

/-- A text without slashes, in which something other than a dot stands. -/
theorem isName_bytes {text : String} (noSlash : '/' ∉ text.toList)
    (proper : ∃ c ∈ text.toList, c ≠ '.') : IsName (Text.bytes text) := by
  obtain ⟨c, inside, noDot⟩ := proper
  have differs {other : String} (same : Text.bytes text = Text.bytes other) :
      c ∈ other.toList :=
    Text.bytes_injective same ▸ inside
  have notEmpty : Text.bytes text ≠ Text.bytes "" := fun same => by simpa using differs same
  have notDot : Text.bytes text ≠ Text.bytes "." := fun same => noDot (by simpa using differs same)
  have notDotDot : Text.bytes text ≠ Text.bytes ".." := fun same =>
    noDot (by simpa using differs same)
  refine ⟨?_, notEmpty, ?_⟩
  · rwa [Text.mem_bytes_iff (c := '/') (by decide) rfl]
  · simp only [isDotName, Bool.or_eq_false_iff, decide_eq_false_iff_not]
    exact ⟨notDot, notDotDot⟩

end ContractBinder.Files
