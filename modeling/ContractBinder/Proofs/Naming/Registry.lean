import Mathlib.Data.List.Nodup
import Mathlib.Data.List.Perm.Subperm
import ContractBinder.Naming.Registry
import ContractBinder.Proofs.Text.Decimal

/-!
# Names from a registry

A registry gives every name at most once. A search for a free number succeeds,
as it tries more numbers than names are taken; the counters only say where it
begins.

Results:

1. A name that is given was free before (`isTaken_unique_fst`) and is the only
   name that is taken from then on (`isTaken_unique_iff`).
2. Names that were given to a scope stay distinct (`Holds.unique`,
   `Holds.uniqueAll`).
3. A base is given as it is exactly if it is free (`unique_fst_eq_self_iff`,
   `getElem?_uniqueAll_eq_self_iff`).
-/

namespace ContractBinder.Naming.Registry

variable {registry : Registry} {base name : String}

/-! ## 1. Taken names -/

theorem isTaken_iff : registry.isTaken name = true ↔ name ∈ registry.counters.map Prod.fst := by
  rw [isTaken, counter?, List.lookup_isSome_iff, List.mem_map]
  simp only [beq_iff_eq, eq_comm (a := name)]

theorem isTaken_setCounter_iff {number : Nat} :
    (registry.setCounter base number).isTaken name = true ↔
      name = base ∨ registry.isTaken name = true := by
  simp only [isTaken_iff, setCounter, List.map_cons, List.mem_cons]

theorem isTaken_reserve_iff :
    (registry.reserve base).isTaken name = true ↔ name = base ∨ registry.isTaken name = true := by
  unfold reserve
  split
  · next taken =>
    refine ⟨.inr, ?_⟩
    rintro (rfl | before)
    · exact taken
    · exact before
  · exact isTaken_setCounter_iff

theorem isTaken_reserveAll_iff {names : List String} :
    (registry.reserveAll names).isTaken name = true ↔
      name ∈ names ∨ registry.isTaken name = true := by
  unfold reserveAll
  induction names generalizing registry with
  | nil => simp
  | cons first rest ih =>
    rw [List.foldl_cons, ih, isTaken_reserve_iff, List.mem_cons]
    tauto

/-! ## 2. Free numbers -/

theorem numbered_injective (base : String) : Function.Injective (numbered base) := by
  intro first second same
  have digits := congrArg String.toList same
  simp only [numbered, String.toList_append, Nat.toList_repr, List.append_cancel_left_eq] at digits
  exact Text.toDigits_injective digits

/-- Every number before the one that is found has a taken name. -/
theorem isTaken_of_lt_seek {bound start number : Nat} (low : start ≤ number)
    (high : number < registry.seek base bound start) :
    registry.isTaken (numbered base number) = true := by
  induction bound generalizing start with
  | zero => exact absurd (Nat.lt_of_le_of_lt low high) (Nat.lt_irrefl start)
  | succ bound ih =>
    rw [seek] at high
    split at high
    · next taken =>
      rcases Nat.eq_or_lt_of_le low with rfl | later
      · exact taken
      · exact ih later high
    · exact absurd (Nat.lt_of_le_of_lt low high) (Nat.lt_irrefl start)

theorem isTaken_seek {bound start : Nat}
    (found : registry.seek base bound start < start + bound) :
    registry.isTaken (numbered base (registry.seek base bound start)) = false := by
  induction bound generalizing start with
  | zero => exact absurd found (Nat.lt_irrefl start)
  | succ bound ih =>
    rw [seek] at found ⊢
    split at found
    · next taken =>
      rw [if_pos taken]
      exact ih (by omega)
    · next free =>
      rw [if_neg free]
      exact Bool.eq_false_iff.mpr free

/-- A search does not run out of numbers: their names would be more than the
registry has. -/
theorem firstFree_lt (start : Nat) :
    registry.firstFree base start < start + (registry.counters.length + 1) := by
  -- Otherwise every number that was tried has a taken name, and these are one more than all.
  by_contra exhausted
  let tried := (List.range (registry.counters.length + 1)).map fun step =>
    numbered base (start + step)
  have distinct : tried.Nodup :=
    List.nodup_range.map fun _ _ same => Nat.add_left_cancel (numbered_injective base same)
  have covered : tried ⊆ registry.counters.map Prod.fst := by
    intro name member
    obtain ⟨step, inRange, rfl⟩ := List.mem_map.mp member
    have skipped : start + step < registry.firstFree base start :=
      Nat.lt_of_lt_of_le (Nat.add_lt_add_left (List.mem_range.mp inRange) start)
        (Nat.le_of_not_lt exhausted)
    exact isTaken_iff.mp (isTaken_of_lt_seek (Nat.le_add_right start step) skipped)
  have enough := (distinct.subperm covered).length_le
  simp only [tried, List.length_map, List.length_range] at enough
  omega

theorem isTaken_firstFree (start : Nat) :
    registry.isTaken (numbered base (registry.firstFree base start)) = false :=
  isTaken_seek (firstFree_lt start)

/-! ## 3. Given names -/

theorem counter?_eq_none_iff : registry.counter? base = none ↔ registry.isTaken base = false := by
  rw [isTaken, Option.isSome_eq_false_iff, Option.isNone_iff_eq_none]

/-- A free base is given as it is. -/
theorem unique_of_free (free : registry.isTaken base = false) :
    registry.unique base = (base, registry.reserve base) := by
  unfold unique
  rw [counter?_eq_none_iff.mpr free]

/-- A base that is taken is given with a number behind it. -/
theorem unique_of_taken (taken : registry.isTaken base = true) :
    ∃ last, (registry.unique base).1 = numbered base (registry.firstFree base (last + 1)) ∧
      (registry.unique base).2 =
        (registry.setCounter base (registry.firstFree base (last + 1))).reserve
          (registry.unique base).1 := by
  obtain ⟨last, found⟩ := Option.isSome_iff_exists.mp taken
  refine ⟨last, ?_, ?_⟩ <;> simp only [unique, found]

theorem isTaken_unique_fst : registry.isTaken (registry.unique base).1 = false := by
  cases taken : registry.isTaken base with
  | false => rw [unique_of_free taken, taken]
  | true =>
    obtain ⟨last, given, _⟩ := unique_of_taken taken
    rw [given]
    exact isTaken_firstFree (last + 1)

theorem isTaken_unique_iff :
    (registry.unique base).2.isTaken name = true ↔
      name = (registry.unique base).1 ∨ registry.isTaken name = true := by
  cases taken : registry.isTaken base with
  | false =>
    rw [unique_of_free taken]
    exact isTaken_reserve_iff
  | true =>
    obtain ⟨last, _, next⟩ := unique_of_taken taken
    rw [next, isTaken_reserve_iff, isTaken_setCounter_iff]
    refine or_congr_right ⟨?_, .inr⟩
    rintro (rfl | before)
    · exact taken
    · exact before

/-- What holds of a base and of its numbered names holds of the given name. -/
theorem unique_fst_cases {motive : String → Prop} (asIs : motive base)
    (withNumber : ∀ number, motive (numbered base number)) : motive (registry.unique base).1 := by
  cases taken : registry.isTaken base with
  | false => rwa [unique_of_free taken]
  | true =>
    obtain ⟨last, given, _⟩ := unique_of_taken taken
    rw [given]
    exact withNumber _

/-- A base is given as it is exactly if it is free. -/
theorem unique_fst_eq_self_iff :
    (registry.unique base).1 = base ↔ registry.isTaken base = false := by
  constructor
  · intro same
    have free := @isTaken_unique_fst registry base
    rwa [same] at free
  · intro free
    rw [unique_of_free free]

/-! ## 4. Scopes -/

/-- A registry holds names if they are distinct and all taken. -/
structure Holds (registry : Registry) (names : List String) : Prop where
  distinct : names.Nodup
  taken : ∀ name ∈ names, registry.isTaken name = true

namespace Holds

variable {names others : List String}

theorem perm (held : registry.Holds names) (same : others.Perm names) : registry.Holds others :=
  ⟨same.nodup_iff.mpr held.distinct, fun name member => held.taken name (same.mem_iff.mp member)⟩

theorem single (name : String) : (Registry.empty.reserve name).Holds [name] :=
  ⟨List.nodup_singleton name, fun _ member =>
    isTaken_reserve_iff.mpr (.inl (List.mem_singleton.mp member))⟩

theorem reserveAll (distinct : names.Nodup) : (Registry.empty.reserveAll names).Holds names :=
  ⟨distinct, fun _ member => isTaken_reserveAll_iff.mpr (.inl member)⟩

/-- A name that is given differs from all names before. -/
theorem unique (held : registry.Holds names) (base : String) :
    (registry.unique base).2.Holds ((registry.unique base).1 :: names) := by
  refine ⟨List.nodup_cons.mpr ⟨fun member => ?_, held.distinct⟩, ?_⟩
  · have taken := held.taken _ member
    rw [isTaken_unique_fst] at taken
    cases taken
  · intro name member
    rcases List.mem_cons.mp member with same | before
    · exact isTaken_unique_iff.mpr (.inl same)
    · exact isTaken_unique_iff.mpr (.inr (held.taken name before))

end Holds

/-! ## 5. Names for several bases -/

theorem length_uniqueAll (registry : Registry) (bases : List String) :
    (registry.uniqueAll bases).1.length = bases.length := by
  induction bases generalizing registry with
  | nil => rfl
  | cons base others ih => simp only [uniqueAll, List.length_cons, ih]

/-- What holds of every base and of its numbered names holds of every given name. -/
theorem of_mem_uniqueAll {motive : String → Prop} {bases : List String}
    (asIs : ∀ base ∈ bases, motive base)
    (withNumber : ∀ base ∈ bases, ∀ number, motive (numbered base number))
    (member : name ∈ (registry.uniqueAll bases).1) : motive name := by
  induction bases generalizing registry with
  | nil => exact absurd member List.not_mem_nil
  | cons base others ih =>
    simp only [uniqueAll, List.mem_cons] at member
    rcases member with rfl | later
    · exact unique_fst_cases (asIs base List.mem_cons_self) (withNumber base List.mem_cons_self)
    · exact ih (fun other h => asIs other (List.mem_cons_of_mem base h))
        (fun other h => withNumber other (List.mem_cons_of_mem base h)) later

/-- A base is given as it is exactly if it was free at the start and none of the names that
were given before is the same. -/
theorem getElem?_uniqueAll_eq_self_iff {bases : List String} {position : Nat}
    (wanted : bases[position]? = some base) :
    (registry.uniqueAll bases).1[position]? = some base ↔
      registry.isTaken base = false ∧ base ∉ (registry.uniqueAll bases).1.take position := by
  induction bases generalizing registry position with
  | nil => cases wanted
  | cons first others ih =>
    unfold uniqueAll
    cases position with
    | zero =>
      obtain rfl : first = base := Option.some.inj wanted
      rw [List.getElem?_cons_zero, Option.some.injEq, unique_fst_eq_self_iff]
      exact (and_iff_left List.not_mem_nil).symm
    | succ position =>
      have step : (registry.unique first).2.isTaken base = false ↔
          base ≠ (registry.unique first).1 ∧ registry.isTaken base = false := by
        rw [← Bool.not_eq_true, ← Bool.not_eq_true, isTaken_unique_iff, not_or]
      rw [List.getElem?_cons_succ] at wanted ⊢
      rw [ih wanted, step, List.take_succ_cons, List.mem_cons, not_or, and_assoc, and_left_comm]

/-- The names that are given differ from each other and from all names before. -/
theorem Holds.uniqueAll {names : List String} (held : registry.Holds names)
    (bases : List String) :
    (registry.uniqueAll bases).2.Holds ((registry.uniqueAll bases).1 ++ names) := by
  induction bases generalizing registry names with
  | nil => exact held
  | cons base others ih =>
    simp only [Registry.uniqueAll, List.cons_append]
    exact (ih (held.unique base)).perm List.perm_middle.symm

end ContractBinder.Naming.Registry
