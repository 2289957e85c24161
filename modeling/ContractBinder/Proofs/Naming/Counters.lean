import Mathlib.Data.Finset.Preimage
import Mathlib.Data.Fintype.EquivFin
import Mathlib.Order.Nat
import ContractBinder.Proofs.Naming.Registry

/-!
# Counters only save work

A registry remembers for every taken name how far it has searched behind it. A plain
scope remembers the taken names only, and searches from one each time. Both give the
same answers, as every number that was searched before has a taken name, and a taken
name is never given back.

Results:

1. `Registry.search_firstFree`: a search upwards from any number ends.
2. `Agrees.serve`: one request keeps a registry and a plain scope in step.
3. `Registry.isTaken_serveAll_iff`: the taken names are those that were reserved or given.
4. `counters_only_save_work`: what all this means for a fresh registry.
-/

namespace ContractBinder.Naming

/-! ## 1. Requests -/

/-- What a scope is asked. -/
inductive Request where
  /-- To take a name. -/
  | reserve (name : String)
  /-- Whether a name is taken. -/
  | isTaken (name : String)
  /-- For a name that nobody else has. -/
  | unique (base : String)
  deriving DecidableEq, Repr

inductive Answer where
  | reserved
  | taken (value : Bool)
  | given (name : String)
  deriving DecidableEq, Repr

/-- The answers to several requests, one after the other, and the scope after them. -/
def serveAll {Scope : Type} (serve : Scope → Request → Answer × Scope) (scope : Scope) :
    List Request → List Answer × Scope
  | [] => ([], scope)
  | request :: later =>
    let (answer, next) := serve scope request
    let (answers, last) := serveAll serve next later
    (answer :: answers, last)

def Registry.serve (registry : Registry) : Request → Answer × Registry
  | .reserve name => (.reserved, registry.reserve name)
  | .isTaken name => (.taken (registry.isTaken name), registry)
  | .unique base => (.given (registry.unique base).1, (registry.unique base).2)

/-! ## 2. The plain scope -/

/-- A scope that keeps the set of taken names and nothing else. -/
abbrev TakenNames := Finset String

namespace TakenNames

theorem exists_free (taken : TakenNames) (base : String) :
    ∃ number, 1 ≤ number ∧ Registry.numbered base number ∉ taken := by
  have injective : Function.Injective fun step => Registry.numbered base (step + 1) :=
    fun _ _ same => Nat.succ.inj (Registry.numbered_injective base same)
  obtain ⟨step, free⟩ := Infinite.exists_notMem_finset (taken.preimage _ injective.injOn)
  exact ⟨step + 1, Nat.le_add_left 1 step, by simpa using free⟩

/-- The least number from one on whose name behind `base` is free. -/
def leastFree (taken : TakenNames) (base : String) : Nat :=
  Nat.find (taken.exists_free base)

/-- A free base itself, and otherwise the base with the least free number. -/
def nameFor (taken : TakenNames) (base : String) : String :=
  if base ∈ taken then Registry.numbered base (taken.leastFree base) else base

/-- What a plain scope answers. -/
def serve (taken : TakenNames) : Request → Answer × TakenNames
  | .reserve name => (.reserved, insert name taken)
  | .isTaken name => (.taken (decide (name ∈ taken)), taken)
  | .unique base => (.given (taken.nameFor base), insert (taken.nameFor base) taken)

end TakenNames

/-! ## 3. Searches -/

namespace Registry

variable {registry : Registry} {base name : String}

/-- `registry.Search base start number`: a search that goes up from `start`, however far,
ends at `number`. -/
inductive Search (registry : Registry) (base : String) : Nat → Nat → Prop
  | free {start : Nat} : registry.isTaken (numbered base start) = false →
      Search registry base start start
  | next {start number : Nat} : registry.isTaken (numbered base start) = true →
      Search registry base (start + 1) number → Search registry base start number

theorem Search.le {start number : Nat} (search : registry.Search base start number) :
    start ≤ number := by
  induction search with
  | free => exact Nat.le_refl _
  | next _ _ ih => exact Nat.le_of_succ_le ih

theorem search_seek {bound start : Nat}
    (found : registry.isTaken (numbered base (registry.seek base bound start)) = false) :
    registry.Search base start (registry.seek base bound start) := by
  induction bound generalizing start with
  | zero => exact .free found
  | succ bound ih =>
    rw [seek] at found ⊢
    split at found
    · next taken =>
      rw [if_pos taken]
      exact .next taken (ih found)
    · next free =>
      rw [if_neg free]
      exact .free (Bool.eq_false_iff.mpr free)

/-- A search ends, and the bound on its length does not stop it before. -/
theorem search_firstFree (registry : Registry) (base : String) (start : Nat) :
    registry.Search base start (registry.firstFree base start) :=
  search_seek (isTaken_firstFree start)

theorem counter?_setCounter (number : Nat) :
    (registry.setCounter base number).counter? name =
      if name = base then some number else registry.counter? name := by
  rw [setCounter, counter?, List.lookup_cons, counter?]
  by_cases same : name = base
  · rw [if_pos same, same, beq_self_eq_true]
  · rw [if_neg same, beq_eq_false_iff_ne.mpr same]

theorem counter?_reserve {last : Nat} (found : (registry.reserve base).counter? name = some last) :
    registry.counter? name = some last ∨ last = 0 := by
  unfold reserve at found
  split at found
  · exact .inl found
  · change (registry.setCounter base 0).counter? name = some last at found
    rw [counter?_setCounter] at found
    split at found
    · exact .inr (Option.some.inj found).symm
    · exact .inl found

end Registry

/-! ## 4. Both scopes in step -/

/-- A registry and a plain scope have the same taken names, and the registry has searched
taken numbers only. -/
structure Agrees (registry : Registry) (taken : TakenNames) : Prop where
  names : ∀ name, registry.isTaken name = true ↔ name ∈ taken
  searched : ∀ base last, registry.counter? base = some last →
    ∀ number, 1 ≤ number → number ≤ last → Registry.numbered base number ∈ taken

namespace Agrees

variable {registry : Registry} {taken : TakenNames} {base : String}

theorem empty : Agrees Registry.empty ∅ :=
  ⟨fun _ => by simp [Registry.isTaken, Registry.counter?, Registry.empty],
    fun _ _ found => nomatch found⟩

theorem notTaken (agrees : Agrees registry taken) (name : String) :
    registry.isTaken name = false ↔ name ∉ taken := by
  rw [← agrees.names, Bool.not_eq_true]

/-- A search behind a name that goes on where the last one ended finds the least number. -/
theorem firstFree_eq (agrees : Agrees registry taken) {last : Nat}
    (found : registry.counter? base = some last) :
    registry.firstFree base (last + 1) = taken.leastFree base := by
  have free : Registry.numbered base (registry.firstFree base (last + 1)) ∉ taken :=
    (agrees.notTaken _).mp (Registry.isTaken_firstFree (last + 1))
  have behind : ∀ number, last + 1 ≤ number → number < registry.firstFree base (last + 1) →
      Registry.numbered base number ∈ taken := fun number low high =>
    (agrees.names _).mp (Registry.isTaken_of_lt_seek low high)
  have positive : 1 ≤ registry.firstFree base (last + 1) :=
    Nat.le_trans (Nat.le_add_left 1 last) (registry.search_firstFree base (last + 1)).le
  refine ((Nat.find_eq_iff _).mpr ⟨⟨positive, free⟩, fun number small => ?_⟩).symm
  rintro ⟨fromOne, notTaken⟩
  rcases Nat.lt_or_ge last number with later | early
  · exact notTaken (behind number later small)
  · exact notTaken (agrees.searched base last found number fromOne early)

theorem unique_fst (agrees : Agrees registry taken) (base : String) :
    (registry.unique base).1 = taken.nameFor base := by
  unfold TakenNames.nameFor
  split
  · next inTaken =>
    obtain ⟨last, found⟩ := Option.isSome_iff_exists.mp ((agrees.names base).mpr inTaken)
    simp only [Registry.unique, found]
    rw [agrees.firstFree_eq found]
  · next free => rw [Registry.unique_of_free ((agrees.notTaken base).mpr free)]

/-- After a name was given, all numbers that were tried for it have taken names. -/
theorem unique_snd (agrees : Agrees registry taken) (base : String) :
    Agrees (registry.unique base).2 (insert (taken.nameFor base) taken) where
  names := fun name => by
    rw [Registry.isTaken_unique_iff, agrees.unique_fst, agrees.names, Finset.mem_insert]
  searched := by
    intro other last found number positive small
    cases inTaken : registry.isTaken base with
    | false =>
      rw [Registry.unique_of_free inTaken] at found
      rcases Registry.counter?_reserve found with before | rfl
      · exact Finset.mem_insert_of_mem (agrees.searched other last before number positive small)
      · omega
    | true =>
      obtain ⟨previous, counted⟩ := Option.isSome_iff_exists.mp inTaken
      have given := agrees.unique_fst base
      simp only [Registry.unique, counted] at found given
      rcases Registry.counter?_reserve found with noted | rfl
      · rw [Registry.counter?_setCounter] at noted
        split at noted
        · next same =>
          obtain rfl := Option.some.inj noted
          subst same
          -- The last number was given just now, and those before it were not free.
          rcases Nat.lt_or_eq_of_le small with earlier | rfl
          · refine Finset.mem_insert_of_mem ?_
            by_contra free
            rw [agrees.firstFree_eq counted] at earlier
            exact Nat.find_min (taken.exists_free other) earlier ⟨positive, free⟩
          · exact given ▸ Finset.mem_insert_self _ _
        · exact Finset.mem_insert_of_mem (agrees.searched other last noted number positive small)
      · omega

theorem reserve (agrees : Agrees registry taken) (name : String) :
    Agrees (registry.reserve name) (insert name taken) where
  names := fun other => by
    rw [Registry.isTaken_reserve_iff, agrees.names, Finset.mem_insert]
  searched := by
    intro other last found number positive small
    rcases Registry.counter?_reserve found with before | rfl
    · exact Finset.mem_insert_of_mem (agrees.searched other last before number positive small)
    · omega

/-- One request: both scopes give the same answer, and stay in step. -/
theorem serve (agrees : Agrees registry taken) (request : Request) :
    (registry.serve request).1 = (taken.serve request).1 ∧
      Agrees (registry.serve request).2 (taken.serve request).2 := by
  cases request with
  | reserve name => exact ⟨rfl, agrees.reserve name⟩
  | isTaken name =>
    refine ⟨congrArg Answer.taken ?_, agrees⟩
    rw [Bool.eq_iff_iff, agrees.names, decide_eq_true_eq]
  | unique base => exact ⟨congrArg Answer.given (agrees.unique_fst base), agrees.unique_snd base⟩

/-- Any requests. -/
theorem serveAll (agrees : Agrees registry taken) (requests : List Request) :
    (serveAll Registry.serve registry requests).1 =
        (serveAll TakenNames.serve taken requests).1 ∧
      Agrees (serveAll Registry.serve registry requests).2
        (serveAll TakenNames.serve taken requests).2 := by
  induction requests generalizing registry taken with
  | nil => exact ⟨rfl, agrees⟩
  | cons request later ih =>
    obtain ⟨sameAnswer, next⟩ := agrees.serve request
    obtain ⟨sameAnswers, last⟩ := ih next
    exact ⟨congrArg₂ List.cons sameAnswer sameAnswers, last⟩

end Agrees

/-! ## 5. Taken names -/

theorem Registry.isTaken_serve_iff {registry : Registry} {request : Request} {name : String} :
    (registry.serve request).2.isTaken name = true ↔
      registry.isTaken name = true ∨ request = .reserve name ∨
        (registry.serve request).1 = .given name := by
  cases request with
  | reserve other =>
    simp only [serve, isTaken_reserve_iff, Request.reserve.injEq, reduceCtorEq, or_false]
    rw [or_comm, eq_comm (a := name)]
  | isTaken other => simp [serve]
  | unique base =>
    simp only [serve, isTaken_unique_iff, Answer.given.injEq, reduceCtorEq, false_or]
    rw [or_comm, eq_comm (a := name)]

/-- A name is taken if it was taken before, was reserved, or was given. -/
theorem Registry.isTaken_serveAll_iff {registry : Registry} {requests : List Request}
    {name : String} :
    (serveAll Registry.serve registry requests).2.isTaken name = true ↔
      registry.isTaken name = true ∨ .reserve name ∈ requests ∨
        .given name ∈ (serveAll Registry.serve registry requests).1 := by
  induction requests generalizing registry with
  | nil => simp [serveAll]
  | cons request later ih =>
    simp only [serveAll, ih, isTaken_serve_iff, List.mem_cons]
    rw [eq_comm (a := request), eq_comm (b := Answer.given name)]
    tauto

/-- The counters only save work. A fresh registry answers any requests like a scope that
keeps the set of taken names alone and takes the least free number each time. Whatever was
asked before, the search that a counter starts ends, and ends at that number. So a name that
is given was neither reserved nor given before, and a name that is taken stays taken. -/
theorem counters_only_save_work (requests : List Request) :
    let registry := (serveAll Registry.serve Registry.empty requests).2
    let taken := (serveAll TakenNames.serve ∅ requests).2
    (serveAll Registry.serve Registry.empty requests).1 =
        (serveAll TakenNames.serve ∅ requests).1 ∧
      (∀ name, registry.isTaken name = decide (name ∈ taken)) ∧
      (∀ base last, registry.counter? base = some last →
        registry.Search base (last + 1) (taken.leastFree base)) ∧
      (∀ base, .reserve (registry.unique base).1 ∉ requests ∧
        .given (registry.unique base).1 ∉ (serveAll Registry.serve Registry.empty requests).1) ∧
      ∀ later name, registry.isTaken name = true →
        (serveAll Registry.serve registry later).2.isTaken name = true := by
  intro registry taken
  obtain ⟨answers, agrees⟩ := Agrees.empty.serveAll requests
  refine ⟨answers, fun name => ?_, fun base last found => ?_, fun base => ?_,
    fun later name before => Registry.isTaken_serveAll_iff.mpr (.inl before)⟩
  · rw [Bool.eq_iff_iff, agrees.names, decide_eq_true_eq]
  · exact agrees.firstFree_eq found ▸ registry.search_firstFree base (last + 1)
  · have free : ¬ registry.isTaken (registry.unique base).1 = true := by
      simp [Registry.isTaken_unique_fst]
    rw [Registry.isTaken_serveAll_iff] at free
    exact not_or.mp (not_or.mp free).2

/-- Names that look like numbered ones are asked for and reserved between others. -/
example : (serveAll Registry.serve Registry.empty
    [.unique "x", .unique "x_1", .reserve "x_3", .unique "x", .unique "x_1", .unique "x",
      .isTaken "x_1_1"]).1 =
      [.given "x", .given "x_1", .reserved, .given "x_2", .given "x_1_1", .given "x_4",
        .taken true] := by
  decide +kernel

end ContractBinder.Naming
