import Mathlib.Data.List.Forall2
import Mathlib.Data.List.Induction
import Mathlib.Data.List.Nodup

/-!
# Lists

Lists in step (`forall₂_comp`, `map_eq_of_forall₂`, `exists_mem_of_forall₂`), numbered elements
(`map_mapIdx`, `mapIdx_getElem?_snd`), first occurrences in a list that grows at its
end (`eraseDups_concat_of_mem`, `eraseDups_concat_of_not_mem`, `nodup_eraseDups`), and
elements whose values differ (`filter_eq_singleton_of_nodup`). What holds of all proper
beginnings is shown element by element (`forall_prefix_cons_iff`), a beginning that passes a
test is dropped up to where it stops (`dropWhile_append_eq`), and a list in order is
determined by its elements (`eq_of_pairwise_of_mem_iff`). What holds of lists that are put together
from parts that it holds of holds of `flatMap` and `intercalate` (`flatMap_closed`,
`intercalate_closed`).
-/

namespace ContractBinder

/-! ## 1. Lists in step -/

section

variable {α β γ : Type} {xs : List α} {ys : List β} {zs : List γ}

theorem forall₂_comp {first : α → β → Prop} {second : β → γ → Prop}
    (left : List.Forall₂ first xs ys) (right : List.Forall₂ second ys zs) :
    List.Forall₂ (fun x z => ∃ y, first x y ∧ second y z) xs zs := by
  induction left generalizing zs with
  | nil =>
    cases right
    exact .nil
  | cons related _ ih =>
    cases right with
    | cons next others => exact .cons ⟨_, related, next⟩ (ih others)

theorem map_eq_of_forall₂ {paired : α → β → Prop} {f : α → γ} {g : β → γ}
    (same : ∀ x y, paired x y → f x = g y) (inStep : List.Forall₂ paired xs ys) :
    xs.map f = ys.map g := by
  rw [← List.forall₂_eq_eq_eq, List.forall₂_map_left_iff, List.forall₂_map_right_iff]
  exact inStep.imp same

theorem exists_mem_of_forall₂ {paired : α → β → Prop} {y : β} (inStep : List.Forall₂ paired xs ys)
    (member : y ∈ ys) : ∃ x ∈ xs, paired x y := by
  induction inStep with
  | nil => exact absurd member List.not_mem_nil
  | cons related _ ih =>
    rcases List.mem_cons.mp member with rfl | later
    · exact ⟨_, List.mem_cons_self, related⟩
    · obtain ⟨x, listed, found⟩ := ih later
      exact ⟨x, List.mem_cons_of_mem _ listed, found⟩

end

/-! ## 2. Numbered lists -/

section

variable {α β γ : Type}

theorem map_mapIdx (f : Nat → α → β) (g : β → γ) (xs : List α) :
    (xs.mapIdx f).map g = xs.mapIdx fun position x => g (f position x) :=
  List.ext_getElem (by simp) fun _ _ _ => by simp

/-- The number of a first component is that of its second one. -/
theorem mapIdx_getElem?_snd (pairs : List (α × β)) :
    (pairs.map Prod.fst).mapIdx (fun position x => (x, (pairs.map Prod.snd)[position]?)) =
      pairs.map fun (x, y) => (x, some y) := by
  refine List.ext_getElem (by simp) fun position small _ => ?_
  have inPairs : position < pairs.length := by simpa using small
  simp [inPairs]

end

/-! ## 3. First occurrences -/

section

variable {α : Type} [BEq α] [LawfulBEq α] {a : α} {xs : List α}

theorem eraseDups_concat_of_mem (member : a ∈ xs) : (xs ++ [a]).eraseDups = xs.eraseDups := by
  have dropped : [a].removeAll xs = [] := by simp [List.removeAll, member]
  rw [List.eraseDups_append, dropped, List.eraseDups_nil, List.append_nil]

theorem eraseDups_concat_of_not_mem (fresh : a ∉ xs) :
    (xs ++ [a]).eraseDups = xs.eraseDups ++ [a] := by
  have kept : [a].removeAll xs = [a] := by simp [List.removeAll, fresh]
  rw [List.eraseDups_append, kept]
  rfl

theorem nodup_eraseDups (xs : List α) : xs.eraseDups.Nodup := by
  induction xs using List.reverseRecOn with
  | nil => exact List.nodup_nil
  | append_singleton xs a ih =>
    by_cases member : a ∈ xs
    · rwa [eraseDups_concat_of_mem member]
    · rw [eraseDups_concat_of_not_mem member]
      refine ih.append (List.nodup_singleton a) (List.disjoint_singleton.mpr ?_)
      rwa [List.mem_eraseDups]

end

/-! ## 4. Distinct values -/

/-- An element is the only one with its value if all values differ. -/
theorem filter_eq_singleton_of_nodup {α β : Type} [DecidableEq β] {f : α → Option β} {xs : List α}
    {x : α} {b : β} (distinct : (xs.filterMap f).Nodup) (member : x ∈ xs) (value : f x = some b) :
    xs.filter (fun y => f y = some b) = [x] := by
  -- An element with this value would put it among the values a second time.
  have unlike {y : α} {others : List α} (listed : y ∈ others) (fresh : b ∉ others.filterMap f) :
      f y ≠ some b := fun same => fresh (List.mem_filterMap.mpr ⟨y, listed, same⟩)
  induction xs with
  | nil => exact absurd member List.not_mem_nil
  | cons first others ih =>
    rcases List.mem_cons.mp member with rfl | later
    · rw [List.filterMap_cons_some value] at distinct
      have fresh := (List.nodup_cons.mp distinct).1
      rw [List.filter_cons, if_pos (decide_eq_true value), List.filter_eq_nil_iff.mpr]
      exact fun y listed same => unlike listed fresh (of_decide_eq_true same)
    · have rest := distinct.sublist ((List.sublist_cons_self first others).filterMap f)
      rw [List.filter_cons_of_neg, ih rest later]
      intro same
      rw [List.filterMap_cons_some (of_decide_eq_true same)] at distinct
      exact unlike later (List.nodup_cons.mp distinct).1 value

/-! ## 5. Beginnings -/

/-- The proper beginnings of a longer list are the empty one and those of the shorter list
behind its first element. -/
theorem forall_prefix_cons_iff {α : Type} {a : α} {xs : List α} {holds : List α → Prop} :
    (∀ part, part <+: a :: xs → part ≠ a :: xs → holds part) ↔
      holds [] ∧ ∀ part, part <+: xs → part ≠ xs → holds (a :: part) := by
  constructor
  · intro all
    refine ⟨all [] List.nil_prefix (List.cons_ne_nil a xs).symm, fun part inside proper => ?_⟩
    exact all (a :: part) ((List.prefix_cons_inj a).mpr inside) fun same =>
      proper (List.cons.inj same).2
  · rintro ⟨first, others⟩ part inside proper
    rcases List.prefix_cons_iff.mp inside with rfl | ⟨inner, rfl, further⟩
    · exact first
    · exact others inner further fun same => proper (same ▸ rfl)

theorem dropWhile_append_eq {α : Type} {test : α → Bool} {part rest : List α}
    (within : ∀ a ∈ part, test a = true) (stops : ∀ a, rest.head? = some a → test a = false) :
    (part ++ rest).dropWhile test = rest := by
  rw [List.dropWhile_append_of_pos within]
  cases rest with
  | nil => rfl
  | cons a others => simp [stops a rfl]

/-! ## 6. Lists in order -/

/-- Two lists with the same elements are the same if both are in order. -/
theorem eq_of_pairwise_of_mem_iff {α : Type} {below : α → α → Prop}
    (asymm : ∀ a b, below a b → ¬ below b a) {xs ys : List α} (first : xs.Pairwise below)
    (second : ys.Pairwise below) (same : ∀ a, a ∈ xs ↔ a ∈ ys) : xs = ys := by
  have distinct {zs : List α} (inOrder : zs.Pairwise below) : zs.Nodup := by
    refine inOrder.imp ?_
    rintro a _ above rfl
    exact asymm a a above above
  have perm := (List.perm_ext_iff_of_nodup (distinct first) (distinct second)).mpr same
  exact perm.eq_of_pairwise (fun a b _ _ above below => absurd below (asymm a b above)) first second

/-! ## 7. Lists that are put together -/

section

variable {α β : Type} {holds : List α → Prop} (empty : holds [])
  (append : ∀ {front back}, holds front → holds back → holds (front ++ back))

include empty append

theorem flatMap_closed {xs : List β} {f : β → List α} (each : ∀ x ∈ xs, holds (f x)) :
    holds (xs.flatMap f) := by
  induction xs with
  | nil => exact empty
  | cons x xs ih =>
    rw [List.forall_mem_cons] at each
    exact append each.1 (ih each.2)

theorem intercalate_closed {separator : List α} {items : List (List α)}
    (separates : holds separator) (each : ∀ item ∈ items, holds item) :
    holds (separator.intercalate items) := by
  induction items with
  | nil => exact empty
  | cons first others ih =>
    rw [List.forall_mem_cons] at each
    cases others with
    | nil => simpa using each.1
    | cons second others =>
      rw [List.intercalate_cons_cons]
      exact append (append each.1 separates) (ih each.2)

end

end ContractBinder
