import Mathlib.Data.List.Induction
import Mathlib.Data.List.Nodup
import Mathlib.Data.List.Perm.Basic
import ContractBinder.Ordered

/-!
# Ordered pairs

Pairs come out in the same order whatever order they come in, if those with the
same first component are equal (`sortedPairs_perm`): putting two pairs into a
list in turn has the same result both ways round (`insertSorted_comm`). As a table
the list has the new value under its key and is otherwise as it was
(`lookup_insertSorted`). No pairs come out but those that come in
(`mem_of_mem_sortedPairs`), with every key that comes in (`mem_keys_sortedPairs_iff`),
in the order of the keys (`inOrder_sortedPairs`). Pairs that are in order already stay
as they are (`sortedPairs_eq_self`), also if one of them is put in again
(`insertSorted_eq_self`).
-/

namespace ContractBinder

variable {κ α : Type}

/-! ## Tables -/

variable {key : κ} {value : α} {pairs : List (κ × α)}

theorem lookup_map_of_mem [BEq κ] [LawfulBEq κ] {keys : List κ} (valueOf : κ → α)
    (member : key ∈ keys) :
    (keys.map fun key => (key, valueOf key)).lookup key = some (valueOf key) := by
  induction keys with
  | nil => exact absurd member List.not_mem_nil
  | cons first rest ih =>
    rw [List.map_cons, List.lookup_cons]
    by_cases same : key = first
    · rw [same, beq_self_eq_true]
    · rw [beq_eq_false_iff_ne.mpr same]
      exact ih ((List.mem_cons.mp member).resolve_left same)

theorem mem_of_lookup [BEq κ] [LawfulBEq κ] (found : pairs.lookup key = some value) :
    (key, value) ∈ pairs := by
  obtain ⟨before, behind, rfl, _⟩ := List.lookup_eq_some_iff.mp found
  exact List.mem_append_cons_self

section

variable [LT κ] [DecidableLT κ] [DecidableEq κ]

theorem lookup_insertSorted [BEq κ] [LawfulBEq κ] (key other : κ) (value : α)
    (pairs : List (κ × α)) :
    (insertSorted key value pairs).lookup other =
      if other = key then some value else pairs.lookup other := by
  induction pairs with
  | nil => grind [insertSorted]
  | cons pair rest ih => grind [insertSorted]

theorem mem_of_mem_insertSorted {key : κ} {value : α} {pair : κ × α}
    {pairs : List (κ × α)} (member : pair ∈ insertSorted key value pairs) :
    pair = (key, value) ∨ pair ∈ pairs := by
  induction pairs with
  | nil => grind [insertSorted]
  | cons other rest ih => grind [insertSorted]

theorem mem_of_mem_sortedPairs {pair : κ × α} {pairs : List (κ × α)}
    (member : pair ∈ sortedPairs pairs) : pair ∈ pairs := by
  -- A pair of the result was there at the start or was put in.
  have put : ∀ sorted : List (κ × α),
      pair ∈ pairs.foldl (fun sorted pair => insertSorted pair.1 pair.2 sorted) sorted →
        pair ∈ sorted ∨ pair ∈ pairs := by
    clear member
    induction pairs with
    | nil => exact fun _ member => .inl member
    | cons first rest ih =>
      intro sorted member
      rcases ih _ member with early | later
      · rcases mem_of_mem_insertSorted early with rfl | there
        · exact .inr List.mem_cons_self
        · exact .inl there
      · exact .inr (List.mem_cons_of_mem first later)
  exact (put [] member).resolve_left List.not_mem_nil

theorem mem_keys_insertSorted_iff {other : κ} :
    other ∈ (insertSorted key value pairs).map Prod.fst ↔
      other = key ∨ other ∈ pairs.map Prod.fst := by
  induction pairs with
  | nil => simp [insertSorted]
  | cons pair rest ih =>
    rw [insertSorted]
    split
    · next same => simp [same]
    split
    · simp
    · simp only [List.map_cons, List.mem_cons, ih]
      tauto

theorem sortedPairs_concat (pairs : List (κ × α)) (pair : κ × α) :
    sortedPairs (pairs ++ [pair]) = insertSorted pair.1 pair.2 (sortedPairs pairs) := by
  rw [sortedPairs, List.foldl_concat, sortedPairs]

/-- Of pairs that share a key the last one is found. -/
theorem lookup_sortedPairs [BEq κ] [LawfulBEq κ] (key : κ) (pairs : List (κ × α)) :
    (sortedPairs pairs).lookup key = pairs.reverse.lookup key := by
  induction pairs using List.reverseRecOn with
  | nil => rfl
  | append_singleton pairs pair ih =>
    rw [sortedPairs_concat, lookup_insertSorted, ih, List.reverse_append, List.reverse_singleton,
      List.singleton_append, List.lookup_cons]
    by_cases same : key = pair.1
    · rw [if_pos same, same, beq_self_eq_true]
    · rw [if_neg same, beq_eq_false_iff_ne.mpr same]

theorem lookup_sortedPairs_of_mem [BEq κ] [LawfulBEq κ] {keys : List κ} (valueOf : κ → α)
    (member : key ∈ keys) :
    (sortedPairs (keys.map fun key => (key, valueOf key))).lookup key = some (valueOf key) := by
  rw [lookup_sortedPairs, ← List.map_reverse]
  exact lookup_map_of_mem valueOf (List.mem_reverse.mpr member)

theorem mem_keys_sortedPairs_iff :
    key ∈ (sortedPairs pairs).map Prod.fst ↔ key ∈ pairs.map Prod.fst := by
  induction pairs using List.reverseRecOn with
  | nil => rfl
  | append_singleton pairs pair ih =>
    rw [sortedPairs_concat, mem_keys_insertSorted_iff, ih, List.map_append, List.mem_append,
      List.map_singleton, List.mem_singleton, or_comm]

/-- Pairs with different keys all come out. -/
theorem mem_sortedPairs_iff {pair : κ × α} (distinct : (pairs.map Prod.fst).Nodup) :
    pair ∈ sortedPairs pairs ↔ pair ∈ pairs := by
  refine ⟨mem_of_mem_sortedPairs, fun listed => ?_⟩
  obtain ⟨other, sorted, sameKey⟩ := List.mem_map.mp
    (mem_keys_sortedPairs_iff.mpr (List.mem_map_of_mem (f := Prod.fst) listed))
  obtain rfl := List.inj_on_of_nodup_map distinct (mem_of_mem_sortedPairs sorted) listed sameKey
  exact sorted

end

/-! ## Order -/

/-- Every key is below all keys behind it. -/
def InOrder [LT κ] (pairs : List (κ × α)) : Prop :=
  pairs.Pairwise fun first second => first.1 < second.1

/-- No key occurs twice. -/
theorem InOrder.nodup_keys [LT κ] [LE κ] [Std.IsPreorder κ] [Std.LawfulOrderLT κ]
    {pairs : List (κ × α)} (inOrder : InOrder pairs) :
    (pairs.map Prod.fst).Nodup := by
  refine List.pairwise_map.mpr (inOrder.imp ?_)
  intro first second below same
  exact Std.lt_irrefl (same ▸ below)

section

variable [LT κ] [DecidableLT κ] [DecidableEq κ] [LE κ] [Std.IsLinearOrder κ] [Std.LawfulOrderLT κ]

/-- The list need not be ordered, as a pair goes in front of the first pair that
is not below it. -/
theorem insertSorted_comm {first second : κ} (apart : first ≠ second) (a b : α)
    (pairs : List (κ × α)) :
    insertSorted first a (insertSorted second b pairs) =
      insertSorted second b (insertSorted first a pairs) := by
  induction pairs with
  | nil => grind [insertSorted]
  | cons pair rest ih => grind [insertSorted]

/-- Pairs whose second components belong to the first ones may come in any order. -/
theorem sortedPairs_perm {keys others : List κ} (same : keys.Perm others)
    (valueOf : κ → α) :
    sortedPairs (keys.map fun key => (key, valueOf key)) =
      sortedPairs (others.map fun key => (key, valueOf key)) := by
  unfold sortedPairs
  rw [List.foldl_map, List.foldl_map]
  refine same.foldl_eq' (fun first _ second _ pairs => ?_) []
  by_cases equal : first = second
  · rw [equal]
  · exact insertSorted_comm (Ne.symm equal) _ _ pairs

theorem inOrder_insertSorted (inOrder : InOrder pairs) :
    InOrder (insertSorted key value pairs) := by
  induction pairs with
  | nil => exact List.pairwise_singleton _ _
  | cons pair rest ih =>
    obtain ⟨below, others⟩ := List.pairwise_cons.mp inOrder
    rw [insertSorted]
    split
    · next same => exact List.pairwise_cons.mpr ⟨same ▸ below, others⟩
    next differs =>
    split
    · next smaller =>
      refine List.pairwise_cons.mpr ⟨fun other listed => ?_, inOrder⟩
      rcases List.mem_cons.mp listed with rfl | later
      · exact smaller
      · exact Std.lt_trans smaller (below other later)
    · next notSmaller =>
      refine List.pairwise_cons.mpr ⟨fun other listed => ?_, ih others⟩
      have above : pair.1 < key := by
        by_contra notAbove
        exact differs (Std.le_antisymm (Std.not_lt.mp notAbove) (Std.not_lt.mp notSmaller))
      rcases mem_of_mem_insertSorted listed with rfl | later
      · exact above
      · exact below other later

omit [Std.IsLinearOrder κ] in
/-- A pair whose key is above all others comes last. -/
theorem insertSorted_of_above (above : ∀ pair ∈ pairs, pair.1 < key) :
    insertSorted key value pairs = pairs ++ [(key, value)] := by
  induction pairs with
  | nil => rfl
  | cons pair rest ih =>
    obtain ⟨first, others⟩ := List.forall_mem_cons.mp above
    have differs : key ≠ pair.1 := fun same => Std.lt_irrefl (same ▸ first)
    rw [insertSorted, if_neg differs, if_neg (Std.not_gt_of_lt first), ih others, List.cons_append]

theorem inOrder_sortedPairs (pairs : List (κ × α)) : InOrder (sortedPairs pairs) := by
  induction pairs using List.reverseRecOn with
  | nil => exact List.Pairwise.nil
  | append_singleton pairs pair ih =>
    rw [sortedPairs_concat]
    exact inOrder_insertSorted ih

omit [Std.IsLinearOrder κ] in
theorem sortedPairs_eq_self (inOrder : InOrder pairs) : sortedPairs pairs = pairs := by
  induction pairs using List.reverseRecOn with
  | nil => rfl
  | append_singleton pairs pair ih =>
    obtain ⟨before, _, above⟩ := List.pairwise_append.mp inOrder
    rw [sortedPairs_concat, ih before]
    exact insertSorted_of_above fun other listed => above other listed pair List.mem_cons_self

omit [Std.IsLinearOrder κ] in
/-- Putting in what is there already changes nothing. -/
theorem insertSorted_eq_self [BEq κ] [LawfulBEq κ] (inOrder : InOrder pairs)
    (found : pairs.lookup key = some value) :
    insertSorted key value pairs = pairs := by
  induction pairs with
  | nil => cases found
  | cons pair rest ih =>
    obtain ⟨below, others⟩ := List.pairwise_cons.mp inOrder
    rw [List.lookup_cons] at found
    by_cases same : key = pair.1
    · rw [beq_iff_eq.mpr same] at found
      rw [insertSorted, if_pos same, same, ← Option.some.inj found]
    · rw [beq_eq_false_iff_ne.mpr same] at found
      have above : pair.1 < key := below (key, value) (mem_of_lookup found)
      rw [insertSorted, if_neg same, if_neg (Std.not_gt_of_lt above), ih others found]

end

end ContractBinder
