import ContractBinder.Proofs.Binding.Parameters
import ContractBinder.Proofs.Lists

/-!
# Decoded logs

A decoded log has the values of an event in two groups, the indexed ones and the
others, each in declaration order. A record lists its fields group by group, and
the number of a field within its group is the place of its value.

Results:

1. `EventBinding.map_read?_responseFields`: every field is read at the place of its
   own value.
2. `EventBinding.responseFields_perm`: every field is listed once.
-/

namespace ContractBinder

variable {α : Type}

/-! ## 1. Reading logs -/

/-- The values of a decoded log in their two groups. -/
structure DecodedLog (α : Type) where
  indexed : List α
  plain : List α
  deriving DecidableEq

namespace DecodedLog

/-- The log of some values in declaration order, of which the flagged ones are indexed. -/
def ofValues (flags : List Bool) (values : List α) : DecodedLog α :=
  let flagged := flags.zip values
  ⟨(flagged.filter (·.1)).map Prod.snd, (flagged.filter (!·.1)).map Prod.snd⟩

def read? (log : DecodedLog α) : ValueSource → Option α
  | .indexed position => log.indexed[position]?
  | .plain position => log.plain[position]?

end DecodedLog

/-! ## 2. Fields of records -/

namespace EventBinding

variable {event : EventBinding} {values : List α}

/-- The log of an event's values groups them as the fields are grouped. -/
theorem ofValues_indexed (event : EventBinding) (values : List α) :
    DecodedLog.ofValues (event.fields.map EventField.indexed) values =
      ⟨((event.fields.zip values).filter (·.1.indexed)).map Prod.snd,
        ((event.fields.zip values).filter (!·.1.indexed)).map Prod.snd⟩ := by
  rw [DecodedLog.ofValues, List.zip_map_left, List.filter_map, List.filter_map, List.map_map,
    List.map_map]
  rfl

/-- Every field is read at the place of its own value: the indexed fields first, then
the others, both in declaration order. -/
theorem map_read?_responseFields (enough : values.length = event.fields.length) :
    event.responseFields.map (fun (field, source) =>
        (field, (DecodedLog.ofValues (event.fields.map EventField.indexed) values).read? source)) =
      ((event.fields.zip values).filter (·.1.indexed) ++
          (event.fields.zip values).filter (!·.1.indexed)).map
        fun (field, value) => (field, some value) := by
  -- The groups of fields are those of the pairs with their values, without the values.
  have paired : (event.fields.zip values).map Prod.fst = event.fields :=
    List.map_fst_zip (Nat.le_of_eq enough.symm)
  have indexedFields : event.indexedFields =
      ((event.fields.zip values).filter (·.1.indexed)).map Prod.fst := by
    rw [EventBinding.indexedFields, ← paired, List.filter_map, paired]
    rfl
  have plainFields : event.plainFields =
      ((event.fields.zip values).filter (!·.1.indexed)).map Prod.fst := by
    rw [EventBinding.plainFields, ← paired, List.filter_map, paired]
    rfl
  rw [ofValues_indexed, responseFields, List.map_append, List.map_append, map_mapIdx,
    map_mapIdx, indexedFields, plainFields]
  exact congrArg₂ (· ++ ·) (mapIdx_getElem?_snd _) (mapIdx_getElem?_snd _)

theorem map_fst_responseFields (event : EventBinding) :
    event.responseFields.map Prod.fst = event.indexedFields ++ event.plainFields := by
  have kept (fields : List EventField) : fields.mapIdx (fun _ field => field) = fields :=
    List.mapIdx_eq_iff.mpr fun _ => by simp
  rw [responseFields, List.map_append, map_mapIdx, map_mapIdx]
  exact congrArg₂ (· ++ ·) (kept _) (kept _)

/-- Every field is listed once. -/
theorem responseFields_perm (event : EventBinding) :
    (event.responseFields.map Prod.fst).Perm event.fields := by
  rw [map_fst_responseFields]
  exact List.filter_append_perm EventField.indexed event.fields

end EventBinding

end ContractBinder
