import ContractBinder.Proofs.Binding.Shapes
import ContractBinder.Proofs.Binding.Signature

/-!
# Parameters of bindings

What a binding keeps of the parameters of its entry: the inputs of a method and the
fields of an event stand for the parameters one by one, with the types that these
declare, and under names that differ.

Results:

1. `FunctionBinding.keeps_of_synthesize`: inputs and outputs have the declared types,
   and no two parameters of a method share a name.
2. `EventBinding.keeps_of_synthesize`: fields have the declared types and flags, and
   no field shares its name with another one or with the log.
-/

namespace ContractBinder

open Abi (Entry Parameter WireType)

/-! ## 1. Names -/

/-- The names of a parameter list differ from each other and from the reserved ones. -/
theorem nodup_distinctNames {reserved : List String} (distinct : reserved.Nodup)
    (parameters : List Parameter) : (distinctNames reserved parameters ++ reserved).Nodup :=
  ((Naming.Registry.Holds.reserveAll distinct).uniqueAll (sanitizedNames parameters)).distinct

/-- No input has the name of the value parameter. -/
theorem valueParamFor_not_mem (names : List String) :
    FunctionBinding.valueParamFor names ∉ names := by
  intro member
  have taken : (Naming.Registry.empty.reserveAll names).isTaken
      (FunctionBinding.valueParamFor names) = true :=
    Naming.Registry.isTaken_reserveAll_iff.mpr (.inl member)
  rw [FunctionBinding.valueParamFor, Naming.Registry.isTaken_unique_fst] at taken
  cases taken

/-! ## 2. Functions -/

namespace FunctionBinding

variable {entry : Entry} {inputs : List Argument} {outputs : List Output}
  {function : FunctionBinding}

/-- The names of all parameters of a method: the inputs, then the value to transfer. -/
def parameterNames (function : FunctionBinding) : List String :=
  function.inputs.map Argument.name ++ function.valueParam.toList

theorem select_eq_transactionPayable_iff {mutability : Abi.Mutability} {types : List WireType} :
    CallShape.select mutability types = .transactionPayable ↔ mutability = .payable := by
  refine ⟨fun shape => ?_, fun payable => CallShape.selects_iff.mp (.transactionPayable payable)⟩
  cases CallShape.selects_iff.mpr shape with
  | transactionPayable payable => exact payable

theorem parameterNames_ofParts (parts : Parts entry inputs outputs) :
    (ofParts entry inputs outputs).parameterNames.Nodup := by
  have distinct := nodup_distinctNames List.nodup_nil entry.inputs
  rw [List.append_nil, ← parts.names] at distinct
  unfold parameterNames ofParts
  dsimp only
  split
  · refine distinct.append (List.nodup_singleton _) ?_
    exact List.disjoint_singleton.mpr (valueParamFor_not_mem _)
  · simpa using distinct

/-- What a method keeps of its function. -/
structure Keeps (function : FunctionBinding) (entry : Entry) : Prop where
  name : function.name = entry.name
  mutability : function.mutability = entry.mutability
  /-- The inputs have the declared types, in order. -/
  inputs : resolveTypes entry.inputs = .ok (function.inputs.map Argument.wire)
  /-- So have the outputs. -/
  outputs : resolveTypes entry.outputs = .ok (function.outputs.map Output.wire)
  shape : function.shape = .select entry.mutability (function.outputs.map Output.wire)
  /-- Only payable functions have a value to transfer. -/
  value : function.valueParam.isSome = true ↔ entry.mutability = .payable
  /-- No two parameters share a name. -/
  distinct : function.parameterNames.Nodup

theorem keeps_of_synthesize (made : (synthesize entry).outcome = .ok function) :
    function.Keeps entry := by
  rw [synthesize_outcome] at made
  obtain ⟨inputs, outputs, parts, rfl⟩ := parts_of_ofEntry made
  exact
    { name := rfl
      mutability := rfl
      inputs := parts.inputs
      outputs := parts.outputs
      shape := rfl
      value := by
        rw [← @select_eq_transactionPayable_iff entry.mutability (outputs.map Output.wire)]
        unfold ofParts
        dsimp only
        split <;> simp [*]
      distinct := parameterNames_ofParts parts }

/-- The value to transfer is no input. -/
theorem Keeps.value_not_mem (keeps : function.Keeps entry) {value : String}
    (given : function.valueParam = some value) : value ∉ function.inputs.map Argument.name := by
  have distinct := keeps.distinct
  rw [parameterNames, given] at distinct
  exact fun member => List.disjoint_of_nodup_append distinct member (List.mem_singleton.mpr rfl)

theorem Keeps.valueParam_eq_none (keeps : function.Keeps entry)
    (unpaid : function.shape ≠ .transactionPayable) : function.valueParam = none := by
  rw [keeps.shape, ne_eq, select_eq_transactionPayable_iff] at unpaid
  exact Option.not_isSome_iff_eq_none.mp (mt keeps.value.mp unpaid)

end FunctionBinding

/-! ## 3. Events -/

namespace EventBinding

variable {entry : Entry} {event : EventBinding}

/-- What an event's binding keeps of its entry. -/
structure Keeps (event : EventBinding) (entry : Entry) : Prop where
  name : event.name = entry.name
  /-- The fields have the declared types, in order. -/
  types : resolveTypes entry.inputs = .ok (event.fields.map EventField.wire)
  /-- They are indexed where the parameters are. -/
  indexed : event.fields.map EventField.indexed = entry.inputs.map Parameter.indexed
  /-- No field shares its name with another one or with the log. -/
  distinct : (logField :: event.fields.map EventField.name).Nodup

theorem keeps_of_synthesize (made : (synthesize entry).outcome = .ok event) :
    event.Keeps entry := by
  rw [synthesize_outcome] at made
  obtain ⟨fields, parts, rfl⟩ := parts_of_ofEntry made
  exact
    { name := rfl
      types := parts.types
      indexed := parts.indexed
      distinct := by
        show (logField :: fields.map EventField.name).Nodup
        rw [parts.names]
        exact (List.perm_append_singleton logField _).nodup_iff.mp
          (nodup_distinctNames (List.nodup_singleton logField) entry.inputs) }

end EventBinding

end ContractBinder
