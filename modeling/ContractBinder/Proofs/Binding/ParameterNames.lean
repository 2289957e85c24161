import ContractBinder.Proofs.Binding.DecodedLog

/-!
# Names of parameters

A list of parameters is named from left to right. A name that repeats an earlier or a
reserved one gets a number, and every other one stays as its parameter spells it once it
is an identifier (`Naming.AssignsNames`). The value to transfer is named after the inputs
of a method, and the log before the fields of a record.

Results:

1. `assignsNames_distinctNames`: how one list is named.
2. `parameter_names_never_repeat`: what this means for methods and for records.
-/

namespace ContractBinder

open Abi (Entry Parameter)
open Naming (Registry sanitize)

/-! ## 1. One list -/

/-- `AssignsNames reserved parameters names`: the parameters have these names, one each. -/
structure Naming.AssignsNames (reserved : List String) (parameters : List Parameter)
    (names : List String) : Prop where
  length : names.length = parameters.length
  /-- No two parameters share a name, and none has a reserved one. -/
  distinct : (names ++ reserved).Nodup
  /-- A parameter keeps its name exactly if this is not reserved and no earlier one has it. -/
  kept : ∀ position parameter, parameters[position]? = some parameter →
    (names[position]? = some (sanitize parameter.name position) ↔
      sanitize parameter.name position ∉ reserved ∧
        sanitize parameter.name position ∉ names.take position)

theorem isTaken_reserveAll_eq_false_iff {reserved : List String} {name : String} :
    (Registry.empty.reserveAll reserved).isTaken name = false ↔ name ∉ reserved := by
  rw [← Bool.not_eq_true, Registry.isTaken_reserveAll_iff, not_or]
  exact and_iff_left Bool.false_ne_true

theorem sanitizedNames_getElem? {parameters : List Parameter} {position : Nat}
    {parameter : Parameter} (there : parameters[position]? = some parameter) :
    (sanitizedNames parameters)[position]? = some (sanitize parameter.name position) := by
  rw [sanitizedNames, List.getElem?_mapIdx, there, Option.map_some]

theorem assignsNames_distinctNames {reserved : List String} (distinct : reserved.Nodup)
    (parameters : List Parameter) :
    Naming.AssignsNames reserved parameters (distinctNames reserved parameters) where
  length := length_distinctNames reserved parameters
  distinct := nodup_distinctNames distinct parameters
  kept := by
    intro position parameter there
    have wanted := sanitizedNames_getElem? there
    unfold distinctNames
    rw [Registry.getElem?_uniqueAll_eq_self_iff wanted, isTaken_reserveAll_eq_false_iff]

/-- The value to transfer has its usual name exactly if no input has it. -/
theorem valueParamFor_eq_iff {names : List String} :
    FunctionBinding.valueParamFor names = valueParamName ↔ valueParamName ∉ names := by
  unfold FunctionBinding.valueParamFor
  rw [Registry.unique_fst_eq_self_iff, isTaken_reserveAll_eq_false_iff]

/-! ## 2. Methods -/

namespace FunctionBinding

variable {entry : Entry} {function : FunctionBinding}

/-- How the parameters of a method are named. -/
structure NamesParameters (entry : Entry) (function : FunctionBinding) : Prop where
  /-- No two parameters share a name. -/
  distinct : function.parameterNames.Nodup
  /-- Methods of payable functions have a value to transfer, and no others. -/
  value : function.valueParam.isSome = true ↔ entry.mutability = .payable
  inputs : Naming.AssignsNames [] entry.inputs (function.inputs.map Argument.name)
  /-- The value keeps its usual name exactly if no input has it. -/
  kept : ∀ value, function.valueParam = some value →
    (value = valueParamName ↔ valueParamName ∉ function.inputs.map Argument.name)

theorem namesParameters_of_synthesize (made : (synthesize entry).outcome = .ok function) :
    function.NamesParameters entry := by
  have keeps := keeps_of_synthesize made
  rw [synthesize_outcome] at made
  obtain ⟨inputs, outputs, parts, rfl⟩ := parts_of_ofEntry made
  refine ⟨keeps.distinct, keeps.value, ?_, ?_⟩
  · show Naming.AssignsNames [] entry.inputs (inputs.map Argument.name)
    rw [parts.names]
    exact assignsNames_distinctNames List.nodup_nil entry.inputs
  · intro value given
    unfold ofParts at given
    dsimp only at given
    split at given
    · cases given
      exact valueParamFor_eq_iff
    · cases given

end FunctionBinding

/-! ## 3. Records -/

namespace EventBinding

variable {entry : Entry} {event : EventBinding}

/-- The names of the fields of a response record, behind the one of the log. -/
def recordNames (event : EventBinding) : List String :=
  logField :: event.responseFields.map fun (field, _) => field.name

/-- How the fields of an event and those of its response record are named. -/
structure NamesFields (entry : Entry) (event : EventBinding) : Prop where
  fields : Naming.AssignsNames [logField] entry.inputs (event.fields.map EventField.name)
  /-- A record has no field twice, and none is called like its log. -/
  record : event.recordNames.Nodup

theorem recordNames_perm (event : EventBinding) :
    event.recordNames.Perm (logField :: event.fields.map EventField.name) := by
  refine List.Perm.cons logField ?_
  have listed := event.responseFields_perm.map EventField.name
  rwa [List.map_map] at listed

theorem namesFields_of_synthesize (made : (synthesize entry).outcome = .ok event) :
    event.NamesFields entry := by
  have keeps := keeps_of_synthesize made
  rw [synthesize_outcome] at made
  obtain ⟨fields, parts, rfl⟩ := parts_of_ofEntry made
  refine ⟨?_, (recordNames_perm _).nodup_iff.mpr keeps.distinct⟩
  show Naming.AssignsNames [logField] entry.inputs (fields.map EventField.name)
  rw [parts.names]
  exact assignsNames_distinctNames (List.nodup_singleton logField) entry.inputs

end EventBinding

/-! ## 4. Entries -/

/-- No parameter list repeats a name, and neither does a response record, which has the log
as a field, too. Whatever the parameters of an entry are called, each one keeps its own name
as an identifier if this is not reserved and no parameter before it in the list has it. -/
theorem parameter_names_never_repeat (entry : Entry) :
    (∀ function, (FunctionBinding.synthesize entry).outcome = .ok function →
      function.NamesParameters entry) ∧
    ∀ event, (EventBinding.synthesize entry).outcome = .ok event → event.NamesFields entry :=
  ⟨fun _ => FunctionBinding.namesParameters_of_synthesize,
    fun _ => EventBinding.namesFields_of_synthesize⟩

/-- Names that look like repaired, numbered, positional or reserved ones meet in one list. -/
theorem parameter_names_never_repeat_lookalikes :
    let parameters (names : List String) : List Parameter := names.map (⟨·, "uint256", true⟩)
    let pay : Entry := ⟨.function, "pay",
      parameters ["wei_value", "wei_value_1", "a b", "a_b", "a_b_1", "param6", ""], [], .payable⟩
    let paid : Entry := ⟨.event, "Paid", parameters ["log", "log_1", "to", "", "to"], [], .normal⟩
    ∃ function event,
      (FunctionBinding.synthesize pay).outcome = .ok function ∧
      function.parameterNames = ["wei_value", "wei_value_1", "a_b", "a_b_1", "a_b_1_1", "param6",
        "param6_1", "wei_value_2"] ∧
      function.NamesParameters pay ∧
      (EventBinding.synthesize paid).outcome = .ok event ∧
      event.recordNames = ["log", "log_1", "log_1_1", "to", "param3", "to_1"] ∧
      event.NamesFields paid := by
  intro parameters pay paid
  have named : (FunctionBinding.synthesize pay).outcome.toOption.map
      FunctionBinding.parameterNames = some ["wei_value", "wei_value_1", "a_b", "a_b_1", "a_b_1_1",
        "param6", "param6_1", "wei_value_2"] := by
    decide +kernel
  have recorded : (EventBinding.synthesize paid).outcome.toOption.map EventBinding.recordNames =
      some ["log", "log_1", "log_1_1", "to", "param3", "to_1"] := by
    decide +kernel
  obtain ⟨function, made, names⟩ := Option.map_eq_some_iff.mp named
  obtain ⟨event, madeEvent, fields⟩ := Option.map_eq_some_iff.mp recorded
  rw [Outcome.toOption_eq_some_iff] at made madeEvent
  exact ⟨function, event, made, names, (parameter_names_never_repeat pay).1 function made,
    madeEvent, fields, (parameter_names_never_repeat paid).2 event madeEvent⟩

end ContractBinder
