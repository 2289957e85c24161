import ContractBinder.Binding.Event
import ContractBinder.Binding.Function
import ContractBinder.Proofs.Lists
import ContractBinder.Proofs.Naming.Registry
import ContractBinder.Proofs.Outcome

/-!
# Making bindings of parameters

Inputs, outputs and fields are made of parameters one by one: the declared type is
resolved, and the wire type is projected. A whole wire type always has a projection, so
nothing but resolving can fail, and what is made of a list carries the types that the list
declares.

Results:

1. `map_makeEach`: what is made of a list has the types of the list, or fails as they do.
2. `FunctionBinding.made_of_ofEntry`, `EventBinding.made_of_ofEntry`: the parts of a binding.
3. `FunctionBinding.ofEntry_eq_error_iff`, `EventBinding.ofEntry_eq_error_iff`: a binding
   fails exactly if a type cannot be resolved.
-/

namespace ContractBinder

open Abi (Entry NativeType Parameter TypeNode WireType)

/-- The types that a parameter list declares, or the fault of the first one that cannot be
resolved. -/
def resolveTypes (parameters : List Parameter) : Except BindingFault (List WireType) :=
  parameters.mapM fun parameter => BindingFault.resolve parameter.declaredType

theorem resolveTypes_eq_ok_iff {parameters : List Parameter} {types : List WireType} :
    resolveTypes parameters = .ok types ↔
      List.Forall₂ (fun parameter type => BindingFault.resolve parameter.declaredType = .ok type)
        parameters types :=
  Outcome.mapM_eq_ok_iff

theorem resolveTypes_append (first second : List Parameter) :
    resolveTypes (first ++ second) = do
      let types ← resolveTypes first
      return types ++ (← resolveTypes second) :=
  List.mapM_append

/-! ## 1. Single parameters -/

theorem projection_eq {projected : Except String NativeType} {native : NativeType}
    (projects : projected = .ok native) : projection projected = .ok ⟨native, projects⟩ := by
  subst projects
  rfl

/-- A field's whole type has a projection, whether it is indexed or not. -/
theorem Abi.TypeNode.exists_projectField (wire : WireType) (indexed : Bool) :
    ∃ native, (TypeNode.whole wire).projectField indexed = .ok native := by
  cases indexed with
  | true => exact ⟨wire.indexedNative, rfl⟩
  | false => exact ⟨wire.native, rfl⟩

theorem Argument.map_wire_ofParameter (name : String) (parameter : Parameter) :
    (Argument.ofParameter name parameter).map Argument.wire =
      BindingFault.resolve parameter.declaredType := by
  unfold Argument.ofParameter
  cases BindingFault.resolve parameter.declaredType with
  | error fault => rfl
  | ok wire => rfl

theorem Output.map_wire_ofParameter (parameter : Parameter) :
    (Output.ofParameter parameter).map Output.wire =
      BindingFault.resolve parameter.declaredType := by
  unfold Output.ofParameter
  cases BindingFault.resolve parameter.declaredType with
  | error fault => rfl
  | ok wire => rfl

theorem EventField.map_wire_ofParameter (name : String) (parameter : Parameter) :
    (EventField.ofParameter name parameter).map EventField.wire =
      BindingFault.resolve parameter.declaredType := by
  unfold EventField.ofParameter
  cases BindingFault.resolve parameter.declaredType with
  | error fault => rfl
  | ok wire =>
    obtain ⟨native, projects⟩ := Abi.TypeNode.exists_projectField wire parameter.indexed
    simp only [bind, Except.bind, projection_eq projects]
    rfl

theorem Argument.name_of_ofParameter {name : String} {parameter : Parameter}
    {argument : Argument} (made : Argument.ofParameter name parameter = .ok argument) :
    argument.name = name := by
  obtain ⟨wire, _, rest⟩ := Outcome.bind_eq_ok_iff.mp made
  obtain ⟨projected, _, done⟩ := Outcome.bind_eq_ok_iff.mp rest
  cases done
  rfl

theorem EventField.keeps_of_ofParameter {name : String} {parameter : Parameter}
    {field : EventField} (made : EventField.ofParameter name parameter = .ok field) :
    field.name = name ∧ field.indexed = parameter.indexed := by
  obtain ⟨wire, _, rest⟩ := Outcome.bind_eq_ok_iff.mp made
  obtain ⟨projected, _, done⟩ := Outcome.bind_eq_ok_iff.mp rest
  cases done
  exact ⟨rfl, rfl⟩

/-! ## 2. Lists -/

theorem length_distinctNames (reserved : List String) (parameters : List Parameter) :
    (distinctNames reserved parameters).length = parameters.length := by
  rw [distinctNames, Naming.Registry.length_uniqueAll, sanitizedNames, List.length_mapIdx]

section

variable {α β : Type} {reserved : List String} {parameters : List Parameter}
  {make : String → Parameter → Except BindingFault α} {read : α → β}

/-- What is read off each thing that is made can be computed without the names. -/
theorem map_makeEach {step : Parameter → Except BindingFault β}
    (each : ∀ name parameter, (make name parameter).map read = step parameter) :
    (makeEach reserved make parameters).map (List.map read) = parameters.mapM step := by
  have behind : ((distinctNames reserved parameters).zip parameters).map Prod.snd = parameters :=
    List.map_snd_zip (Nat.le_of_eq (length_distinctNames reserved parameters).symm)
  calc
    (makeEach reserved make parameters).map (List.map read) =
        ((distinctNames reserved parameters).zip parameters).mapM fun named =>
          (make named.1 named.2).map read := Outcome.map_mapM
    _ = ((distinctNames reserved parameters).zip parameters).mapM fun named => step named.2 := by
      simp only [each]
    _ = (((distinctNames reserved parameters).zip parameters).map Prod.snd).mapM step :=
      List.mapM_map.symm
    _ = parameters.mapM step := by rw [behind]

theorem inStep_of_makeEach {made : List α} (all : makeEach reserved make parameters = .ok made) :
    List.Forall₂ (fun named single => make named.1 named.2 = .ok single)
      ((distinctNames reserved parameters).zip parameters) made :=
  Outcome.mapM_eq_ok_iff.mp all

theorem names_of_makeEach {made : List α} {nameOf : α → String}
    (each : ∀ name parameter single, make name parameter = .ok single → nameOf single = name)
    (all : makeEach reserved make parameters = .ok made) :
    made.map nameOf = distinctNames reserved parameters := by
  have kept : ((distinctNames reserved parameters).zip parameters).map Prod.fst = made.map nameOf :=
    map_eq_of_forall₂ (fun _ _ single => (each _ _ _ single).symm) (inStep_of_makeEach all)
  rw [← kept]
  exact List.map_fst_zip (Nat.le_of_eq (length_distinctNames reserved parameters))

theorem values_of_makeEach {made : List α} {value : Parameter → β}
    (each : ∀ name parameter single, make name parameter = .ok single →
      read single = value parameter)
    (all : makeEach reserved make parameters = .ok made) :
    made.map read = parameters.map value := by
  have kept : ((distinctNames reserved parameters).zip parameters).map (fun named =>
      value named.2) = made.map read :=
    map_eq_of_forall₂ (fun _ _ single => (each _ _ _ single).symm) (inStep_of_makeEach all)
  rw [← kept]
  refine (List.map_map ..).symm.trans (congrArg (List.map value) ?_)
  exact List.map_snd_zip (Nat.le_of_eq (length_distinctNames reserved parameters).symm)

end

/-! ## 3. Entries -/

namespace FunctionBinding

variable {entry : Entry} {function : FunctionBinding} {inputs : List Argument}
  {outputs : List Output}

theorem map_makeInputs (parameters : List Parameter) :
    (makeEach [] Argument.ofParameter parameters).map (List.map Argument.wire) =
      resolveTypes parameters :=
  map_makeEach Argument.map_wire_ofParameter

theorem map_makeOutputs (parameters : List Parameter) :
    (parameters.mapM Output.ofParameter).map (List.map Output.wire) = resolveTypes parameters := by
  rw [Outcome.map_mapM]
  simp only [Output.map_wire_ofParameter]
  rfl

/-- The parts that the binding of a function is put together from. -/
structure Parts (entry : Entry) (inputs : List Argument) (outputs : List Output) : Prop where
  names : inputs.map Argument.name = distinctNames [] entry.inputs
  inputs : resolveTypes entry.inputs = .ok (inputs.map Argument.wire)
  outputs : resolveTypes entry.outputs = .ok (outputs.map Output.wire)

theorem parts_of_ofEntry (made : ofEntry entry = .ok function) :
    ∃ inputs outputs, Parts entry inputs outputs ∧ function = ofParts entry inputs outputs := by
  obtain ⟨inputs, first, rest⟩ := Outcome.bind_eq_ok_iff.mp made
  obtain ⟨outputs, second, done⟩ := Outcome.bind_eq_ok_iff.mp rest
  cases done
  refine ⟨inputs, outputs, ⟨?_, ?_, ?_⟩, rfl⟩
  · exact names_of_makeEach (fun _ _ _ => Argument.name_of_ofParameter) first
  · rw [← map_makeInputs, first]
    rfl
  · rw [← map_makeOutputs, second]
    rfl

/-- The types of a function are resolved as one list, inputs before outputs. -/
theorem ofEntry_eq_error_iff {source : BindingFault} :
    ofEntry entry = .error source ↔
      resolveTypes (entry.inputs ++ entry.outputs) = .error source := by
  unfold ofEntry
  rw [resolveTypes_append, ← map_makeInputs, ← map_makeOutputs]
  cases makeEach [] Argument.ofParameter entry.inputs with
  | error fault => simp [bind, Except.bind, Except.map]
  | ok inputs =>
    cases entry.outputs.mapM Output.ofParameter <;>
      simp [bind, Except.bind, pure, Except.pure, Except.map]

end FunctionBinding

namespace EventBinding

variable {entry : Entry} {event : EventBinding}

theorem map_makeFields (parameters : List Parameter) :
    (makeEach [logField] EventField.ofParameter parameters).map (List.map EventField.wire) =
      resolveTypes parameters :=
  map_makeEach EventField.map_wire_ofParameter

/-- The fields that the binding of an event is put together from. -/
structure Parts (entry : Entry) (fields : List EventField) : Prop where
  names : fields.map EventField.name = distinctNames [logField] entry.inputs
  types : resolveTypes entry.inputs = .ok (fields.map EventField.wire)
  indexed : fields.map EventField.indexed = entry.inputs.map Parameter.indexed

theorem parts_of_ofEntry (made : ofEntry entry = .ok event) :
    ∃ fields, Parts entry fields ∧ event = ofFields entry fields := by
  obtain ⟨fields, all, rfl⟩ := Outcome.map_eq_ok_iff.mp made
  refine ⟨fields, ⟨?_, ?_, ?_⟩, rfl⟩
  · exact names_of_makeEach (fun _ _ _ single => (EventField.keeps_of_ofParameter single).1) all
  · rw [← map_makeFields, all]
    rfl
  · exact values_of_makeEach (fun _ _ _ single => (EventField.keeps_of_ofParameter single).2) all

theorem ofEntry_eq_error_iff {source : BindingFault} :
    ofEntry entry = .error source ↔ resolveTypes entry.inputs = .error source := by
  unfold ofEntry
  rw [Outcome.map_eq_error_iff, ← map_makeFields, Outcome.map_eq_error_iff]

end EventBinding

end ContractBinder
