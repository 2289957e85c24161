import ContractBinder.Proofs.Binding.Making
import ContractBinder.Proofs.Binding.Shapes
import ContractBinder.Proofs.Binding.Steps
import ContractBinder.Proofs.Naming.Identifiers
import ContractBinder.Render.Event
import ContractBinder.Render.Function

/-!
# Bindings that can be rendered

Bindings can be rendered if all their names are identifiers and every function
that returns one value has one output (`ContractBindings.Renderable`). Bindings
that are compiled from entries with emitted names are of this kind
(`compile_renderable`): each name goes through its own chain of conversions, and
the numbers that the scopes put behind a name keep it an identifier. Names that
are compiled from other entries may be no identifiers, but none of them is
reserved (`compile_unreserved`).

Both follow from `compile_named`: what is true of the names that each entry gives,
and stays true with a number behind them, is true of all names of the bindings.
-/

namespace ContractBinder

open Abi (Entry Parameter WireType)
open Code (IsIdentifier)
open Naming (IsEmitted EventNames)

/-! ## 1. What can be rendered -/

/-- The names of a method are identifiers, and the output that it returns exists. -/
structure FunctionBinding.Renderable (function : FunctionBinding) : Prop where
  names : ∀ name ∈ function.identifiers, IsIdentifier name
  single : function.shape = .constantSingle → ∃ output, function.outputs = [output]

/-- All names of the bindings are identifiers, and every output that is returned
exists. -/
structure ContractBindings.Renderable (bindings : ContractBindings) : Prop where
  contractName : IsIdentifier bindings.contractName
  constants : ∀ constant ∈ bindings.nameConstants, IsIdentifier constant.name
  functions : ∀ function ∈ bindings.functions, function.Renderable
  events : ∀ event ∈ bindings.events, ∀ name ∈ event.methodIdentifiers, IsIdentifier name

/-- The names of a method are good, and the output that it returns exists. -/
structure FunctionBinding.Named (good : String → Prop) (function : FunctionBinding) : Prop where
  names : ∀ name ∈ function.identifiers, good name
  single : function.shape = .constantSingle → ∃ output, function.outputs = [output]

/-- All names of the bindings are good, and every output that is returned exists. -/
structure ContractBindings.Named (good : String → Prop) (bindings : ContractBindings) : Prop where
  contractName : good bindings.contractName
  constants : ∀ constant ∈ bindings.nameConstants, good constant.name
  functions : ∀ function ∈ bindings.functions, function.Named good
  events : ∀ event ∈ bindings.events, ∀ name ∈ event.methodIdentifiers, good name

theorem ContractBindings.Named.renderable {bindings : ContractBindings}
    (named : bindings.Named IsIdentifier) : bindings.Renderable where
  contractName := named.contractName
  constants := named.constants
  functions function listed :=
    have function := named.functions function listed
    ⟨function.names, function.single⟩
  events := named.events

/-- What is true of a name stays true with a number behind it, and is true of the name of the value
that a method transfers. -/
structure Lasting (good : String → Prop) : Prop where
  numbered : ∀ {base}, good base → ∀ number, good (Naming.Registry.numbered base number)
  valueParam : good valueParamName

/-- The names that an entry gives are good before they are made distinct. -/
structure Abi.Entry.Gives (good : String → Prop) (entry : Entry) : Prop where
  method : good (Naming.methodName entry.name)
  constant : good (Naming.functionConstant entry.name)
  event : (EventNames.ofEvent entry.name).Each good
  inputs : ∀ base ∈ sanitizedNames entry.inputs, good base

/-- The name of an entry and the names of its inputs are emitted by a compiler.
Names of outputs are never used. -/
structure Abi.Entry.Emitted (entry : Entry) : Prop where
  name : IsEmitted entry.name
  inputs : ∀ parameter ∈ entry.inputs, IsEmitted parameter.name

/-! ## 2. Single entries -/

section

variable {good : String → Prop} (lasting : Lasting good)

include lasting

theorem Lasting.unique {base : String} (isGood : good base) (registry : Naming.Registry) :
    good (registry.unique base).1 :=
  Naming.Registry.unique_fst_cases isGood (lasting.numbered isGood)

theorem Lasting.of_mem_distinctNames {reserved : List String} {parameters : List Parameter}
    (sanitized : ∀ base ∈ sanitizedNames parameters, good base) {name : String}
    (member : name ∈ distinctNames reserved parameters) : good name :=
  Naming.Registry.of_mem_uniqueAll sanitized
    (fun base listed => lasting.numbered (sanitized base listed)) member

theorem Lasting.valueParamFor (names : List String) : good (FunctionBinding.valueParamFor names) :=
  lasting.unique lasting.valueParam _

omit lasting in
theorem output_of_select {mutability : Abi.Mutability} {outputs : List Output}
    (single : CallShape.select mutability (outputs.map Output.wire) = .constantSingle) :
    ∃ output, outputs = [output] := by
  generalize types : outputs.map Output.wire = wires at single
  cases CallShape.selects_iff.mpr single with
  | constantSingle =>
    obtain ⟨output, same, _⟩ := List.map_eq_singleton_iff.mp types
    exact ⟨output, same⟩

theorem FunctionBinding.named_ofParts {entry : Entry} (gives : entry.Gives good)
    {inputs : List Argument} {outputs : List Output} (parts : Parts entry inputs outputs) :
    (FunctionBinding.ofParts entry inputs outputs).Named good := by
  constructor
  · intro name member
    simp only [FunctionBinding.identifiers, FunctionBinding.ofParts, List.mem_cons,
      List.mem_append, Option.mem_toList, parts.names] at member
    rcases member with method | constant | input | value
    · exact method ▸ gives.method
    · exact constant ▸ gives.constant
    · exact lasting.of_mem_distinctNames gives.inputs input
    · split at value
      · cases value
        exact lasting.valueParamFor _
      · cases value
  · exact output_of_select

theorem EventBinding.named_ofFields {entry : Entry} (gives : entry.Gives good)
    {fields : List EventField} (parts : Parts entry fields) :
    ∀ field ∈ (EventBinding.ofFields entry fields).fields, good field.name := by
  intro field listed
  have distinct : field.name ∈ distinctNames [logField] entry.inputs :=
    parts.names ▸ List.mem_map_of_mem listed
  exact lasting.of_mem_distinctNames gives.inputs distinct

/-! ## 3. Steps -/

namespace Progress

variable {progress : Progress}

theorem constantFor_named (named : progress.bindings.Named good) (value : String)
    {wanted : String} (isGood : good wanted) :
    good (progress.constantFor value wanted).1 ∧
      (progress.constantFor value wanted).2.bindings.Named good := by
  unfold constantFor
  split
  · next constant found =>
    exact ⟨named.constants constant (List.mem_of_find?_eq_some found), named⟩
  · have given := lasting.unique isGood progress.items
    refine ⟨given, { named with constants := ?_ }⟩
    intro constant listed
    rcases List.mem_append.mp listed with before | new
    · exact named.constants constant before
    · cases List.mem_singleton.mp new
      exact given

theorem addFunction_named (named : progress.bindings.Named good) {function : FunctionBinding}
    (fit : function.Named good) : (progress.addFunction function).bindings.Named good := by
  have inputs : ∀ name ∈ function.inputs.map Argument.name ++ function.valueParam.toList,
      good name := fun name member =>
    fit.names name (List.mem_cons_of_mem _ (List.mem_cons_of_mem _ member))
  have method := lasting.unique (fit.names _ List.mem_cons_self) progress.methods
  let reserved : Progress :=
    { progress with methods := (progress.methods.unique function.methodName).2 }
  have held : reserved.bindings.Named good := named
  obtain ⟨constant, kept⟩ := constantFor_named lasting held function.name
    (fit.names _ (List.mem_cons_of_mem _ List.mem_cons_self))
  refine { kept with functions := fun other listed => ?_ }
  rcases List.mem_append.mp listed with before | new
  · exact kept.functions other before
  · cases List.mem_singleton.mp new
    refine ⟨fun name member => ?_, fit.single⟩
    rcases List.mem_cons.mp member with rfl | member
    · exact method
    rcases List.mem_cons.mp member with rfl | member
    · exact constant
    · exact inputs name member

theorem addEvent_named (named : progress.bindings.Named good) {event : EventBinding}
    (names : event.names.Each good) (fields : ∀ field ∈ event.fields, good field.name) :
    (progress.addEvent event).bindings.Named good := by
  refine { named with events := fun other listed => ?_ }
  rcases List.mem_append.mp listed with before | new
  · exact named.events other before
  · cases List.mem_singleton.mp new
    intro name member
    simp only [EventBinding.methodIdentifiers, EventBinding.itemIdentifiers, List.mem_cons,
      List.mem_map] at member
    rcases member with rfl | rfl | rfl | rfl | rfl | rfl | ⟨field, listed, rfl⟩
    · exact lasting.unique names.extractMethod _
    · exact lasting.unique names.streamMethod _
    · exact lasting.unique names.rangeStreamMethod _
    · exact lasting.unique names.constant _
    · exact lasting.unique names.topicConstant _
    · exact lasting.unique names.response _
    · exact fields field listed

theorem Adds.named {generateEvents : Bool} {next : Progress} {entry : Entry}
    (added : Adds generateEvents progress entry next) (gives : entry.Gives good)
    (named : progress.bindings.Named good) : next.bindings.Named good := by
  cases added with
  | function _ made =>
    obtain ⟨inputs, outputs, parts, rfl⟩ := FunctionBinding.parts_of_ofEntry made
    exact addFunction_named lasting named (FunctionBinding.named_ofParts lasting gives parts)
  | event _ _ made =>
    obtain ⟨fields, parts, rfl⟩ := EventBinding.parts_of_ofEntry made
    exact addEvent_named lasting named gives.event
      (EventBinding.named_ofFields lasting gives parts)
  | skipped _ _ => exact named

end Progress

/-! ## 4. Whole contracts -/

variable {config : Config} {entries : List Entry} {bindings : ContractBindings}

/-- If what entries give is good, so is every name of the bindings. -/
theorem compile_named (contract : good (Naming.typeName config.contractName))
    (gives : ∀ entry ∈ entries, entry.Gives good)
    (compiled : (compile config entries).outcome = .ok bindings) : bindings.Named good := by
  have started : (Progress.start config).bindings.Named good := by
    constructor <;> simp only [Progress.start]
    · exact contract
    all_goals exact fun _ listed => absurd listed List.not_mem_nil
  have kept : ∀ (progress : Progress) (entry : Entry) (next : Progress), entry ∈ entries →
      progress.bindings.Named good → Progress.Adds config.generateEvents progress entry next →
      next.bindings.Named good :=
    fun _ entry _ member named added => added.named lasting (gives entry member) named
  obtain ⟨progress, named, rfl⟩ := compile_invariant started kept compiled
  exact named

end

/-! ## 5. Identifiers, and names that are not reserved -/

theorem lasting_isIdentifier : Lasting IsIdentifier where
  numbered := Naming.isIdentifier_numbered
  valueParam := ⟨by decide, by decide⟩

theorem Abi.Entry.Emitted.gives {entry : Entry} (emitted : entry.Emitted) :
    entry.Gives IsIdentifier where
  method := Naming.isIdentifier_methodName emitted.name
  constant := Naming.isIdentifier_functionConstant emitted.name
  event := EventNames.identifiers_ofEvent emitted.name
  inputs := by
    intro base listed
    obtain ⟨index, small, rfl⟩ := List.mem_mapIdx.mp listed
    exact Naming.sanitize_isIdentifier (emitted.inputs _ (List.getElem_mem small)) index

theorem compile_renderable {config : Config} {entries : List Entry}
    {bindings : ContractBindings} (contract : IsEmitted config.contractName)
    (emitted : ∀ entry ∈ entries, entry.Emitted)
    (compiled : (compile config entries).outcome = .ok bindings) : bindings.Renderable :=
  (compile_named lasting_isIdentifier (Naming.isIdentifier_typeName contract)
    (fun entry member => (emitted entry member).gives) compiled).renderable

/-- A name that can stand for something if it is an identifier at all. -/
def IsUnreserved (name : String) : Prop :=
  Code.isReserved name = false

theorem lasting_isUnreserved : Lasting IsUnreserved where
  numbered _ number := Naming.isReserved_numbered _ number
  valueParam := by
    show Code.isReserved valueParamName = false
    decide

theorem Abi.Entry.gives_unreserved (entry : Entry) : entry.Gives IsUnreserved where
  method := Naming.isReserved_sanitize _ _
  constant := Naming.isReserved_sanitize _ _
  event := EventNames.unreserved_ofEvent entry.name
  inputs := by
    intro base listed
    obtain ⟨index, _, rfl⟩ := List.mem_mapIdx.mp listed
    exact Naming.isReserved_sanitize _ index

/-- Whatever the entries are called, no name of the bindings is reserved. -/
theorem compile_unreserved {config : Config} {entries : List Entry} {bindings : ContractBindings}
    (compiled : (compile config entries).outcome = .ok bindings) : bindings.Named IsUnreserved :=
  compile_named lasting_isUnreserved (Naming.isReserved_sanitize _ _)
    (fun entry _ => entry.gives_unreserved) compiled

end ContractBinder
