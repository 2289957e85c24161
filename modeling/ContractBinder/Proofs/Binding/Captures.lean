import ContractBinder.Proofs.Binding.Independence
import ContractBinder.Proofs.Binding.Parameters
import ContractBinder.Proofs.Naming.Marks

/-!
# Parameters that have the name of a constant

Parameters are named in a scope of each method, which knows nothing of the constants
of the module. The body of a method refers to the constant of its function, so a
parameter of that name captures it.

Results:

1. `input_captures_constant`: an input can have the name of its function's constant.
2. `captured_constants_are_marked`: the value to transfer never has the name of a
   constant. An input has one only if it carries the mark of such constants itself.
-/

namespace ContractBinder

open Abi (Entry)
open Naming (functionMark eventMark)

/-! ## 1. Constants -/

/-- The names of the constants and statics of a module. -/
def ContractBindings.constantNames (bindings : ContractBindings) : List String :=
  bindings.nameConstants.map NameConstant.name ++
    bindings.events.flatMap fun event => [event.names.constant, event.names.topicConstant]

/-- Every constant carries the mark of what it is named after. -/
structure ContractBindings.Marked (bindings : ContractBindings) : Prop where
  functions : ∀ constant ∈ bindings.nameConstants, functionMark <+: constant.name.toList
  events : ∀ event ∈ bindings.events, eventMark <:+: event.names.constant.toList
  topics : ∀ event ∈ bindings.events, eventMark <:+: event.names.topicConstant.toList

namespace Progress

variable {progress : Progress}

theorem start_marked (config : Config) : (start config).bindings.Marked :=
  ⟨fun _ listed => absurd listed List.not_mem_nil, fun _ listed => absurd listed List.not_mem_nil,
    fun _ listed => absurd listed List.not_mem_nil⟩

theorem constantFor_marked (marked : progress.bindings.Marked) (value : String) {wanted : String}
    (mark : functionMark <+: wanted.toList) :
    (progress.constantFor value wanted).2.bindings.Marked := by
  unfold constantFor
  split
  · exact marked
  · refine { marked with functions := List.forall_mem_append.mpr ⟨marked.functions, ?_⟩ }
    exact List.forall_mem_singleton.mpr (Naming.prefix_unique mark progress.items)

theorem addFunction_marked (marked : progress.bindings.Marked) {function : FunctionBinding}
    (mark : functionMark <+: function.constantName.toList) :
    (progress.addFunction function).bindings.Marked := by
  let named : Progress :=
    { progress with methods := (progress.methods.unique function.methodName).2 }
  have held : named.bindings.Marked := marked
  have kept := constantFor_marked held function.name mark
  exact { kept with }

theorem addEvent_marked (marked : progress.bindings.Marked) {event : EventBinding}
    (constant : eventMark <:+: event.names.constant.toList)
    (topic : eventMark <:+: event.names.topicConstant.toList) :
    (progress.addEvent event).bindings.Marked :=
  { functions := marked.functions
    events := List.forall_mem_append.mpr ⟨marked.events,
      List.forall_mem_singleton.mpr (Naming.infix_unique constant _)⟩
    topics := List.forall_mem_append.mpr ⟨marked.topics,
      List.forall_mem_singleton.mpr (Naming.infix_unique topic _)⟩ }

theorem Adds.marked {generateEvents : Bool} {next : Progress} {entry : Entry}
    (added : Adds generateEvents progress entry next) (marked : progress.bindings.Marked) :
    next.bindings.Marked := by
  cases added with
  | function _ made =>
    obtain ⟨inputs, outputs, _, rfl⟩ := FunctionBinding.parts_of_ofEntry made
    refine addFunction_marked marked ?_
    simp only [FunctionBinding.ofParts]
    exact Naming.functionMark_prefix entry.name
  | event _ _ made =>
    obtain ⟨fields, _, rfl⟩ := EventBinding.parts_of_ofEntry made
    have constant := Naming.eventMark_infix entry.name
    refine addEvent_marked marked ?_ ?_ <;>
      simp only [EventBinding.ofFields, Naming.EventNames.ofEvent, String.toList_append]
    · exact constant
    · exact constant.trans (List.prefix_append _ _).isInfix
  | skipped _ _ => exact marked

end Progress

/-- A name that carries a mark of constants. -/
def LooksConstant (name : String) : Prop :=
  functionMark <+: name.toList ∨ eventMark <:+: name.toList

/-- Both marks have a capital letter. -/
theorem LooksConstant.capital {name : String} (looks : LooksConstant name) :
    ∃ c ∈ name.toList, c.isUpper = true := by
  rcases looks with mark | mark
  · exact ⟨'F', mark.subset (by decide), rfl⟩
  · exact ⟨'E', mark.subset (by decide), rfl⟩

section

variable {config : Config} {entries : List Entry} {bindings : ContractBindings}

theorem marked_of_compile (compiled : (compile config entries).outcome = .ok bindings) :
    bindings.Marked := by
  obtain ⟨progress, marked, rfl⟩ : ∃ progress : Progress,
      progress.bindings.Marked ∧ progress.bindings = bindings :=
    compile_invariant (Progress.start_marked config)
      (fun _ _ _ _ kept added => added.marked kept) compiled
  exact marked

theorem ContractBindings.Marked.looksConstant (marked : bindings.Marked) :
    ∀ constant ∈ bindings.constantNames, LooksConstant constant := by
  intro constant listed
  rcases List.mem_append.mp listed with named | logged
  · obtain ⟨nameConstant, member, rfl⟩ := List.mem_map.mp named
    exact .inl (marked.functions nameConstant member)
  · obtain ⟨event, member, static⟩ := List.mem_flatMap.mp logged
    simp only [List.mem_cons, List.not_mem_nil, or_false] at static
    rcases static with rfl | rfl
    · exact .inr (marked.events event member)
    · exact .inr (marked.topics event member)

/-! ## 2. Parameters -/

/-- The value to transfer is named without capital letters. -/
theorem isUpper_valueParamFor (names : List String) :
    ∀ c ∈ (FunctionBinding.valueParamFor names).toList, c.isUpper = false := by
  have small : ∀ c ∈ valueParamName.toList ++ "_".toList, c.isUpper = false := fun c member =>
    eq_false_of_ne_true fun upper => absurd (List.any_eq_true.mpr ⟨c, member, upper⟩) (by decide)
  refine Naming.Registry.unique_fst_cases
    (motive := fun name => ∀ c ∈ name.toList, c.isUpper = false)
    (fun c member => small c (List.mem_append_left _ member)) fun number c member => ?_
  simp only [Naming.Registry.numbered, String.toList_append, List.mem_append, Nat.toList_repr]
    at member
  rcases member with (base | underscore) | digit
  · exact small c (List.mem_append_left _ base)
  · exact small c (List.mem_append_right _ underscore)
  · have bounds := Text.isDigit_iff.mp ((Text.isNumeral_toDigits number).digit c digit)
    exact Bool.eq_false_iff.mpr fun upper => by
      have := Text.isUpper_iff.mp upper
      omega

/-- The value to transfer of a function that is compiled. -/
theorem exists_valueParamFor (compiled : (compile config entries).outcome = .ok bindings) :
    ∀ function ∈ bindings.functions, ∀ value, function.valueParam = some value →
      ∃ names, value = FunctionBinding.valueParamFor names := by
  have generated : ∀ function ∈ bindings.functions, ∃ entry plain,
      (FunctionBinding.synthesize entry).outcome = .ok plain ∧ plain.Renamed function := by
    have named := (generates_of_compile compiled).functions.flip
    exact ((List.forall₂_and_left _ _).mp (named.imp fun _ entry single =>
      ⟨⟨entry, single⟩, single⟩)).1
  intro function member value given
  obtain ⟨entry, plain, made, renamed⟩ := generated function member
  rw [FunctionBinding.synthesize_outcome] at made
  obtain ⟨inputs, outputs, _, rfl⟩ := FunctionBinding.parts_of_ofEntry made
  rw [renamed, FunctionBinding.ofParts] at given
  dsimp only at given
  split at given
  · exact ⟨_, (Option.some.inj given).symm⟩
  · cases given

/-- The value to transfer never captures a constant. An input captures one only if it
carries the mark of constants itself. -/
theorem captured_constants_are_marked
    (compiled : (compile config entries).outcome = .ok bindings) :
    ∀ function ∈ bindings.functions,
      (∀ value, function.valueParam = some value → value ∉ bindings.constantNames) ∧
      ∀ input ∈ function.inputs, input.name ∈ bindings.constantNames →
        LooksConstant input.name := by
  intro function member
  have looks := (marked_of_compile compiled).looksConstant
  refine ⟨fun value given constant => ?_, fun input _ constant => looks input.name constant⟩
  obtain ⟨names, rfl⟩ := exists_valueParamFor compiled function member value given
  obtain ⟨c, inside, capital⟩ := (looks _ constant).capital
  rw [isUpper_valueParamFor names c inside] at capital
  cases capital

end

/-- A payable function with an input that is called like the value to transfer and
one that is called like its constant. -/
theorem captured_constants_are_marked_payable :
    ∃ bindings,
      (compile Config.default
        [⟨.function, "pay", [⟨"wei_value", "uint256", false⟩,
            ⟨"FUNC_PAY", "address", false⟩], [], .payable⟩,
          ⟨.event, "Paid", [], [], .normal⟩]).outcome = .ok bindings ∧
      (∀ function ∈ bindings.functions,
        (∀ value, function.valueParam = some value → value ∉ bindings.constantNames) ∧
        ∀ input ∈ function.inputs, input.name ∈ bindings.constantNames →
          LooksConstant input.name) ∧
      bindings.functions.map FunctionBinding.parameterNames =
        [["wei_value", "FUNC_PAY", "wei_value_1"]] ∧
      bindings.constantNames = ["FUNC_PAY", "PAID_EVENT", "PAID_EVENT_TOPIC"] := by
  have made :
      (compile Config.default
        [⟨.function, "pay", [⟨"wei_value", "uint256", false⟩,
            ⟨"FUNC_PAY", "address", false⟩], [], .payable⟩,
          ⟨.event, "Paid", [], [], .normal⟩]).outcome.toOption.map (fun bindings =>
            (bindings.functions.map FunctionBinding.parameterNames, bindings.constantNames)) =
        some ([["wei_value", "FUNC_PAY", "wei_value_1"]],
          ["FUNC_PAY", "PAID_EVENT", "PAID_EVENT_TOPIC"]) := by
    decide +kernel
  obtain ⟨bindings, found, names⟩ := Option.map_eq_some_iff.mp made
  have compiled := Outcome.toOption_eq_some_iff.mp found
  obtain ⟨parameters, constants⟩ := Prod.mk.inj names
  exact ⟨bindings, compiled, captured_constants_are_marked compiled, parameters, constants⟩

/-- An input that is called like the constant of its function keeps its name. -/
theorem input_captures_constant :
    ¬ ∀ (config : Config) (entries : List Entry) (bindings : ContractBindings),
      (compile config entries).outcome = .ok bindings →
      ∀ function ∈ bindings.functions, ∀ name ∈ function.parameterNames,
        name ∉ bindings.constantNames := by
  intro free
  have made :
      (compile Config.default
        [⟨.function, "transfer", [⟨"FUNC_TRANSFER", "uint256", false⟩], [],
          .normal⟩]).outcome.toOption.map (fun bindings =>
            (bindings.functions.map FunctionBinding.parameterNames, bindings.constantNames)) =
        some ([["FUNC_TRANSFER"]], ["FUNC_TRANSFER"]) := by
    decide +kernel
  obtain ⟨bindings, found, names⟩ := Option.map_eq_some_iff.mp made
  obtain ⟨parameters, constants⟩ := Prod.mk.inj names
  obtain ⟨function, member, named⟩ :=
    List.mem_map.mp (parameters ▸ List.mem_singleton.mpr rfl :
      ["FUNC_TRANSFER"] ∈ bindings.functions.map FunctionBinding.parameterNames)
  refine free _ _ bindings (Outcome.toOption_eq_some_iff.mp found) function member
    "FUNC_TRANSFER" ?_ ?_
  · rw [named]
    exact List.mem_singleton.mpr rfl
  · rw [constants]
    exact List.mem_singleton.mpr rfl

end ContractBinder
