import Mathlib.Data.List.Nodup
import ContractBinder.Proofs.Binding.Steps
import ContractBinder.Proofs.Naming.Registry

/-!
# Names of a contract's items and methods

Names of a module's items come from one scope, and names of a contract's
methods from another one, so neither clash (`compile_names_distinct`). The
invariant is that each scope holds exactly such names: whatever order functions
and events come in, every new name is drawn from the scope that holds the names
before it.
-/

namespace ContractBinder

open Abi (Entry)
open Naming (Registry EventNames)

/-! ## 1. Scopes -/

/-- The names of the items that are generated for an event. -/
def Naming.EventNames.items (names : EventNames) : List String :=
  [names.constant, names.topicConstant, names.response]

/-- The names of the methods that are generated for an event. -/
def Naming.EventNames.methods (names : EventNames) : List String :=
  [names.extractMethod, names.streamMethod, names.rangeStreamMethod]

/-- The names of all items that are generated for a contract. -/
def ContractBindings.itemNames (bindings : ContractBindings) : List String :=
  bindings.contractName ::
    (bindings.nameConstants.map NameConstant.name ++
      bindings.events.flatMap fun event => event.names.items)

/-- The names of all methods that are generated for a contract. -/
def ContractBindings.methodNames (bindings : ContractBindings) : List String :=
  bindings.functions.map FunctionBinding.methodName ++
    bindings.events.flatMap fun event => event.names.methods

/-- The names so far are distinct and taken in their scopes. -/
structure Progress.Distinct (progress : Progress) : Prop where
  items : progress.items.Holds progress.bindings.itemNames
  methods : progress.methods.Holds (reservedMethods ++ progress.bindings.methodNames)

/-! ## 2. Steps keep names distinct -/

namespace Progress

theorem start_distinct (config : Config) : (start config).Distinct := by
  constructor
  · simp only [start, ContractBindings.itemNames, List.map_nil, List.flatMap_nil, List.append_nil]
    exact Registry.Holds.single _
  · simp only [start, ContractBindings.methodNames, List.map_nil, List.flatMap_nil,
      List.append_nil]
    exact Registry.Holds.reserveAll (by decide)

theorem constantFor_keeps (progress : Progress) (value wanted : String)
    (held : progress.items.Holds progress.bindings.itemNames) :
    (progress.constantFor value wanted).2.items.Holds
      (progress.constantFor value wanted).2.bindings.itemNames := by
  unfold constantFor
  split
  · exact held
  · refine (held.unique wanted).perm ?_
    simp only [ContractBindings.itemNames, List.map_append, List.map_cons, List.map_nil]
    rw [List.append_assoc, List.singleton_append]
    exact (List.perm_middle.cons _).trans (List.Perm.swap _ _ _)

theorem addFunction_distinct {progress : Progress} (distinct : progress.Distinct)
    (function : FunctionBinding) : (progress.addFunction function).Distinct := by
  have items := constantFor_keeps
    { progress with methods := (progress.methods.unique function.methodName).2 }
    function.name function.constantName distinct.items
  have methods := distinct.methods.unique function.methodName
  refine ⟨items, ?_⟩
  simp only [addFunction, constantFor_methods]
  refine methods.perm ?_
  simp only [ContractBindings.methodNames, constantFor_functions, constantFor_events,
    List.map_append, List.map_cons, List.map_nil, List.append_assoc, List.singleton_append]
  exact (List.perm_middle.append_left reservedMethods).trans List.perm_middle

theorem addEvent_distinct {progress : Progress} (distinct : progress.Distinct)
    (event : EventBinding) : (progress.addEvent event).Distinct := by
  have items := ((distinct.items.unique event.names.constant).unique
    event.names.topicConstant).unique event.names.response
  have methods := ((distinct.methods.unique event.names.extractMethod).unique
    event.names.streamMethod).unique event.names.rangeStreamMethod
  -- Three names at once are added to a list in the middle, so the lists are compared by counts.
  refine ⟨items.perm ?_, methods.perm ?_⟩
  · rw [List.perm_iff_count]
    intro name
    simp only [addEvent, ContractBindings.itemNames, EventNames.items, List.flatMap_append,
      List.flatMap_singleton, List.count_cons, List.count_append, List.count_nil]
    omega
  · rw [List.perm_iff_count]
    intro name
    simp only [addEvent, ContractBindings.methodNames, EventNames.methods, List.flatMap_append,
      List.flatMap_singleton, List.count_cons, List.count_append, List.count_nil]
    omega

theorem Adds.distinct {generateEvents : Bool} {progress next : Progress} {entry : Entry}
    (added : Adds generateEvents progress entry next) (distinct : progress.Distinct) :
    next.Distinct := by
  cases added with
  | function _ _ => exact addFunction_distinct distinct _
  | event _ _ _ => exact addEvent_distinct distinct _
  | skipped _ _ => exact distinct

end Progress

/-! ## 3. Whole contracts -/

/-- Names of items never clash, and names of methods neither clash nor are those
of the methods that every contract has. -/
theorem compile_names_distinct {config : Config} {entries : List Entry}
    {bindings : ContractBindings} (compiled : (compile config entries).outcome = .ok bindings) :
    bindings.itemNames.Nodup ∧ (reservedMethods ++ bindings.methodNames).Nodup := by
  obtain ⟨progress, distinct, rfl⟩ := compile_invariant (Progress.start_distinct config)
    (fun _ _ _ _ kept added => added.distinct kept) compiled
  exact ⟨distinct.items.distinct, distinct.methods.distinct⟩

/-- An overload, a function that is called like a numbered overload, and an
event that is called like both. -/
theorem compile_names_distinct_overloads :
    ∃ bindings,
      (compile { Config.default with contractName := "C" }
        [⟨.function, "a", [], [], .view⟩, ⟨.function, "a", [], [], .view⟩,
          ⟨.function, "a_1", [], [], .view⟩, ⟨.event, "A", [], [], .normal⟩]).outcome =
        .ok bindings ∧
      bindings.itemNames.Nodup ∧ (reservedMethods ++ bindings.methodNames).Nodup ∧
      bindings.methodNames =
        ["a", "a_1", "a_1_1", "get_a_events", "a_event_stream", "a_event_stream_in_range"] := by
  have made :
      (compile { Config.default with contractName := "C" }
        [⟨.function, "a", [], [], .view⟩, ⟨.function, "a", [], [], .view⟩,
          ⟨.function, "a_1", [], [], .view⟩, ⟨.event, "A", [], [], .normal⟩]).outcome.toOption.map
            ContractBindings.methodNames =
        some ["a", "a_1", "a_1_1", "get_a_events", "a_event_stream",
          "a_event_stream_in_range"] := by
    decide +kernel
  obtain ⟨bindings, found, names⟩ := Option.map_eq_some_iff.mp made
  have compiled := Outcome.toOption_eq_some_iff.mp found
  obtain ⟨items, methods⟩ := compile_names_distinct compiled
  exact ⟨bindings, compiled, items, methods, names⟩

end ContractBinder
