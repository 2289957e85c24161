import ContractBinder.Proofs.Binding.Independence
import ContractBinder.Proofs.Binding.ItemNames

/-!
# Constants for names of functions

A method finds its function by a constant that holds the function's literal name.
The invariant is that there is one constant for every literal name so far, in the
order in which the names occurred, and that every method has the constant of its
own name. A constant that is found again for an overload is never named anew, and
one that is added gets a name that no item has.

Results:

1. `bindsNames_of_compile`: the invariant holds of what is compiled.
2. `filter_constantName`: a function's constant is the only one of its name.
3. `constantName_eq_iff`: only functions of one literal name share a constant.
-/

namespace ContractBinder

open Abi (Entry)

/-! ## 1. One constant for each name -/

/-- There is one constant for every literal name of a function, in order of their
first occurrences, and every function has the constant of its literal name. -/
structure BindsNames (constants : List NameConstant) (functions : List FunctionBinding) :
    Prop where
  values : constants.map NameConstant.value =
    (functions.map FunctionBinding.name).eraseDups
  distinct : (constants.map NameConstant.value).Nodup
  held : ∀ function ∈ functions, ⟨function.constantName, function.name⟩ ∈ constants

namespace BindsNames

variable {constants : List NameConstant} {functions : List FunctionBinding}
  {function : FunctionBinding}

theorem nil : BindsNames [] [] :=
  ⟨rfl, List.nodup_nil, fun _ member => absurd member List.not_mem_nil⟩

theorem mem_values_iff (binds : BindsNames constants functions) {name : String} :
    name ∈ constants.map NameConstant.value ↔ name ∈ functions.map FunctionBinding.name := by
  rw [binds.values, List.mem_eraseDups]

/-- A function's literal name may have a constant already. -/
theorem reuse (binds : BindsNames constants functions)
    (present : ⟨function.constantName, function.name⟩ ∈ constants) :
    BindsNames constants (functions ++ [function]) := by
  have repeated : function.name ∈ functions.map FunctionBinding.name :=
    binds.mem_values_iff.mp (List.mem_map.mpr ⟨_, present, rfl⟩)
  refine ⟨?_, binds.distinct, ?_⟩
  · rw [List.map_append, List.map_singleton, eraseDups_concat_of_mem repeated]
    exact binds.values
  · exact List.forall_mem_append.mpr ⟨binds.held, List.forall_mem_singleton.mpr present⟩

/-- Otherwise one is added behind the others. -/
theorem add (binds : BindsNames constants functions) {constant : NameConstant}
    (made : constant = ⟨function.constantName, function.name⟩)
    (fresh : function.name ∉ constants.map NameConstant.value) :
    BindsNames (constants ++ [constant]) (functions ++ [function]) := by
  subst made
  refine ⟨?_, ?_, ?_⟩
  · rw [List.map_append, List.map_append, List.map_singleton, List.map_singleton,
      eraseDups_concat_of_not_mem (mt binds.mem_values_iff.mpr fresh), binds.values]
  · rw [List.map_append, List.map_singleton, ← List.concat_eq_append]
    exact binds.distinct.concat fresh
  · exact List.forall_mem_append.mpr
      ⟨fun earlier member => List.mem_append_left _ (binds.held earlier member),
        List.forall_mem_singleton.mpr (List.mem_append_right _ List.mem_cons_self)⟩

end BindsNames

namespace Progress

/-- The constants so far bind the names of the functions so far. -/
def Bound (progress : Progress) : Prop :=
  BindsNames progress.bindings.nameConstants progress.bindings.functions

theorem start_bound (config : Config) : (start config).Bound :=
  BindsNames.nil

theorem addFunction_bound {progress : Progress} (bound : progress.Bound)
    (function : FunctionBinding) : (progress.addFunction function).Bound := by
  let named : Progress :=
    { progress with methods := (progress.methods.unique function.methodName).2 }
  simp only [Bound, addFunction, constantFor_functions]
  rcases constantFor_cases named function.name function.constantName with
    ⟨constant, present, holds, found⟩ | ⟨fresh, added⟩
  · rw [found]
    refine bound.reuse ?_
    show ⟨constant.name, function.name⟩ ∈ progress.bindings.nameConstants
    rwa [← holds]
  · rw [added]
    exact bound.add rfl fresh

theorem Adds.bound {generateEvents : Bool} {progress next : Progress} {entry : Entry}
    (added : Adds generateEvents progress entry next) (bound : progress.Bound) : next.Bound := by
  cases added with
  | function _ _ => exact addFunction_bound bound _
  | event _ _ _ => exact bound
  | skipped _ _ => exact bound

end Progress

/-! ## 2. Whole contracts -/

section

variable {config : Config} {entries : List Entry} {bindings : ContractBindings}

theorem bindsNames_of_compile (compiled : (compile config entries).outcome = .ok bindings) :
    BindsNames bindings.nameConstants bindings.functions := by
  obtain ⟨progress, bound, rfl⟩ := compile_invariant (Progress.start_bound config)
    (fun _ _ _ _ kept added => added.bound kept) compiled
  exact bound

theorem itemNames_nodup_of_compile (compiled : (compile config entries).outcome = .ok bindings) :
    bindings.itemNames.Nodup := by
  obtain ⟨progress, distinct, rfl⟩ := compile_invariant (Progress.start_distinct config)
    (fun _ _ _ _ kept added => added.distinct kept) compiled
  exact distinct.items.distinct

theorem constantNames_nodup_of_compile
    (compiled : (compile config entries).outcome = .ok bindings) :
    (bindings.nameConstants.map NameConstant.name).Nodup :=
  ((List.nodup_cons.mp (itemNames_nodup_of_compile compiled)).2).of_append_left

/-- The functions have the literal names of their entries. -/
theorem functionNames_of_compile (compiled : (compile config entries).outcome = .ok bindings) :
    bindings.functions.map FunctionBinding.name =
      (entries.filter fun entry => entry.kind = .function).map Entry.name := by
  refine (map_eq_of_forall₂ ?_ (generates_of_compile compiled).functions).symm
  rintro entry function ⟨plain, made, renamed⟩
  rw [FunctionBinding.synthesize_outcome] at made
  obtain ⟨inputs, outputs, _, rfl⟩ := FunctionBinding.parts_of_ofEntry made
  rw [renamed]
  rfl

/-- A constant is the only one of its name, and holds its function's literal name. -/
theorem filter_constantName (compiled : (compile config entries).outcome = .ok bindings) :
    ∀ function ∈ bindings.functions,
      bindings.nameConstants.filter (fun constant => constant.name = function.constantName) =
        [⟨function.constantName, function.name⟩] := by
  intro function member
  have distinct := constantNames_nodup_of_compile compiled
  rw [← List.filterMap_eq_map] at distinct
  simpa using filter_eq_singleton_of_nodup distinct
    ((bindsNames_of_compile compiled).held function member) rfl

/-- Two functions share a constant exactly if they have the same literal name. -/
theorem constantName_eq_iff (compiled : (compile config entries).outcome = .ok bindings) :
    ∀ function ∈ bindings.functions, ∀ other ∈ bindings.functions,
      (function.constantName = other.constantName ↔ function.name = other.name) := by
  intro function member other otherMember
  have binds := bindsNames_of_compile compiled
  have held := binds.held function member
  have otherHeld := binds.held other otherMember
  constructor
  · intro same
    exact congrArg NameConstant.value
      (List.inj_on_of_nodup_map (constantNames_nodup_of_compile compiled) held otherHeld same)
  · intro same
    exact congrArg NameConstant.name
      (List.inj_on_of_nodup_map binds.distinct held otherHeld same)

end

end ContractBinder
