import ContractBinder.Binding.Contract
import ContractBinder.Proofs.Outcome

/-!
# Steps of compiling

What handling one entry can do (`Progress.Adds`), when it fails, and what a
whole run keeps if every step keeps it. Everything about `compile` is proved
from these statements, none of which says anything about names.
-/

namespace ContractBinder

open Abi (Entry)

/-! ## 1. Single entries -/

theorem FunctionBinding.synthesize_outcome (entry : Entry) :
    (FunctionBinding.synthesize entry).outcome = FunctionBinding.ofEntry entry := by
  unfold FunctionBinding.synthesize
  split
  · next resolved => rw [resolved]
  · next failed => rw [failed]; rfl

theorem EventBinding.synthesize_outcome (entry : Entry) :
    (EventBinding.synthesize entry).outcome = EventBinding.ofEntry entry := by
  unfold EventBinding.synthesize
  split
  · next resolved => rw [resolved]
  · next failed => rw [failed]; rfl

/-! ## 2. One step -/

namespace Progress

variable {generateEvents : Bool} {progress next : Progress} {entry : Entry}

/-- A constant is found for a function's literal name, or one is added for it. -/
theorem constantFor_cases (progress : Progress) (value wanted : String) :
    (∃ constant ∈ progress.bindings.nameConstants, constant.value = value ∧
      progress.constantFor value wanted = (constant.name, progress)) ∨
    value ∉ progress.bindings.nameConstants.map NameConstant.value ∧
      (progress.constantFor value wanted).2.bindings.nameConstants =
        progress.bindings.nameConstants ++ [⟨(progress.constantFor value wanted).1, value⟩] := by
  unfold constantFor
  split
  · next constant found =>
    have matched := List.find?_some found
    exact .inl ⟨constant, List.mem_of_find?_eq_some found, by simpa using matched, rfl⟩
  · next none =>
    refine .inr ⟨fun member => ?_, rfl⟩
    obtain ⟨constant, listed, same⟩ := List.mem_map.mp member
    exact List.find?_eq_none.mp none constant listed (decide_eq_true same)

theorem constantFor_prefix (progress : Progress) (value wanted : String) :
    progress.bindings.nameConstants <+:
      (progress.constantFor value wanted).2.bindings.nameConstants := by
  rcases constantFor_cases progress value wanted with ⟨constant, _, _, found⟩ | ⟨_, added⟩
  · exact ⟨[], by rw [found, List.append_nil]⟩
  · exact ⟨_, added.symm⟩

theorem constantFor_contractName (progress : Progress) (value wanted : String) :
    (progress.constantFor value wanted).2.bindings.contractName =
      progress.bindings.contractName := by
  unfold constantFor
  split <;> rfl

theorem constantFor_methods (progress : Progress) (value wanted : String) :
    (progress.constantFor value wanted).2.methods = progress.methods := by
  unfold constantFor
  split <;> rfl

theorem constantFor_functions (progress : Progress) (value wanted : String) :
    (progress.constantFor value wanted).2.bindings.functions = progress.bindings.functions := by
  unfold constantFor
  split <;> rfl

theorem constantFor_events (progress : Progress) (value wanted : String) :
    (progress.constantFor value wanted).2.bindings.events = progress.bindings.events := by
  unfold constantFor
  split <;> rfl

/-- `Adds generateEvents progress entry next`: handling the entry leads from
the one progress to the other. -/
inductive Adds (generateEvents : Bool) (progress : Progress) (entry : Entry) : Progress → Prop
  | function {function : FunctionBinding} : entry.kind = .function →
      FunctionBinding.ofEntry entry = .ok function →
      Adds generateEvents progress entry (progress.addFunction function)
  | event {event : EventBinding} : entry.kind = .event → generateEvents = true →
      EventBinding.ofEntry entry = .ok event →
      Adds generateEvents progress entry (progress.addEvent event)
  | skipped : entry.kind ≠ .function → (entry.kind = .event → generateEvents = false) →
      Adds generateEvents progress entry progress

theorem add_outcome_eq_ok_iff :
    (add generateEvents progress entry).outcome = .ok next ↔
      Adds generateEvents progress entry next := by
  constructor
  · intro added
    unfold add at added
    split at added
    · next kind =>
      obtain ⟨function, made, rest⟩ := Logged.bind_outcome_eq_ok_iff.mp added
      rw [Logged.mapFailure_outcome_eq_ok_iff, FunctionBinding.synthesize_outcome] at made
      cases rest
      exact .function kind made
    · next kind =>
      obtain ⟨event, made, rest⟩ := Logged.bind_outcome_eq_ok_iff.mp added
      rw [Logged.mapFailure_outcome_eq_ok_iff, EventBinding.synthesize_outcome] at made
      cases rest
      exact .event kind rfl made
    · next noFunction noEvent =>
      cases added
      exact .skipped noFunction fun kind => Bool.eq_false_iff.mpr (noEvent kind)
  · intro added
    cases added with
    | function kind made =>
      simp only [add, kind]
      exact Logged.bind_outcome_eq_ok_iff.mpr ⟨_, Logged.mapFailure_outcome_eq_ok_iff.mpr
        ((FunctionBinding.synthesize_outcome entry).trans made), rfl⟩
    | event kind wanted made =>
      subst wanted
      simp only [add, kind]
      exact Logged.bind_outcome_eq_ok_iff.mpr ⟨_, Logged.mapFailure_outcome_eq_ok_iff.mpr
        ((EventBinding.synthesize_outcome entry).trans made), rfl⟩
    | skipped noFunction noEvent =>
      unfold add
      split
      · next kind => exact absurd kind noFunction
      · next kind => cases noEvent kind
      · rfl

/-- A step fails with the fault of its entry, which is one of its types. -/
theorem add_outcome_eq_error {fault : BindingFault}
    (failed : (add generateEvents progress entry).outcome = .error fault) :
    ∃ source, fault = .inEntry entry.name source ∧
      (FunctionBinding.ofEntry entry = .error source ∨
        EventBinding.ofEntry entry = .error source) := by
  unfold add at failed
  split at failed
  · rcases Logged.bind_outcome_eq_error_iff.mp failed with made | ⟨_, _, rest⟩
    · rw [Logged.mapFailure_outcome_eq_error_iff, FunctionBinding.synthesize_outcome] at made
      obtain ⟨source, inner, rfl⟩ := made
      exact ⟨source, rfl, .inl inner⟩
    · cases rest
  · rcases Logged.bind_outcome_eq_error_iff.mp failed with made | ⟨_, _, rest⟩
    · rw [Logged.mapFailure_outcome_eq_error_iff, EventBinding.synthesize_outcome] at made
      obtain ⟨source, inner, rfl⟩ := made
      exact ⟨source, rfl, .inr inner⟩
    · cases rest
  · cases failed

end Progress

/-! ## 3. Whole runs -/

variable {config : Config} {entries : List Entry} {bindings : ContractBindings}

/-- What holds at the start and is kept by every step holds of what is compiled. -/
theorem compile_invariant {Inv : Progress → Prop}
    (initial : Inv (Progress.start config))
    (keeps : ∀ progress entry next, entry ∈ entries → Inv progress →
      Progress.Adds config.generateEvents progress entry next → Inv next)
    (compiled : (compile config entries).outcome = .ok bindings) :
    ∃ progress, Inv progress ∧ progress.bindings = bindings := by
  obtain ⟨progress, run, rest⟩ := Logged.bind_outcome_eq_ok_iff.mp compiled
  cases rest
  refine ⟨progress, ?_, rfl⟩
  refine Logged.foldlM_invariant (fun state entry next member kept added => ?_) initial run
  exact keeps state entry next member kept (Progress.add_outcome_eq_ok_iff.mp added)

theorem compile_outcome_eq_error {fault : BindingFault}
    (failed : (compile config entries).outcome = .error fault) :
    ∃ entry ∈ entries, ∃ source, fault = .inEntry entry.name source ∧
      (FunctionBinding.ofEntry entry = .error source ∨
        EventBinding.ofEntry entry = .error source) := by
  rcases Logged.bind_outcome_eq_error_iff.mp failed with run | ⟨_, _, rest⟩
  · obtain ⟨entry, member, state, stepFailed⟩ := Logged.exists_of_foldlM_eq_error run
    exact ⟨entry, member, Progress.add_outcome_eq_error stepFailed⟩
  · cases rest

end ContractBinder
