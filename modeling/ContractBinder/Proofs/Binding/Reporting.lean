import ContractBinder.Proofs.Binding.Making
import ContractBinder.Proofs.Binding.Translation

/-!
# Faults and warnings

What compiling reports depends on the entries alone, and on their order. Faults
stop it at three levels: the first type of an entry that cannot be resolved is
the fault of the entry, the first entry with a fault is that of the contract,
and nothing behind it is reported.

Results:

1. `compile_warnings_of_ok`: every function whose outputs are lost is warned
   about once, in order.
2. `Config.translate_eq_error_iff`: when an entry fails, and for which type.
3. `compile_fails_and_warns_in_order`: both together, for whole contracts.
   `compile_ignores_event_outputs`: outputs of events have no part in it.
-/

namespace ContractBinder

open Abi (Entry Parameter)

/-! ## 1. Warnings -/

/-- A function that returns values but is not declared to only read. -/
def Abi.Entry.LosesOutputs (entry : Entry) : Prop :=
  entry.kind = .function ∧ entry.outputs ≠ [] ∧ entry.mutability ≠ .pure ∧ entry.mutability ≠ .view

instance : DecidablePred Abi.Entry.LosesOutputs := fun entry =>
  inferInstanceAs (Decidable (entry.kind = .function ∧ entry.outputs ≠ [] ∧
    entry.mutability ≠ .pure ∧ entry.mutability ≠ .view))

/-- The warnings about the functions among some entries whose outputs are lost,
one for each. -/
def lostOutputsWarnings (entries : List Entry) : List String :=
  (entries.filter fun entry => entry.LosesOutputs).map fun entry => lostOutputsWarning entry.name

theorem lostOutputsWarnings_append (before after : List Entry) :
    lostOutputsWarnings (before ++ after) =
      lostOutputsWarnings before ++ lostOutputsWarnings after := by
  rw [lostOutputsWarnings, List.filter_append, List.map_append]
  rfl

theorem lostOutputsWarnings_cons (entry : Entry) (entries : List Entry) :
    lostOutputsWarnings (entry :: entries) =
      lostOutputsWarnings [entry] ++ lostOutputsWarnings entries :=
  lostOutputsWarnings_append [entry] entries

theorem losesOutputs_iff {entry : Entry} (kind : entry.kind = .function) :
    losesOutputs entry = true ↔ entry.LosesOutputs := by
  unfold losesOutputs Entry.LosesOutputs
  cases mutability : entry.mutability <;> simp [kind, Abi.Mutability.isReadOnly]

theorem lostOutputsWarnings_singleton {entry : Entry} (noFunction : entry.kind ≠ .function) :
    lostOutputsWarnings [entry] = [] := by
  have kept : ¬ entry.LosesOutputs := fun lost => noFunction lost.1
  simp [lostOutputsWarnings, kept]

theorem FunctionBinding.synthesize_warnings {entry : Entry} {function : FunctionBinding}
    (kind : entry.kind = .function) (made : FunctionBinding.ofEntry entry = .ok function) :
    (FunctionBinding.synthesize entry).warnings = lostOutputsWarnings [entry] := by
  simp only [FunctionBinding.synthesize, made, FunctionBinding.records, Logged.warnings,
    lostOutputsWarnings]
  by_cases lost : entry.LosesOutputs
  · simp [lost, (losesOutputs_iff kind).mpr lost]
  · simp [lost, mt (losesOutputs_iff kind).mp lost]

theorem FunctionBinding.synthesize_eq_failure {entry : Entry} {source : BindingFault}
    (failed : FunctionBinding.ofEntry entry = .error source) :
    FunctionBinding.synthesize entry = .failure source := by
  rw [FunctionBinding.synthesize, failed]

theorem EventBinding.synthesize_warnings (entry : Entry) :
    (EventBinding.synthesize entry).warnings = [] := by
  unfold EventBinding.synthesize
  split <;> rfl

namespace Progress

variable {config : Config} {entry : Entry}

/-- A step that has a value reports what is wrong with its entry. -/
theorem add_warnings_of_ok {addition : Addition}
    (translated : config.translate entry = .ok addition) (progress : Progress) :
    (add config.generateEvents progress entry).warnings = lostOutputsWarnings [entry] := by
  cases Config.yields_of_translate translated with
  | function kind made =>
    rw [add_function progress kind, Logged.bind_warnings_of_ok
      (Logged.mapFailure_outcome_eq_ok_iff.mpr
        ((FunctionBinding.synthesize_outcome entry).trans made))]
    exact (List.append_nil _).trans (FunctionBinding.synthesize_warnings kind made)
  | event kind wanted made =>
    rw [add_event progress kind wanted, Logged.bind_warnings_of_ok
      (Logged.mapFailure_outcome_eq_ok_iff.mpr
        ((EventBinding.synthesize_outcome entry).trans made)),
      lostOutputsWarnings_singleton (by rw [kind]; decide)]
    exact (List.append_nil _).trans (EventBinding.synthesize_warnings entry)
  | nothing skipped =>
    rw [add_skipped progress skipped,
      lostOutputsWarnings_singleton (Config.translates_eq_false_iff.mp skipped).1]
    rfl

/-- A step that fails reports nothing. -/
theorem add_warnings_of_error {fault : BindingFault}
    (failed : config.translate entry = .error fault) (progress : Progress) :
    (add config.generateEvents progress entry).warnings = [] := by
  rcases config.entry_cases entry with kind | ⟨kind, wanted⟩ | skipped
  · rw [Config.translate_function kind, Outcome.mapError_eq_error_iff] at failed
    obtain ⟨source, made, _⟩ := failed
    rw [add_function progress kind,
      FunctionBinding.synthesize_eq_failure (Outcome.map_eq_error_iff.mp made)]
    rfl
  · rw [Config.translate_event kind wanted, Outcome.mapError_eq_error_iff] at failed
    obtain ⟨source, made, _⟩ := failed
    rw [add_event progress kind wanted, Logged.bind_warnings_of_error
      (Logged.mapFailure_outcome_eq_error_iff.mpr ⟨source,
        (EventBinding.synthesize_outcome entry).trans (Outcome.map_eq_error_iff.mp made), rfl⟩)]
    exact EventBinding.synthesize_warnings entry
  · rw [Config.translate_skipped skipped] at failed
    cases failed

end Progress

section

variable {config : Config} {entries before after : List Entry} {entry : Entry}

theorem Progress.foldlM_add_warnings_of_ok
    (translated : ∀ entry ∈ entries, ∃ addition, config.translate entry = .ok addition)
    (progress : Progress) :
    (entries.foldlM (Progress.add config.generateEvents) progress).warnings =
      lostOutputsWarnings entries := by
  induction entries generalizing progress with
  | nil => rfl
  | cons entry entries ih =>
    obtain ⟨⟨addition, first⟩, others⟩ := List.forall_mem_cons.mp translated
    have stepped := (Progress.add_outcome progress).trans (congrArg _ first)
    rw [List.foldlM_cons, Logged.bind_warnings_of_ok stepped, ih others,
      Progress.add_warnings_of_ok first, ← lostOutputsWarnings_cons]

theorem Progress.foldlM_add_warnings_of_error {fault : BindingFault}
    (translated : ∀ earlier ∈ before, ∃ addition, config.translate earlier = .ok addition)
    (failed : config.translate entry = .error fault) (progress : Progress) :
    ((before ++ entry :: after).foldlM (Progress.add config.generateEvents) progress).warnings =
      lostOutputsWarnings before := by
  induction before generalizing progress with
  | nil =>
    have stepped := (Progress.add_outcome progress).trans (congrArg _ failed)
    rw [List.nil_append, List.foldlM_cons, Logged.bind_warnings_of_error stepped]
    exact Progress.add_warnings_of_error failed progress
  | cons earlier before ih =>
    obtain ⟨⟨addition, first⟩, others⟩ := List.forall_mem_cons.mp translated
    have stepped := (Progress.add_outcome progress).trans (congrArg _ first)
    rw [List.cons_append, List.foldlM_cons, Logged.bind_warnings_of_ok stepped, ih others,
      Progress.add_warnings_of_ok first, ← lostOutputsWarnings_cons]

theorem compile_warnings :
    (compile config entries).warnings =
      (entries.foldlM (Progress.add config.generateEvents) (Progress.start config)).warnings := by
  unfold compile
  cases run : (entries.foldlM (Progress.add config.generateEvents) (Progress.start config)).outcome
  · exact Logged.bind_warnings_of_error run _
  · exact (Logged.bind_warnings_of_ok run _).trans (List.append_nil _)

/-- If nothing fails, every function whose outputs are lost is warned about. -/
theorem compile_warnings_of_ok {bindings : ContractBindings}
    (compiled : (compile config entries).outcome = .ok bindings) :
    (compile config entries).warnings = lostOutputsWarnings entries := by
  obtain ⟨additions, translated, _⟩ := compile_eq_ok_iff.mp compiled
  rw [compile_warnings]
  exact Progress.foldlM_add_warnings_of_ok (Outcome.exists_eq_ok_of_mapM translated) _

end

/-! ## 2. Faults -/

/-- The types that are read for an entry, in order: those of its inputs and, for
a function, those of its outputs. -/
def Abi.Entry.declaredTypes (entry : Entry) : List String :=
  (if entry.kind = .function then entry.inputs ++ entry.outputs else entry.inputs).map
    Parameter.declaredType

/-- `entry.RejectedFor source`: one of the entry's types cannot be resolved, and
`source` is the fault of the first one that cannot. -/
def Abi.Entry.RejectedFor (entry : Entry) (source : BindingFault) : Prop :=
  ∃ before declared after, entry.declaredTypes = before ++ declared :: after ∧
    (∀ type ∈ before, ∃ wire, BindingFault.resolve type = .ok wire) ∧
    BindingFault.resolve declared = .error source

/-- Nothing is generated for the entry, or all its types can be resolved. -/
def Config.Accepts (config : Config) (entry : Entry) : Prop :=
  config.translates entry = true →
    ∀ declared ∈ entry.declaredTypes, ∃ wire, BindingFault.resolve declared = .ok wire

theorem resolveTypes_eq_mapM (parameters : List Parameter) :
    resolveTypes parameters =
      (parameters.map Parameter.declaredType).mapM BindingFault.resolve := by
  rw [List.mapM_map]
  rfl

theorem Abi.Entry.rejectedFor_iff {entry : Entry} {source : BindingFault} :
    entry.RejectedFor source ↔ entry.declaredTypes.mapM BindingFault.resolve = .error source :=
  Outcome.mapM_eq_error_iff.symm

namespace Config

variable {config : Config} {entry : Entry}

/-- An entry fails for the first of its types that cannot be resolved. -/
theorem translate_eq_error_iff {fault : BindingFault} :
    config.translate entry = .error fault ↔
      config.translates entry = true ∧
        ∃ source, entry.RejectedFor source ∧ fault = .inEntry entry.name source := by
  simp only [Entry.rejectedFor_iff, Entry.declaredTypes, ← resolveTypes_eq_mapM]
  rcases config.entry_cases entry with kind | ⟨kind, wanted⟩ | skipped
  · have selected : config.translates entry = true := by simp [translates, kind]
    simp only [translate_function kind, Outcome.mapError_eq_error_iff, Outcome.map_eq_error_iff,
      FunctionBinding.ofEntry_eq_error_iff, selected, kind, true_and, if_true, @eq_comm _ fault]
  · have selected : config.translates entry = true := by simp [translates, kind, wanted]
    have noFunction : ¬ entry.kind = .function := by rw [kind]; decide
    simp only [translate_event kind wanted, Outcome.mapError_eq_error_iff, Outcome.map_eq_error_iff,
      EventBinding.ofEntry_eq_error_iff, selected, noFunction, true_and, if_false, @eq_comm _ fault]
  · rw [translate_skipped skipped, skipped]
    constructor
    · intro failed
      cases failed
    · rintro ⟨selected, _⟩
      cases selected

theorem accepts_iff :
    config.Accepts entry ↔ ∃ addition, config.translate entry = .ok addition := by
  constructor
  · intro accepted
    cases translated : config.translate entry with
    | ok addition => exact ⟨addition, rfl⟩
    | error fault =>
      obtain ⟨selected, source, ⟨_, declared, _, split, _, rejected⟩, _⟩ :=
        translate_eq_error_iff.mp translated
      obtain ⟨wire, resolved⟩ := accepted selected declared (by rw [split]; simp)
      cases resolved.symm.trans rejected
  · rintro ⟨addition, translated⟩ selected
    cases resolved : entry.declaredTypes.mapM BindingFault.resolve with
    | ok wires => exact Outcome.exists_eq_ok_of_mapM resolved
    | error source =>
      have failed := translate_eq_error_iff.mpr
        ⟨selected, source, Entry.rejectedFor_iff.mpr resolved, rfl⟩
      cases translated.symm.trans failed

theorem not_accepts_iff :
    ¬ config.Accepts entry ↔ config.translates entry = true ∧
      ∃ declared ∈ entry.declaredTypes, ∃ source,
        BindingFault.resolve declared = .error source := by
  simp only [Accepts, Classical.not_imp, Classical.not_forall, Outcome.not_exists_eq_ok_iff]

end Config

/-- Compiling fails exactly if an entry that something is generated for is not
accepted. -/
theorem exists_compile_eq_error_iff {config : Config} {entries : List Entry} :
    (∃ fault, (compile config entries).outcome = .error fault) ↔
      ∃ entry ∈ entries, ¬ config.Accepts entry := by
  constructor
  · rintro ⟨fault, failed⟩
    obtain ⟨before, entry, after, rfl, _, rejected⟩ := compile_eq_error_iff.mp failed
    refine ⟨entry, List.mem_append_right before List.mem_cons_self, fun accepted => ?_⟩
    obtain ⟨addition, translated⟩ := Config.accepts_iff.mp accepted
    cases translated.symm.trans rejected
  · rintro ⟨entry, member, rejected⟩
    refine Outcome.not_exists_eq_ok_iff.mp fun ⟨bindings, compiled⟩ => ?_
    obtain ⟨additions, translated, _⟩ := compile_eq_ok_iff.mp compiled
    exact rejected
      (Config.accepts_iff.mpr (Outcome.exists_eq_ok_of_mapM translated entry member))

/-! ## 3. Whole contracts -/

/-- Compiling fails exactly if a type is rejected that is read for an entry which
something is generated for. The fault is that of the first such entry, which is
that of the first of its types. Reported are, in order, the warnings about the
functions before that entry, and about all functions if nothing fails. -/
theorem compile_fails_and_warns_in_order (config : Config) (entries : List Entry) :
    ((∃ fault, (compile config entries).outcome = .error fault) ↔
      ∃ entry ∈ entries, config.translates entry = true ∧
        ∃ declared ∈ entry.declaredTypes, ∃ source,
          BindingFault.resolve declared = .error source) ∧
    (∀ fault, (compile config entries).outcome = .error fault →
      ∃ before entry after source, entries = before ++ entry :: after ∧
        (∀ earlier ∈ before, config.Accepts earlier) ∧
        config.translates entry = true ∧ entry.RejectedFor source ∧
        fault = .inEntry entry.name source ∧
        (compile config entries).warnings = lostOutputsWarnings before) ∧
    ∀ bindings, (compile config entries).outcome = .ok bindings →
      (compile config entries).warnings = lostOutputsWarnings entries := by
  refine ⟨?_, fun fault failed => ?_, fun bindings compiled => compile_warnings_of_ok compiled⟩
  · simp only [exists_compile_eq_error_iff, Config.not_accepts_iff]
  · obtain ⟨before, entry, after, rfl, translated, rejected⟩ := compile_eq_error_iff.mp failed
    obtain ⟨selected, source, first, rfl⟩ := Config.translate_eq_error_iff.mp rejected
    refine ⟨before, entry, after, source, rfl, fun earlier member => ?_, selected, first, rfl, ?_⟩
    · exact Config.accepts_iff.mpr (translated earlier member)
    · rw [compile_warnings]
      exact Progress.foldlM_add_warnings_of_error translated rejected _

/-- A function that is warned about, an event that is not wanted, and a function
with two unknown types, behind which nothing is reported. -/
theorem compile_fails_and_warns_in_order_unwanted :
    ∃ entries compiled fault before entry after source,
      entries =
        [⟨.function, "f", [], [⟨"", "bool", false⟩], .normal⟩,
          ⟨.event, "e", [⟨"", "uint7", false⟩], [], .normal⟩,
          ⟨.function, "g", [⟨"", "uint7", false⟩], [⟨"", "bad", false⟩], .payable⟩,
          ⟨.function, "h", [], [⟨"", "bool", false⟩], .normal⟩] ∧
      compiled = compile { Config.default with generateEvents := false } entries ∧
      compiled.warnings = [lostOutputsWarning "f"] ∧ compiled.outcome = .error fault ∧
      entries = before ++ entry :: after ∧ entry.RejectedFor source ∧
      fault = .inEntry entry.name source ∧ compiled.warnings = lostOutputsWarnings before := by
  obtain ⟨fails, blames, _⟩ :=
    compile_fails_and_warns_in_order { Config.default with generateEvents := false }
      [⟨.function, "f", [], [⟨"", "bool", false⟩], .normal⟩,
        ⟨.event, "e", [⟨"", "uint7", false⟩], [], .normal⟩,
        ⟨.function, "g", [⟨"", "uint7", false⟩], [⟨"", "bad", false⟩], .payable⟩,
        ⟨.function, "h", [], [⟨"", "bool", false⟩], .normal⟩]
  obtain ⟨fault, failed⟩ := fails.mpr
    ⟨⟨.function, "g", [⟨"", "uint7", false⟩], [⟨"", "bad", false⟩], .payable⟩, by simp, rfl,
      "uint7", List.mem_cons_self, Outcome.toOption_eq_none_iff.mp (by decide +kernel)⟩
  obtain ⟨before, entry, after, source, split, _, _, first, blamed, warned⟩ := blames fault failed
  exact ⟨_, _, fault, before, entry, after, source, rfl, rfl, by decide +kernel, failed, split,
    first, blamed, warned⟩

/-- The outputs of an event are not read: a type among them that cannot be
resolved does not let compiling fail. -/
theorem compile_ignores_event_outputs :
    ¬ ((∃ fault, (compile Config.default
          [⟨.event, "E", [], [⟨"", "uint7", false⟩], .normal⟩]).outcome = .error fault) ↔
      ∃ entry ∈ ([⟨.event, "E", [], [⟨"", "uint7", false⟩], .normal⟩] : List Entry),
        Config.default.translates entry = true ∧
        ∃ parameter ∈ entry.inputs ++ entry.outputs, ∃ source,
          BindingFault.resolve parameter.declaredType = .error source) := by
  intro same
  have failed := same.mpr ⟨_, List.mem_cons_self, rfl, _, List.mem_cons_self,
    Outcome.toOption_eq_none_iff.mp (by decide +kernel)⟩
  obtain ⟨_, member, rejected⟩ := exists_compile_eq_error_iff.mp failed
  cases List.mem_singleton.mp member
  exact rejected fun _ _ listed => absurd listed List.not_mem_nil

end ContractBinder
