import ContractBinder.Proofs.Binding.Steps

/-!
# Compiling in two passes

What is generated for an entry does not depend on the entries around it; only
the names do. So compiling is the same as translating every entry on its own,
and then naming what came out, in order.

Results:

1. `Progress.add_outcome`: a step translates its entry, and names what came out.
2. `compile_eq_ok_iff`: the two passes give what `compile` gives.
3. `compile_eq_error_iff`: only the first pass fails, at its first entry that does.
-/

namespace ContractBinder

open Abi (Entry)

/-! ## 1. Entries on their own -/

/-- What is generated for one entry, before it has names of its own. -/
inductive Addition where
  | function (function : FunctionBinding)
  | event (event : EventBinding)
  | nothing

/-- Whether something is generated for an entry. -/
def Config.translates (config : Config) (entry : Entry) : Bool :=
  entry.kind = .function || entry.kind = .event && config.generateEvents

def Config.translate (config : Config) (entry : Entry) : Except BindingFault Addition :=
  match entry.kind, config.generateEvents with
  | .function, _ =>
    ((FunctionBinding.ofEntry entry).map Addition.function).mapError (.inEntry entry.name)
  | .event, true =>
    ((EventBinding.ofEntry entry).map Addition.event).mapError (.inEntry entry.name)
  | _, _ => .ok .nothing

/-- Names what is generated for an entry, and adds it. -/
def Progress.extend (progress : Progress) : Addition → Progress
  | .function function => progress.addFunction function
  | .event event => progress.addEvent event
  | .nothing => progress

section

variable {config : Config} {entry : Entry}

namespace Config

theorem translate_function (kind : entry.kind = .function) :
    config.translate entry =
      ((FunctionBinding.ofEntry entry).map Addition.function).mapError (.inEntry entry.name) := by
  rw [translate, kind]

theorem translate_event (kind : entry.kind = .event) (wanted : config.generateEvents = true) :
    config.translate entry =
      ((EventBinding.ofEntry entry).map Addition.event).mapError (.inEntry entry.name) := by
  rw [translate, kind, wanted]

theorem translates_eq_false_iff :
    config.translates entry = false ↔
      entry.kind ≠ .function ∧ (entry.kind = .event → config.generateEvents = false) := by
  cases wanted : config.generateEvents <;> simp [translates, wanted]

theorem translate_skipped (skipped : config.translates entry = false) :
    config.translate entry = .ok .nothing := by
  obtain ⟨noFunction, noEvent⟩ := translates_eq_false_iff.mp skipped
  unfold translate
  split
  · next kind => exact absurd kind noFunction
  · next kind wanted => cases wanted.symm.trans (noEvent kind)
  · rfl

/-- An entry is a function, an event that is wanted, or skipped. -/
theorem entry_cases (config : Config) (entry : Entry) :
    entry.kind = .function ∨ (entry.kind = .event ∧ config.generateEvents = true) ∨
      config.translates entry = false := by
  rw [translates_eq_false_iff]
  by_cases function : entry.kind = .function
  · exact .inl function
  · refine .inr ((Classical.em _).imp_right fun unwanted => ⟨function, fun kind => ?_⟩)
    exact Bool.eq_false_iff.mpr fun wanted => unwanted ⟨kind, wanted⟩

/-- `config.Yields entry addition`: this is generated for the entry. -/
inductive Yields (config : Config) (entry : Entry) : Addition → Prop
  | function {made : FunctionBinding} : entry.kind = .function →
      FunctionBinding.ofEntry entry = .ok made → Yields config entry (.function made)
  | event {made : EventBinding} : entry.kind = .event → config.generateEvents = true →
      EventBinding.ofEntry entry = .ok made → Yields config entry (.event made)
  | nothing : config.translates entry = false → Yields config entry .nothing

theorem yields_of_translate {addition : Addition}
    (translated : config.translate entry = .ok addition) : config.Yields entry addition := by
  rcases config.entry_cases entry with kind | ⟨kind, wanted⟩ | skipped
  · rw [translate_function kind, Outcome.mapError_eq_ok_iff, Outcome.map_eq_ok_iff] at translated
    obtain ⟨function, made, rfl⟩ := translated
    exact .function kind made
  · rw [translate_event kind wanted, Outcome.mapError_eq_ok_iff, Outcome.map_eq_ok_iff]
      at translated
    obtain ⟨event, made, rfl⟩ := translated
    exact .event kind wanted made
  · cases (translate_skipped skipped).symm.trans translated
    exact .nothing skipped

end Config

namespace Progress

theorem add_function (progress : Progress) (kind : entry.kind = .function) :
    add config.generateEvents progress entry =
      ((FunctionBinding.synthesize entry).mapFailure (.inEntry entry.name) >>= fun function =>
        pure (progress.addFunction function)) := by
  simp only [add, kind]

theorem add_event (progress : Progress) (kind : entry.kind = .event)
    (wanted : config.generateEvents = true) :
    add config.generateEvents progress entry =
      ((EventBinding.synthesize entry).mapFailure (.inEntry entry.name) >>= fun event =>
        pure (progress.addEvent event)) := by
  simp only [add, kind, wanted]

theorem add_skipped (progress : Progress) (skipped : config.translates entry = false) :
    add config.generateEvents progress entry =
      ⟨[⟨.debug, "Skipping " ++ entry.kind.title ++ " entry `" ++ entry.name ++ "`"⟩],
        .ok progress⟩ := by
  obtain ⟨noFunction, noEvent⟩ := Config.translates_eq_false_iff.mp skipped
  unfold add
  split
  · next kind => exact absurd kind noFunction
  · next kind wanted => cases wanted.symm.trans (noEvent kind)
  · rfl

/-- A step translates its entry and names what came out. -/
theorem add_outcome (progress : Progress) :
    (add config.generateEvents progress entry).outcome =
      (config.translate entry).map progress.extend := by
  rcases config.entry_cases entry with kind | ⟨kind, wanted⟩ | skipped
  · rw [add_function progress kind, Config.translate_function kind, Logged.bind_outcome,
      Logged.mapFailure, FunctionBinding.synthesize_outcome]
    cases FunctionBinding.ofEntry entry <;> rfl
  · rw [add_event progress kind wanted, Config.translate_event kind wanted, Logged.bind_outcome,
      Logged.mapFailure, EventBinding.synthesize_outcome]
    cases EventBinding.ofEntry entry <;> rfl
  · rw [add_skipped progress skipped, Config.translate_skipped skipped]
    rfl

end Progress

end

/-! ## 2. Runs -/

section

variable {config : Config} {entries : List Entry}
  {bindings : ContractBindings} {fault : BindingFault}

theorem Progress.foldlM_add_outcome (progress : Progress) :
    (entries.foldlM (Progress.add config.generateEvents) progress).outcome =
      (entries.mapM config.translate).map fun additions =>
        additions.foldl Progress.extend progress := by
  induction entries generalizing progress with
  | nil => rfl
  | cons entry entries ih =>
    rw [List.foldlM_cons, List.mapM_cons, Logged.bind_outcome, Progress.add_outcome]
    cases config.translate entry with
    | error fault => rfl
    | ok addition =>
      refine (ih (progress.extend addition)).trans ?_
      cases entries.mapM config.translate <;> rfl

theorem compile_eq_run (config : Config) (entries : List Entry) :
    (compile config entries).outcome =
      (entries.foldlM (Progress.add config.generateEvents) (Progress.start config)).outcome.map
        Progress.bindings := by
  unfold compile
  rw [Logged.bind_outcome]
  cases (entries.foldlM (Progress.add config.generateEvents) (Progress.start config)).outcome <;>
    rfl

/-- Compiling translates all entries, and then names what came out. -/
theorem compile_eq_ok_iff :
    (compile config entries).outcome = .ok bindings ↔
      ∃ additions, entries.mapM config.translate = .ok additions ∧
        (additions.foldl Progress.extend (Progress.start config)).bindings = bindings := by
  rw [compile_eq_run, Progress.foldlM_add_outcome, Outcome.map_eq_ok_iff]
  constructor
  · rintro ⟨progress, run, rfl⟩
    obtain ⟨additions, translated, rfl⟩ := Outcome.map_eq_ok_iff.mp run
    exact ⟨additions, translated, rfl⟩
  · rintro ⟨additions, translated, rfl⟩
    exact ⟨_, Outcome.map_eq_ok_iff.mpr ⟨additions, translated, rfl⟩, rfl⟩

/-- Compiling fails with the fault of the first entry that cannot be translated. -/
theorem compile_eq_error_iff :
    (compile config entries).outcome = .error fault ↔
      ∃ before entry after, entries = before ++ entry :: after ∧
        (∀ earlier ∈ before, ∃ addition, config.translate earlier = .ok addition) ∧
        config.translate entry = .error fault := by
  rw [compile_eq_run, Progress.foldlM_add_outcome, Outcome.map_eq_error_iff,
    Outcome.map_eq_error_iff, Outcome.mapM_eq_error_iff]

end

end ContractBinder
