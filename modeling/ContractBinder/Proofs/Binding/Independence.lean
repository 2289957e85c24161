import ContractBinder.Binding.Manifest
import ContractBinder.Proofs.Binding.Reporting
import ContractBinder.Proofs.Binding.Signature
import ContractBinder.Proofs.Lists
import ContractBinder.Proofs.Ordered

/-!
# Entries are independent

All that an entry takes from the entries before it is the names that are still
free. So functions and events are those of their entries on their own, under
other names; whatever does not hold names is the same in every order; and names
once given are never changed.

Results:

1. `Progress.foldl_extend_grows`: naming what was translated only appends to what
   there is.
2. `compile_append_prefix`: entries behind others change nothing of what is
   generated for those.
3. `compile_translates_independently`: what is generated for single entries, which
   entries do not matter, and what does not depend on their order.
-/

namespace ContractBinder

open Abi (Entry)

/-! ## 1. Naming only appends -/

/-- The functions differ in their generated names at most. -/
def FunctionBinding.Renamed (plain named : FunctionBinding) : Prop :=
  named = { plain with methodName := named.methodName, constantName := named.constantName }

/-- The events differ in their generated names at most. -/
def EventBinding.Renamed (plain named : EventBinding) : Prop :=
  named = { plain with names := named.names }

/-- The function that is added, if one is. -/
def Addition.function? : Addition → Option FunctionBinding
  | .function added => some added
  | .event _ | .nothing => none

/-- The event that is added, if one is. -/
def Addition.event? : Addition → Option EventBinding
  | .event added => some added
  | .function _ | .nothing => none

namespace Progress

/-- `Grows additions earlier later`: behind what was generated earlier, the later
progress has the additions in order, under names of their own. -/
structure Grows (additions : List Addition) (earlier later : Progress) : Prop where
  contractName : earlier.bindings.contractName = later.bindings.contractName
  constants : earlier.bindings.nameConstants <+: later.bindings.nameConstants
  functions : ∃ named, later.bindings.functions = earlier.bindings.functions ++ named ∧
    List.Forall₂ FunctionBinding.Renamed (additions.filterMap Addition.function?) named
  events : ∃ named, later.bindings.events = earlier.bindings.events ++ named ∧
    List.Forall₂ EventBinding.Renamed (additions.filterMap Addition.event?) named

variable {additions others : List Addition} {progress earlier later last : Progress}

theorem Grows.refl (progress : Progress) : Grows [] progress progress :=
  ⟨rfl, List.prefix_rfl, ⟨[], (List.append_nil _).symm, .nil⟩, ⟨[], (List.append_nil _).symm, .nil⟩⟩

theorem Grows.trans (first : Grows additions earlier later) (second : Grows others later last) :
    Grows (additions ++ others) earlier last := by
  obtain ⟨functions, firstFunctions, plainFunctions⟩ := first.functions
  obtain ⟨moreFunctions, secondFunctions, otherFunctions⟩ := second.functions
  obtain ⟨events, firstEvents, plainEvents⟩ := first.events
  obtain ⟨moreEvents, secondEvents, otherEvents⟩ := second.events
  refine
    { contractName := first.contractName.trans second.contractName
      constants := first.constants.trans second.constants
      functions := ⟨functions ++ moreFunctions, ?_, ?_⟩
      events := ⟨events ++ moreEvents, ?_, ?_⟩ }
  · rw [secondFunctions, firstFunctions, List.append_assoc]
  · rw [List.filterMap_append]
    exact List.rel_append plainFunctions otherFunctions
  · rw [secondEvents, firstEvents, List.append_assoc]
  · rw [List.filterMap_append]
    exact List.rel_append plainEvents otherEvents

theorem addFunction_grows (progress : Progress) (function : FunctionBinding) :
    Grows [.function function] progress (progress.addFunction function) := by
  -- The constant is looked for when the method has its name already.
  let named : Progress :=
    { progress with methods := (progress.methods.unique function.methodName).2 }
  exact
    { contractName := (constantFor_contractName named _ _).symm
      constants := constantFor_prefix named _ _
      functions := ⟨_, congrArg (· ++ _) (constantFor_functions named _ _), .cons rfl .nil⟩
      events := ⟨[], (constantFor_events named _ _).trans (List.append_nil _).symm, .nil⟩ }

theorem addEvent_grows (progress : Progress) (event : EventBinding) :
    Grows [.event event] progress (progress.addEvent event) :=
  ⟨rfl, List.prefix_rfl, ⟨[], (List.append_nil _).symm, .nil⟩, ⟨[_], rfl, .cons rfl .nil⟩⟩

theorem extend_grows (progress : Progress) (addition : Addition) :
    Grows [addition] progress (progress.extend addition) := by
  cases addition with
  | function function => exact addFunction_grows progress function
  | event event => exact addEvent_grows progress event
  | nothing => exact ⟨rfl, List.prefix_rfl, ⟨[], (List.append_nil _).symm, .nil⟩,
      ⟨[], (List.append_nil _).symm, .nil⟩⟩

theorem foldl_extend_grows (additions : List Addition) (progress : Progress) :
    Grows additions progress (additions.foldl extend progress) := by
  induction additions generalizing progress with
  | nil => exact .refl progress
  | cons addition additions ih =>
    exact (extend_grows progress addition).trans (ih (progress.extend addition))

end Progress

/-! ## 2. Names stay -/

/-- Entries behind others change nothing of what is generated for those, their
names included. -/
theorem compile_append_prefix {config : Config} {first second : List Entry}
    {bindings : ContractBindings}
    (compiled : (compile config (first ++ second)).outcome = .ok bindings) :
    ∃ earlier, (compile config first).outcome = .ok earlier ∧
      earlier.contractName = bindings.contractName ∧
      earlier.functions <+: bindings.functions ∧ earlier.events <+: bindings.events ∧
      earlier.nameConstants <+: bindings.nameConstants ∧
      (compile config first).warnings <+: (compile config (first ++ second)).warnings := by
  obtain ⟨all, translated, rfl⟩ := compile_eq_ok_iff.mp compiled
  rw [List.mapM_append] at translated
  obtain ⟨additions, firstTranslated, rest⟩ := Outcome.bind_eq_ok_iff.mp translated
  obtain ⟨others, _, joined⟩ := Outcome.bind_eq_ok_iff.mp rest
  cases joined
  -- Naming what is added later starts from all that has names already.
  have earlier := compile_eq_ok_iff.mpr ⟨additions, firstTranslated, rfl⟩
  have grows := Progress.foldl_extend_grows others
    (additions.foldl Progress.extend (Progress.start config))
  rw [← List.foldl_append] at grows
  obtain ⟨functions, functionsSplit, _⟩ := grows.functions
  obtain ⟨events, eventsSplit, _⟩ := grows.events
  refine ⟨_, earlier, grows.contractName, ⟨functions, functionsSplit.symm⟩,
    ⟨events, eventsSplit.symm⟩, grows.constants, ?_⟩
  rw [compile_warnings_of_ok earlier, compile_warnings_of_ok compiled, lostOutputsWarnings_append]
  exact List.prefix_append _ _

/-- An overload of a function and an event that is called like it. -/
theorem compile_append_prefix_overload :
    ∃ earlier bindings,
      (compile { Config.default with contractName := "C" }
        [⟨.function, "a", [], [], .view⟩]).outcome = .ok earlier ∧
      (compile { Config.default with contractName := "C" }
        ([⟨.function, "a", [], [], .view⟩] ++
          [⟨.function, "a", [⟨"", "bool", false⟩], [⟨"", "bool", false⟩], .normal⟩,
            ⟨.event, "A", [], [], .normal⟩])).outcome = .ok bindings ∧
      earlier.functions.map FunctionBinding.methodName = ["a"] ∧
      bindings.functions.map FunctionBinding.methodName = ["a", "a_1"] ∧
      earlier.functions <+: bindings.functions ∧
      earlier.nameConstants <+: bindings.nameConstants := by
  have made :
      (compile { Config.default with contractName := "C" }
        ([⟨.function, "a", [], [], .view⟩] ++
          [⟨.function, "a", [⟨"", "bool", false⟩], [⟨"", "bool", false⟩], .normal⟩,
            ⟨.event, "A", [], [], .normal⟩])).outcome.toOption.map (fun bindings =>
              bindings.functions.map FunctionBinding.methodName) =
        some ["a", "a_1"] := by
    decide +kernel
  have before :
      (compile { Config.default with contractName := "C" }
        [⟨.function, "a", [], [], .view⟩]).outcome.toOption.map (fun bindings =>
          bindings.functions.map FunctionBinding.methodName) =
        some ["a"] := by
    decide +kernel
  obtain ⟨bindings, found, names⟩ := Option.map_eq_some_iff.mp made
  have compiled := Outcome.toOption_eq_some_iff.mp found
  obtain ⟨earlier, succeeded, _, functions, _, constants, _⟩ := compile_append_prefix compiled
  rw [succeeded] at before
  exact ⟨earlier, bindings, succeeded, compiled, Option.some.inj before, names, functions,
    constants⟩

/-! ## 3. What single entries give -/

/-- `config.Generates entries bindings`: in order, the bindings hold what is
generated for each entry on its own, under other names at most. -/
structure Config.Generates (config : Config) (entries : List Entry)
    (bindings : ContractBindings) : Prop where
  functions : List.Forall₂
    (fun entry function => ∃ plain, (FunctionBinding.synthesize entry).outcome = .ok plain ∧
      plain.Renamed function)
    (entries.filter fun entry => entry.kind = .function) bindings.functions
  events : List.Forall₂
    (fun entry event => ∃ plain, (EventBinding.synthesize entry).outcome = .ok plain ∧
      plain.Renamed event)
    (if config.generateEvents then entries.filter fun entry => entry.kind = .event else [])
    bindings.events

section

variable {config : Config} {entries : List Entry} {additions : List Addition}
  {bindings : ContractBindings}

theorem translated_functions (translated : entries.mapM config.translate = .ok additions) :
    List.Forall₂ (fun entry plain => (FunctionBinding.synthesize entry).outcome = .ok plain)
      (entries.filter fun entry => entry.kind = .function)
      (additions.filterMap Addition.function?) := by
  rw [← List.filterMap_eq_filter]
  refine List.rel_filterMap (fun entry addition single => ?_) (Outcome.mapM_eq_ok_iff.mp translated)
  cases Config.yields_of_translate single with
  | function kind made =>
    rw [Option.guard_pos (by simp [kind])]
    exact .some ((FunctionBinding.synthesize_outcome entry).trans made)
  | event kind _ _ =>
    rw [Option.guard_eq_none_iff.mpr (by simp [kind])]
    exact .none
  | nothing skipped =>
    rw [Option.guard_eq_none_iff.mpr (by simpa using (Config.translates_eq_false_iff.mp skipped).1)]
    exact .none

theorem translated_events (translated : entries.mapM config.translate = .ok additions) :
    List.Forall₂ (fun entry plain => (EventBinding.synthesize entry).outcome = .ok plain)
      (if config.generateEvents then entries.filter fun entry => entry.kind = .event else [])
      (additions.filterMap Addition.event?) := by
  have wantedEvents :
      (if config.generateEvents then entries.filter fun entry => entry.kind = .event else []) =
        entries.filter fun entry => entry.kind = .event && config.generateEvents := by
    cases config.generateEvents <;> simp
  rw [wantedEvents, ← List.filterMap_eq_filter]
  refine List.rel_filterMap (fun entry addition single => ?_) (Outcome.mapM_eq_ok_iff.mp translated)
  cases Config.yields_of_translate single with
  | function kind _ =>
    rw [Option.guard_eq_none_iff.mpr (by simp [kind])]
    exact .none
  | event kind wanted made =>
    rw [Option.guard_pos (by simp [kind, wanted])]
    exact .some ((EventBinding.synthesize_outcome entry).trans made)
  | nothing skipped =>
    rw [Option.guard_eq_none_iff.mpr (by simpa using (Config.translates_eq_false_iff.mp skipped).2)]
    exact .none

/-- What is compiled is what was translated, under names of its own. -/
theorem compile_grows (compiled : (compile config entries).outcome = .ok bindings) :
    ∃ additions, entries.mapM config.translate = .ok additions ∧
      List.Forall₂ FunctionBinding.Renamed (additions.filterMap Addition.function?)
        bindings.functions ∧
      List.Forall₂ EventBinding.Renamed (additions.filterMap Addition.event?) bindings.events := by
  obtain ⟨additions, translated, rfl⟩ := compile_eq_ok_iff.mp compiled
  obtain ⟨_, _, ⟨functions, addedFunctions, renamedFunctions⟩, ⟨events, addedEvents, renamedEvents⟩⟩
    := Progress.foldl_extend_grows additions (Progress.start config)
  rw [addedFunctions, addedEvents]
  exact ⟨additions, translated, renamedFunctions, renamedEvents⟩

/-- Compiling generates for every entry what it generates for it on its own. -/
theorem generates_of_compile (compiled : (compile config entries).outcome = .ok bindings) :
    config.Generates entries bindings := by
  obtain ⟨additions, translated, functions, events⟩ := compile_grows compiled
  exact ⟨forall₂_comp (translated_functions translated) functions,
    forall₂_comp (translated_events translated) events⟩

/-! ## 4. Entries that do not matter -/

/-- Entries that nothing is generated for may be left out. -/
theorem foldlM_add_filter (config : Config) (entries : List Entry) (progress : Progress) :
    ((entries.filter config.translates).foldlM (Progress.add config.generateEvents)
        progress).outcome =
      (entries.foldlM (Progress.add config.generateEvents) progress).outcome ∧
    ((entries.filter config.translates).foldlM (Progress.add config.generateEvents)
        progress).warnings =
      (entries.foldlM (Progress.add config.generateEvents) progress).warnings := by
  induction entries generalizing progress with
  | nil => exact ⟨rfl, rfl⟩
  | cons entry entries ih =>
    cases selected : config.translates entry with
    | false =>
      rw [List.filter_cons_of_neg (Bool.eq_false_iff.mp selected), List.foldlM_cons,
        Progress.add_skipped progress selected]
      -- A skipped entry is reported, but this is no warning.
      refine ⟨(ih progress).1, (ih progress).2.trans ?_⟩
      rw [Logged.bind_warnings_of_ok rfl]
      rfl
    | true =>
      rw [List.filter_cons_of_pos selected, List.foldlM_cons, List.foldlM_cons]
      cases stepped : (Progress.add config.generateEvents progress entry).outcome with
      | error fault =>
        simp only [Logged.bind_outcome, stepped, Logged.bind_warnings_of_error stepped]
        exact ⟨rfl, trivial⟩
      | ok next =>
        simp only [Logged.bind_outcome, stepped, Logged.bind_warnings_of_ok stepped]
        exact ⟨(ih next).1, congrArg _ (ih next).2⟩

theorem compile_filter (config : Config) (entries : List Entry) :
    (compile config (entries.filter config.translates)).outcome =
        (compile config entries).outcome ∧
      (compile config (entries.filter config.translates)).warnings =
        (compile config entries).warnings := by
  obtain ⟨outcomes, warnings⟩ := foldlM_add_filter config entries (Progress.start config)
  exact ⟨by rw [compile_eq_run, compile_eq_run, outcomes],
    by rw [compile_warnings, compile_warnings, warnings]⟩

/-! ## 5. Orders that do not matter -/

theorem FunctionBinding.map_signature_eq {plain named : List FunctionBinding}
    (renamed : List.Forall₂ FunctionBinding.Renamed plain named) :
    named.map signature = plain.map signature :=
  (map_eq_of_forall₂ (fun _ _ same => by rw [same]) renamed).symm

theorem EventBinding.map_signature_eq {plain named : List EventBinding}
    (renamed : List.Forall₂ EventBinding.Renamed plain named) :
    named.map signature = plain.map signature :=
  (map_eq_of_forall₂ (fun _ _ same => by rw [same]) renamed).symm

/-- The selectors depend on the signatures only. -/
theorem Manifest.selectorsOf_eq (bindings : ContractBindings) :
    Manifest.selectorsOf bindings =
      sortedPairs ((bindings.functions.map FunctionBinding.signature).map fun signature =>
        (signature, Hash.prefixedHex (selectorOf signature))) := by
  rw [List.map_map]
  refine congrArg sortedPairs (List.map_congr_left fun function _ => ?_)
  rw [function.selector_eq]
  rfl

/-- The topics depend on the signatures only. -/
theorem Manifest.topicsOf_eq (bindings : ContractBindings) :
    Manifest.topicsOf bindings =
      sortedPairs ((bindings.events.map EventBinding.signature).map fun signature =>
        (signature, Hash.prefixedHex (signatureDigest signature))) := by
  rw [List.map_map]
  refine congrArg sortedPairs (List.map_congr_left fun event _ => ?_)
  rw [event.topic_eq]
  rfl

/-- In another order the entries have the same signatures. -/
theorem compile_signatures_perm {others : List Entry} {otherBindings : ContractBindings}
    (same : others.Perm entries) (compiled : (compile config entries).outcome = .ok bindings)
    (otherCompiled : (compile config others).outcome = .ok otherBindings) :
    (otherBindings.functions.map FunctionBinding.signature).Perm
        (bindings.functions.map FunctionBinding.signature) ∧
      (otherBindings.events.map EventBinding.signature).Perm
        (bindings.events.map EventBinding.signature) := by
  obtain ⟨additions, translated, functions, events⟩ := compile_grows compiled
  obtain ⟨otherAdditions, otherTranslated, otherFunctions, otherEvents⟩ :=
    compile_grows otherCompiled
  obtain ⟨_, reordered, perm⟩ := Outcome.mapM_perm same translated
  cases otherTranslated.symm.trans reordered
  rw [FunctionBinding.map_signature_eq functions, FunctionBinding.map_signature_eq otherFunctions,
    EventBinding.map_signature_eq events, EventBinding.map_signature_eq otherEvents]
  exact ⟨(perm.filterMap _).map _, (perm.filterMap _).map _⟩

/-- In another order the entries compile as well. -/
theorem exists_compile_eq_ok_of_perm {others : List Entry} (same : others.Perm entries)
    (compiled : ∃ bindings, (compile config entries).outcome = .ok bindings) :
    ∃ bindings, (compile config others).outcome = .ok bindings := by
  obtain ⟨bindings, succeeded⟩ := compiled
  obtain ⟨additions, translated, _⟩ := compile_eq_ok_iff.mp succeeded
  obtain ⟨_, reordered, _⟩ := Outcome.mapM_perm same translated
  exact ⟨_, compile_eq_ok_iff.mpr ⟨_, reordered, rfl⟩⟩

end

/-! ## 6. Whole contracts -/

/-- What is generated for an entry depends on the entry alone, except for names:
functions and events are, in order, those of the single entries under other
names. Entries that nothing is generated for change neither what is generated
nor what is reported. In another order the entries compile as well, to modules
with the same selectors and topics. -/
theorem compile_translates_independently (config : Config) (entries : List Entry) :
    (∀ bindings, (compile config entries).outcome = .ok bindings →
      config.Generates entries bindings) ∧
    (∀ others, others.filter config.translates = entries.filter config.translates →
      (compile config others).outcome = (compile config entries).outcome ∧
      (compile config others).warnings = (compile config entries).warnings) ∧
    ∀ others, others.Perm entries →
      ((∃ bindings, (compile config others).outcome = .ok bindings) ↔
        ∃ bindings, (compile config entries).outcome = .ok bindings) ∧
      ∀ bindings otherBindings abi otherAbi,
        (compile config entries).outcome = .ok bindings →
        (compile config others).outcome = .ok otherBindings →
        (Manifest.ofBindings otherBindings otherAbi).functionSelectors =
            (Manifest.ofBindings bindings abi).functionSelectors ∧
          (Manifest.ofBindings otherBindings otherAbi).eventTopics =
            (Manifest.ofBindings bindings abi).eventTopics := by
  refine ⟨fun bindings => generates_of_compile, fun others same => ?_, fun others same => ⟨?_, ?_⟩⟩
  · obtain ⟨outcomes, warnings⟩ := compile_filter config entries
    obtain ⟨otherOutcomes, otherWarnings⟩ := compile_filter config others
    rw [← outcomes, ← warnings, ← otherOutcomes, ← otherWarnings, same]
    exact ⟨rfl, rfl⟩
  · exact ⟨exists_compile_eq_ok_of_perm same.symm, exists_compile_eq_ok_of_perm same⟩
  · intro bindings otherBindings abi otherAbi compiled otherCompiled
    obtain ⟨functions, events⟩ := compile_signatures_perm same compiled otherCompiled
    simp only [Manifest.ofBindings, Manifest.selectorsOf_eq, Manifest.topicsOf_eq]
    exact ⟨sortedPairs_perm functions _, sortedPairs_perm events _⟩

/-- Two functions of one name, an event and a constructor: without the
constructor all is as before, and backwards the functions exchange their names. -/
theorem compile_translates_independently_backwards :
    ∃ entries bindings otherBindings,
      entries =
        [⟨.function, "a", [], [], .view⟩, ⟨.function, "a", [⟨"", "bool", false⟩], [], .normal⟩,
          ⟨.event, "A", [], [], .normal⟩, ⟨.constructor, "", [], [], .normal⟩] ∧
      (compile Config.default entries).outcome = .ok bindings ∧
      Config.default.Generates entries bindings ∧
      (compile Config.default entries.dropLast).outcome = .ok bindings ∧
      (compile Config.default entries.reverse).outcome = .ok otherBindings ∧
      bindings.functions.map (fun function => (function.methodName, function.inputs.length)) =
        [("a", 0), ("a_1", 1)] ∧
      otherBindings.functions.map (fun function => (function.methodName, function.inputs.length)) =
        [("a", 1), ("a_1", 0)] ∧
      (Manifest.ofBindings otherBindings "").functionSelectors =
        (Manifest.ofBindings bindings "").functionSelectors := by
  obtain ⟨generated, deleted, reordered⟩ := compile_translates_independently Config.default
    [⟨.function, "a", [], [], .view⟩, ⟨.function, "a", [⟨"", "bool", false⟩], [], .normal⟩,
      ⟨.event, "A", [], [], .normal⟩, ⟨.constructor, "", [], [], .normal⟩]
  have made :
      (compile Config.default
        [⟨.function, "a", [], [], .view⟩, ⟨.function, "a", [⟨"", "bool", false⟩], [], .normal⟩,
          ⟨.event, "A", [], [], .normal⟩,
          ⟨.constructor, "", [], [], .normal⟩]).outcome.toOption.map (fun bindings =>
            bindings.functions.map fun function => (function.methodName, function.inputs.length)) =
        some [("a", 0), ("a_1", 1)] := by
    decide +kernel
  have otherMade :
      (compile Config.default
        [⟨.constructor, "", [], [], .normal⟩, ⟨.event, "A", [], [], .normal⟩,
          ⟨.function, "a", [⟨"", "bool", false⟩], [], .normal⟩,
          ⟨.function, "a", [], [], .view⟩]).outcome.toOption.map (fun bindings =>
            bindings.functions.map fun function => (function.methodName, function.inputs.length)) =
        some [("a", 1), ("a_1", 0)] := by
    decide +kernel
  obtain ⟨bindings, found, names⟩ := Option.map_eq_some_iff.mp made
  obtain ⟨otherBindings, otherFound, otherNames⟩ := Option.map_eq_some_iff.mp otherMade
  have compiled := Outcome.toOption_eq_some_iff.mp found
  have otherCompiled := Outcome.toOption_eq_some_iff.mp otherFound
  obtain ⟨_, manifests⟩ := reordered _ (List.reverse_perm _)
  obtain ⟨selectors, _⟩ := manifests bindings otherBindings "" "" compiled otherCompiled
  exact ⟨_, bindings, otherBindings, rfl, compiled, generated bindings compiled,
    (deleted (List.dropLast _) rfl).1.trans compiled, otherCompiled, names, otherNames, selectors⟩

end ContractBinder
