import ContractBinder.Proofs.Render.Places

/-!
# Native and wire mode

The invariant of a rendering is the list of the places that its mode decides, in the order
in which they stand in the code. It is read off the bindings, so it is the same in both
modes, and everything between the places is the same as well.

Results:

1. `Renderer.differAt_exposedType`: what callers see is a projection in native mode.
2. `Renderer.inStep_renderFunction`, `Renderer.inStep_renderEventItems`,
   `Renderer.inStep_renderEventMethods`: the places of a method, and of an event.
3. `modes_render_one_contract`: a whole module differs in the places of its bindings.
-/

namespace ContractBinder

open Abi (Entry NativeType WireType)
open Code (Token)

/-! ## 1. Types and arguments -/

namespace Renderer

theorem runtime_exposing (r : Renderer) (nativeTypes : Bool) :
    (r.exposing nativeTypes).runtime = r.runtime :=
  rfl

theorem wireType_exposing (r : Renderer) (nativeTypes : Bool) (wire : WireType) :
    (r.exposing nativeTypes).wireType wire = r.wireType wire :=
  wireType_congr (runtime_exposing r nativeTypes) wire

theorem nativeType_exposing (r : Renderer) (nativeTypes : Bool) (type : NativeType) :
    (r.exposing nativeTypes).nativeType type = r.nativeType type :=
  nativeType_congr (runtime_exposing r nativeTypes) type

theorem typeReference_exposing (r : Renderer) (nativeTypes : Bool) (wire : WireType)
    (indexed : Bool) :
    (r.exposing nativeTypes).typeReference wire indexed = r.typeReference wire indexed :=
  typeReference_congr (runtime_exposing r nativeTypes) wire indexed

theorem differAt_exposedType (r : Renderer) (wire : WireType) :
    r.DifferAt [.type wire] ((r.exposing true).exposedType wire)
      ((r.exposing false).exposedType wire) := by
  have native : (r.exposing true).exposedType wire = r.nativeType wire.native :=
    r.nativeType_exposing true wire.native
  have wireMode : (r.exposing false).exposedType wire = r.wireType wire :=
    r.wireType_exposing false wire
  rw [native, wireMode]
  exact .type rfl

theorem differAt_argument (r : Renderer) (input : Argument) :
    r.DifferAt [.type input.wire] ((r.exposing true).callerType input.wire input.native)
      ((r.exposing false).callerType input.wire input.native) := by
  rw [callerType_argument, callerType_argument]
  exact r.differAt_exposedType input.wire

theorem differAt_output (r : Renderer) (output : Output) :
    r.DifferAt [.type output.wire] ((r.exposing true).callerType output.wire output.native)
      ((r.exposing false).callerType output.wire output.native) := by
  rw [callerType_output, callerType_output]
  exact r.differAt_exposedType output.wire

theorem differAt_field (r : Renderer) (field : EventField) :
    r.DifferAt [.type (loggedWire field.wire field.indexed)]
      ((r.exposing true).fieldType field.wire field.indexed field.native)
      ((r.exposing false).fieldType field.wire field.indexed field.native) := by
  rw [fieldType_field, fieldType_field]
  exact r.differAt_exposedType _

theorem differAt_wireValue (r : Renderer) (wire : WireType) (name : String) :
    r.DifferAt [.argument wire name] ((r.exposing true).wireValue wire name)
      ((r.exposing false).wireValue wire name) :=
  .argument (converts_iff.mpr rfl)

end Renderer

/-! ## 2. Functions -/

namespace FunctionBinding

/-- The types that callers of a method see of its outputs. -/
def exposedOutputs (function : FunctionBinding) : List Exposure :=
  match function.shape with
  | .constantSingle | .constantTuple _ =>
    function.outputs.map fun output => Exposure.type output.wire
  | .transaction | .transactionPayable | .constantVoid | .constantRawCollection => []

/-- The places of a method: the types of its inputs, the types that it returns, the
arguments that it encodes, and the types that it reads of a result, which are those that
it returns. A method that reads nothing has inputs only. -/
def exposures (function : FunctionBinding) : List Exposure :=
  (function.inputs.map fun input => Exposure.type input.wire) ++
    if function.shape = .constantVoid then []
    else
      function.exposedOutputs ++
        (function.inputs.map fun input => Exposure.argument input.wire input.name) ++
        function.exposedOutputs

end FunctionBinding

namespace Renderer

variable (r : Renderer) (function : FunctionBinding)

theorem differEach_parameters :
    r.DifferEach (function.inputs.map fun input => Exposure.type input.wire)
      ((r.exposing true).parameters function) ((r.exposing false).parameters function) := by
  have inputs := DifferEach.map function.inputs fun input =>
    (r.differAt_argument input).typed input.name
  have both := inputs.append (.same (function.valueParam.toList.map fun name =>
    Code.typed name (r.item ["BigInt"])))
  rwa [List.append_nil, ← List.map_eq_flatMap] at both

theorem differEach_encodedInputs :
    r.DifferEach (function.inputs.map fun input => Exposure.argument input.wire input.name)
      ((r.exposing true).encodedInputs function) ((r.exposing false).encodedInputs function) := by
  rw [List.map_eq_flatMap]
  exact DifferEach.map _ fun input =>
    (DifferEach.single (r.differAt_wireValue input.wire input.name)).call _

theorem outputReferences_exposing (nativeTypes : Bool) :
    (r.exposing nativeTypes).outputReferences function = r.outputReferences function :=
  List.map_congr_left fun output _ => r.typeReference_exposing nativeTypes output.wire false

theorem differAt_functionValue :
    r.DifferAt (function.inputs.map fun input => Exposure.argument input.wire input.name)
      ((r.exposing true).functionValue function) ((r.exposing false).functionValue function) := by
  have inputs := (r.differEach_encodedInputs function).commaSeparated.around
    (Code.word "vec" ++ [Code.mark '!', .opening .bracket]) [.closing .bracket]
  have parts := (DifferEach.same [Code.word function.constantName]).append
    ((DifferEach.single inputs).append
      (.same [Code.listOf (r.outputReferences function)]))
  have value := parts.call (r.abiItem ["Function", "new"])
  rw [List.nil_append, List.append_nil] at value
  unfold functionValue
  rw [outputReferences_exposing, outputReferences_exposing]
  exact value

/-- A method that calls its function, given the places of its call. -/
theorem differAt_methodTokens {outputs : List Exposure}
    {returned otherReturned call otherCall : List Token}
    (returns : r.DifferAt outputs returned otherReturned)
    (calls : r.DifferAt outputs call otherCall) :
    r.DifferAt
      ((function.inputs.map fun input => Exposure.type input.wire) ++
        (outputs ++
          (function.inputs.map fun input => Exposure.argument input.wire input.name) ++ outputs))
      ((r.exposing true).methodTokens function (some (returned, call)))
      ((r.exposing false).methodTokens function (some (otherReturned, otherCall))) := by
  have receiving := (r.differEach_parameters function).commaSeparated.behind Code.receiver
  have returning := (DifferEach.single returns).applied (r.item ["RemoteCall"])
  have binding := (r.differAt_functionValue function).around
    (Code.word "let" ++ functionLocal ++ [Code.mark '=']) [Code.mark ';']
  have doing := (binding.append calls)
  have method := (receiving.methodOf returning doing function.methodName).behind
    (r.doc function.docText)
  rw [List.append_assoc, ← List.append_assoc outputs] at method
  exact method

/-- A tuple of values, each of which is read as the type that callers see. -/
theorem differAt_tupleValues {places : List Exposure} {natives wires : List (List Token)}
    (each : r.DifferEach places natives wires) :
    r.DifferAt places (tupleOf (tupleValues natives)) (tupleOf (tupleValues wires)) := by
  have values : r.DifferEach places (tupleValues natives) (tupleValues wires) :=
    each.mapIdx fun _ _ _ _ differ =>
      (((DifferEach.single differ).applied _).before _).before [Code.mark '?']
  exact values.commaSeparated.enclosed .paren

theorem inStep_renderFunction :
    r.InStep function.exposures ((r.exposing true).renderFunction function)
      ((r.exposing false).renderFunction function) := by
  have types : r.DifferEach (function.outputs.map fun output => Exposure.type output.wire)
      (function.outputs.map fun output =>
        (r.exposing true).callerType output.wire output.native)
      (function.outputs.map fun output =>
        (r.exposing false).callerType output.wire output.native) := by
    rw [List.map_eq_flatMap]
    exact .map _ r.differAt_output
  have unexposed (returned call : List Token) :=
    r.differAt_methodTokens function (.same returned) (.same call)
  unfold renderFunction FunctionBinding.exposures FunctionBinding.exposedOutputs
  cases requireIdentifiers function.identifiers with
  | error fault => exact .failed fault
  | ok _ =>
    cases shape : function.shape with
    | transaction =>
      simp only [remoteCall, shape]
      exact .rendered (unexposed _ _)
    | transactionPayable =>
      simp only [remoteCall, shape]
      exact .rendered (unexposed _ _)
    | constantRawCollection =>
      simp only [remoteCall, shape]
      exact .rendered (unexposed _ _)
    | constantVoid =>
      simp only [remoteCall, shape]
      have receiving := (r.differEach_parameters function).commaSeparated.behind Code.receiver
      have method := receiving.methodOf (.same (resultOf (tupleOf []) (r.item ["ContractError"])))
        (.same (errOf (r.item ["ContractError", "NoReturnValue"] ++
          Code.block (Code.typed "function" (Code.word function.constantName)))))
        function.methodName
      rw [List.append_nil] at method
      exact .rendered ((method.behind _).behind _)
    | constantSingle =>
      simp only [remoteCall, shape, FunctionBinding.singleOutput]
      cases outputs : function.outputs with
      | nil => exact .failed _
      | cons output more =>
        cases more with
        | cons _ _ => exact .failed _
        | nil =>
          have exposed := r.differAt_output output
          have types := (DifferEach.same [r.wireType output.wire]).append (.single exposed)
          have call := ((types.applied
            (Code.word "execute_remote_call_single_value_return" ++ Code.pathSep)).behind
              (Code.dot (Code.word "self") "contract" ++ [Code.mark '.'])).before
              (Code.enclose .paren (Code.commaSeparated [functionLocal]))
          have method := r.differAt_methodTokens function exposed call
          simp only [contractCall, wireType_exposing]
          exact .rendered method
    | constantTuple count =>
      simp only [remoteCall, shape]
      refine .rendered (r.differAt_methodTokens function ?_ ?_)
      · exact types.commaSeparated.enclosed .paren
      · have results := ((DifferEach.single (r.differAt_tupleValues types)).call
          (Code.absolute ["core", "result", "Result", "Ok"])).closure (Code.word "results")
        have arguments := (DifferEach.same [functionLocal]).append (.single results)
        exact arguments.call _

end Renderer

/-! ## 3. Events -/

/-- The types that callers see of an event: those of the fields of its records. -/
def EventBinding.exposures (event : EventBinding) : List Exposure :=
  event.responseFields.map fun (field, _) =>
    Exposure.type (Renderer.loggedWire field.wire field.indexed)

namespace Renderer

variable (r : Renderer) (event : EventBinding)

theorem differEach_recordFields :
    r.DifferEach event.exposures ((r.exposing true).recordFields event)
      ((r.exposing false).recordFields event) := by
  unfold EventBinding.exposures recordFields
  rw [List.map_eq_flatMap]
  exact .map _ fun (field, _) =>
    ((r.differAt_field field).typed field.name).behind (Code.word "pub")

theorem differEach_recordValues :
    r.DifferEach event.exposures ((r.exposing true).recordValues event)
      ((r.exposing false).recordValues event) := by
  unfold EventBinding.exposures recordValues
  rw [List.map_eq_flatMap]
  refine .map _ fun (field, source) => DifferAt.typed ?_ field.name
  have type := DifferEach.single (r.differAt_field field)
  cases source with
  | indexed position => exact ((type.applied _).before _).before [Code.mark '?']
  | plain position => exact ((type.applied _).before _).before [Code.mark '?']

theorem fieldReferences_exposing (nativeTypes : Bool) :
    (r.exposing nativeTypes).fieldReferences event = r.fieldReferences event :=
  List.map_congr_left fun field _ => r.typeReference_exposing nativeTypes field.wire field.indexed

theorem differAt_eventItems :
    r.DifferAt event.exposures ((r.exposing true).eventItems event)
      ((r.exposing false).eventItems event) := by
  have descriptor (nativeTypes : Bool) :
      (r.exposing nativeTypes).descriptorItem event = r.descriptorItem event := by
    unfold descriptorItem
    rw [fieldReferences_exposing]
    rfl
  have fields := (DifferEach.same [Code.word "pub" ++ Code.typed logField (r.item ["Log"])]).append
    (r.differEach_recordFields event)
  have record := fields.commaTerminated.enclosed .brace
  unfold eventItems
  rw [descriptor, descriptor]
  exact (record.behind _).behind _

theorem differAt_extractMethod :
    r.DifferAt event.exposures ((r.exposing true).extractMethod event)
      ((r.exposing false).extractMethod event) := by
  let log := Code.call (Code.dot (Code.call (Code.dot (Code.word "event_values") "log") [])
    "clone") []
  have fields := (DifferEach.same [Code.typed logField log]).append
    (r.differEach_recordValues event)
  have record := (fields.commaTerminated.enclosed .brace).behind (Code.word event.names.response)
  have pushed := (DifferEach.single record).call (Code.dot (Code.word "responses") "push")
  have loop := (pushed.before [Code.mark ';']).enclosed .brace
  exact (DifferAt.methodOf (.same _) (.same _)
    (loop.around _ (okOf (Code.word "responses"))) _).behind _

theorem differAt_streamMethod :
    r.DifferAt event.exposures ((r.exposing true).streamMethod event)
      ((r.exposing false).streamMethod event) := by
  have fields := (r.differEach_recordValues event).append (.same [Code.word logField])
  rw [List.append_nil] at fields
  have record := (fields.commaTerminated.enclosed .brace).behind (Code.word event.names.response)
  have returned := (DifferEach.single record).call
    (Code.absolute ["core", "result", "Result", "Ok"])
  have decoding := returned.behind (Code.binding (Code.word "event_values")
    (withDescriptor event (r.item ["Contract", "extract_event_parameters_from_log"])
      (Code.referenceTo (Code.word logField))))
  have arguments := (DifferEach.same [Code.word "filter"]).append
    (.single (decoding.closure (Code.typed logField (r.item ["Log"]))))
  exact (DifferAt.methodOf (.same _) (.same _) (arguments.call _) _).behind _

theorem differAt_eventMethods :
    r.DifferAt (event.exposures ++ event.exposures) ((r.exposing true).eventMethods event)
      ((r.exposing false).eventMethods event) :=
  ((r.differAt_extractMethod event).append (r.differAt_streamMethod event)).before _

theorem inStep_renderEventItems :
    r.InStep event.exposures ((r.exposing true).renderEventItems event)
      ((r.exposing false).renderEventItems event) := by
  unfold renderEventItems
  cases requireIdentifiers event.itemIdentifiers with
  | error fault => exact .failed fault
  | ok _ => exact .rendered (r.differAt_eventItems event)

theorem inStep_renderEventMethods :
    r.InStep (event.exposures ++ event.exposures) ((r.exposing true).renderEventMethods event)
      ((r.exposing false).renderEventMethods event) := by
  unfold renderEventMethods
  cases requireIdentifiers event.methodIdentifiers with
  | error fault => exact .failed fault
  | ok _ => exact .rendered (r.differAt_eventMethods event)

end Renderer

/-! ## 4. Modules -/

/-- The places of a module: those of the items of its events, of its functions, and of the
methods of its events. -/
def ContractBindings.exposures (bindings : ContractBindings) : List Exposure :=
  bindings.events.flatMap EventBinding.exposures ++
    bindings.functions.flatMap FunctionBinding.exposures ++
    bindings.events.flatMap fun event => event.exposures ++ event.exposures

theorem Renderer.inStep_render (r : Renderer) (bindings : ContractBindings) :
    r.InStep bindings.exposures ((r.exposing true).render bindings)
      ((r.exposing false).render bindings) := by
  unfold Renderer.render
  cases requireIdentifiers
    (bindings.contractName :: bindings.nameConstants.map NameConstant.name) with
  | error fault => exact .failed fault
  | ok _ =>
    refine .afterEach _ r.inStep_renderFunction fun _ _ functions => ?_
    refine .afterEach _ r.inStep_renderEventItems fun _ _ items => ?_
    refine .afterEach _ r.inStep_renderEventMethods fun _ _ methods => ?_
    have beforeMethods := (items.flatten.behind
      (bindings.nameConstants.flatMap NameConstant.tokens)).before
        (r.contractItem bindings.contractName)
    have inMethods := (functions.flatten.behind r.commonMethods).append methods.flatten
    have whole := beforeMethods.append ((inMethods.enclosed .brace).behind
      (Code.attributeOf (Code.call (Code.word "allow")
          [Code.word "non_snake_case", Code.pathOf false ["clippy", "too_many_arguments"]]) ++
        Code.word "impl" ++ Code.word bindings.contractName))
    rw [← List.append_assoc] at whole
    exact .rendered whole

theorem EventBinding.Keeps.renamed {entry : Entry} {event named : EventBinding}
    (keeps : event.Keeps entry) (renamed : event.Renamed named) : named.Keeps entry := by
  rw [renamed]
  exact ⟨keeps.name, keeps.types, keeps.indexed, keeps.distinct⟩

/-- Native mode and wire mode describe the same contract. The methods and records have the
declared types, and are rendered in both modes, or in neither with the same fault. What is
rendered for a function, for an event, and for the whole module differs in the places of
these only: where wire mode exposes a wire type, which is the declared one, or that of a
digest for an indexed field of a dynamic type, native mode exposes its projection, and
wraps arguments. -/
theorem modes_render_one_contract {config : Config} {entries : List Entry}
    {bindings : ContractBindings} (compiled : (compile config entries).outcome = .ok bindings)
    (r : Renderer) :
    List.Forall₂ (fun entry function => function.Keeps entry ∧
        r.InStep function.exposures ((r.exposing true).renderFunction function)
          ((r.exposing false).renderFunction function))
      (entries.filter fun entry => entry.kind = .function) bindings.functions ∧
    List.Forall₂ (fun entry event => event.Keeps entry ∧
        r.InStep event.exposures ((r.exposing true).renderEventItems event)
          ((r.exposing false).renderEventItems event) ∧
        r.InStep (event.exposures ++ event.exposures)
          ((r.exposing true).renderEventMethods event)
          ((r.exposing false).renderEventMethods event))
      (if config.generateEvents then entries.filter fun entry => entry.kind = .event else [])
      bindings.events ∧
    r.InStep bindings.exposures ((r.exposing true).render bindings)
      ((r.exposing false).render bindings) := by
  have generates := generates_of_compile compiled
  refine ⟨generates.functions.imp ?_, generates.events.imp ?_, r.inStep_render bindings⟩
  · rintro entry function ⟨plain, made, renamed⟩
    exact ⟨(FunctionBinding.keeps_of_synthesize made).renamed renamed,
      r.inStep_renderFunction function⟩
  · rintro entry event ⟨plain, made, renamed⟩
    exact ⟨(EventBinding.keeps_of_synthesize made).renamed renamed,
      r.inStep_renderEventItems event, r.inStep_renderEventMethods event⟩

/-- A long array is wrapped together with its length, and a text that is indexed is known by
its digest in both modes. -/
theorem modes_render_one_contract_digest :
    ∃ (r : Renderer) (bindings : ContractBindings) (native wire : List Token),
      r = ⟨⟨false, [⟨"runtime", []⟩]⟩, false, true⟩ ∧
      (compile { Config.default with contractName := "C" }
        [⟨.function, "f", [⟨"a", "uint8[33]", false⟩], [⟨"", "bool", false⟩], .view⟩,
          ⟨.event, "E", [⟨"s", "string", true⟩], [], .normal⟩]).outcome = .ok bindings ∧
      (r.exposing true).render bindings = .ok native ∧
      (r.exposing false).render bindings = .ok wire ∧
      r.DifferAt
        [.type (.primitive (.fixedBytes 32)), .type (.fixedArray (.primitive (.uint 8)) 33),
          .type (.primitive .bool), .argument (.fixedArray (.primitive (.uint 8)) 33) "a",
          .type (.primitive .bool), .type (.primitive (.fixedBytes 32)),
          .type (.primitive (.fixedBytes 32))] native wire := by
  let r : Renderer := ⟨⟨false, [⟨"runtime", []⟩]⟩, false, true⟩
  have made :
      (compile { Config.default with contractName := "C" }
        [⟨.function, "f", [⟨"a", "uint8[33]", false⟩], [⟨"", "bool", false⟩], .view⟩,
          ⟨.event, "E", [⟨"s", "string", true⟩], [], .normal⟩]).outcome.toOption.map
          (fun bindings =>
            (bindings.exposures, ((r.exposing true).render bindings).toOption.isSome)) =
        some ([.type (.primitive (.fixedBytes 32)), .type (.fixedArray (.primitive (.uint 8)) 33),
          .type (.primitive .bool), .argument (.fixedArray (.primitive (.uint 8)) 33) "a",
          .type (.primitive .bool), .type (.primitive (.fixedBytes 32)),
          .type (.primitive (.fixedBytes 32))], true) := by
    decide +kernel
  obtain ⟨bindings, found, seen⟩ := Option.map_eq_some_iff.mp made
  obtain ⟨places, isRendered⟩ := Prod.mk.inj seen
  obtain ⟨native, rendered⟩ := Option.isSome_iff_exists.mp isRendered
  have compiled := Outcome.toOption_eq_some_iff.mp found
  have inNative := Outcome.toOption_eq_some_iff.mp rendered
  obtain ⟨_, _, inStep⟩ := modes_render_one_contract compiled r
  rw [inNative, places] at inStep
  generalize inWire : (r.exposing false).render bindings = outcome at inStep
  cases inStep with
  | rendered differ => exact ⟨r, bindings, native, _, rfl, compiled, inNative, inWire, differ⟩

end ContractBinder
