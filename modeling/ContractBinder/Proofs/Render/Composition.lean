import ContractBinder.Proofs.Code.Composition
import ContractBinder.Proofs.Outcome
import ContractBinder.Render.Module

/-!
# What rendered modules are put together from

Everything that is rendered is put together around the path of the runtime library, and holds
documentation only if the renderer documents items (`Renderer.composes_render`).
-/

namespace ContractBinder

open Abi (NativeType WireType)
open Code (Composed Token)

/-- The tokens are put together as those of the renderer are. -/
abbrev Renderer.Composes (r : Renderer) (tokens : List Token) : Prop :=
  Composed r.runtime.tokens r.emitDocs tokens

variable {r : Renderer} {tokens value type body : List Token} {items : List (List Token)}

theorem NameConstant.composes_tokens (constant : NameConstant) : r.Composes constant.tokens :=
  .append (.word _) (.statement (.append (.append (.word _)
    (.typed _ (.referenceTo (.word _)))) (.cons rfl (.textOf _))))

namespace Renderer

theorem composes_doc (text : String) : r.Composes (r.doc text) := by
  unfold doc
  split
  · rename_i documented
    exact .doc _ documented
  · exact .nil

/-! ## 1. Types and values -/

theorem composes_item (names : List String) : r.Composes (r.item names) := by
  rw [item, List.append_assoc]
  exact .runtime (.cons rfl (.pathOf false names))

theorem composes_abiItem (names : List String) : r.Composes (r.abiItem names) :=
  composes_item _

theorem composes_vecOf (composed : r.Composes type) : r.Composes (vecOf type) :=
  .applied (.absolute _) (.single composed)

theorem composes_resultOf (composed : r.Composes value) (fault : r.Composes type) :
    r.Composes (resultOf value type) :=
  .applied (.absolute _) (.pair composed fault)

theorem composes_okOf (composed : r.Composes value) : r.Composes (okOf value) :=
  .call (.absolute _) (.single composed)

theorem composes_tupleOf (each : ∀ item ∈ items, r.Composes item) : r.Composes (tupleOf items) :=
  .enclose (.commaSeparated each) .paren

theorem composes_wireType (wire : WireType) : r.Composes (r.wireType wire) := by
  induction wire with
  | primitive kind => exact composes_abiItem _
  | fixedArray element length ih => exact .applied (composes_abiItem _) (.single ih)
  | dynamicArray element ih => exact .applied (composes_abiItem _) (.single ih)

theorem composes_nativeType (native : NativeType) : r.Composes (r.nativeType native) := by
  induction native with
  | list element ih => exact composes_vecOf ih
  | text => exact .absolute _
  | bool => exact .word _
  | integer => exact composes_item _
  | bytes => exact composes_vecOf (.word _)

theorem composes_callerType (wire : WireType) (native : NativeType) :
    r.Composes (r.callerType wire native) := by
  unfold callerType
  split
  · exact composes_nativeType _
  · exact composes_wireType _

theorem composes_fieldType (wire : WireType) (indexed : Bool) (native : NativeType) :
    r.Composes (r.fieldType wire indexed native) :=
  composes_callerType (loggedWire wire indexed) native

theorem composes_wireValue (wire : WireType) (name : String) :
    r.Composes (r.wireValue wire name) := by
  have path : r.Composes (Code.mark '<' :: r.wireType wire ++ Code.mark '>' :: Code.pathSep) :=
    .append (.cons rfl (composes_wireType wire)) (.cons rfl .pathSep)
  unfold wireValue
  split
  · simp only
    split
    · exact .call (path.append (.word _)) (.pair (.numberOf _) (.word _))
    · exact .call (path.append (.word _)) (.single (.word _))
  · exact .word _

theorem composes_typeReference (wire : WireType) (indexed : Bool) :
    r.Composes (r.typeReference wire indexed) := by
  have path (name : String) :
      r.Composes (Code.instantiated (r.abiItem ["TypeReference", name]) [r.wireType wire]) :=
    .instantiated (composes_abiItem _) (.single (composes_wireType wire))
  unfold typeReference
  split
  · exact .call (path _) (.pair (.numberOf _) (.word _))
  · exact .call (path _) (.single (.word _))

/-! ## 2. Functions -/

theorem composes_parameters (function : FunctionBinding) :
    r.Composes (Code.receiver ++ Code.commaSeparated (r.parameters function)) := by
  refine .append .receiver (.commaSeparated ?_)
  unfold parameters
  rw [List.forall_mem_append, List.forall_mem_map, List.forall_mem_map]
  exact ⟨fun _ _ => .typed _ (composes_callerType _ _), fun _ _ => .typed _ (composes_item _)⟩

theorem composes_encodedInputs (function : FunctionBinding) :
    ∀ item ∈ r.encodedInputs function, r.Composes item :=
  List.forall_mem_map.mpr fun _ _ =>
    .call (composes_abiItem _) (.single (composes_wireValue _ _))

theorem composes_outputReferences (function : FunctionBinding) :
    ∀ item ∈ r.outputReferences function, r.Composes item :=
  List.forall_mem_map.mpr fun _ _ => composes_typeReference _ _

theorem composes_functionValue (function : FunctionBinding) :
    r.Composes (r.functionValue function) :=
  .call (composes_abiItem _)
    (List.forall_mem_cons.mpr ⟨.word _, .pair (.listOf (composes_encodedInputs function))
      (.listOf (composes_outputReferences function))⟩)

theorem composes_contractCall (method : r.Composes tokens)
    (each : ∀ item ∈ items, r.Composes item) : r.Composes (contractCall tokens items) :=
  .call (.append (.dot (.word _) _) (.cons rfl method)) each

theorem composes_tupleValues (each : ∀ item ∈ items, r.Composes item) :
    ∀ item ∈ tupleValues items, r.Composes item := by
  intro item member
  obtain ⟨position, inside, rfl⟩ := List.mem_mapIdx.mp member
  exact .attempted (.call (.instantiated (.dot (.word _) _)
    (.single (each _ (List.getElem_mem inside)))) (.single (.numberOf _)))

theorem composes_remoteCall {function : FunctionBinding} {returned call : List Token}
    (found : r.remoteCall function = .ok (some (returned, call))) :
    r.Composes returned ∧ r.Composes call := by
  have functionLocal : r.Composes functionLocal := .word _
  unfold remoteCall at found
  split at found
  · cases found
  · cases found
    exact ⟨composes_item _, composes_contractCall (.word _) (.single functionLocal)⟩
  · cases found
    exact ⟨composes_item _, composes_contractCall (.word _) (.pair functionLocal (.word _))⟩
  · cases found
    exact ⟨composes_vecOf (composes_item _),
      composes_contractCall (.word _) (.single functionLocal)⟩
  · obtain ⟨output, _, same⟩ := Outcome.bind_eq_ok_iff.mp found
    cases same
    have exposed := composes_callerType (r := r) output.wire output.native
    exact ⟨exposed, composes_contractCall
      (.instantiated (.word _) (.pair (composes_wireType _) exposed)) (.single functionLocal)⟩
  · cases found
    have types : ∀ item ∈ function.outputs.map fun output =>
        r.callerType output.wire output.native, r.Composes item :=
      List.forall_mem_map.mpr fun _ _ => composes_callerType _ _
    have values := composes_tupleOf (composes_tupleValues types)
    exact ⟨composes_tupleOf types, composes_contractCall (.word _)
      (.pair functionLocal (.closure (.word _) (composes_okOf values)))⟩

theorem composes_methodTokens {function : FunctionBinding}
    {remote : Option (List Token × List Token)} (found : r.remoteCall function = .ok remote) :
    r.Composes (r.methodTokens function remote) := by
  refine .append (composes_doc _) ?_
  cases remote with
  | none =>
    have fault : r.Composes (r.item ["ContractError", "NoReturnValue"] ++
        Code.block (Code.typed "function" (Code.word function.constantName))) :=
      .append (composes_item _) (.block (.typed _ (.word _)))
    exact .append (.attributeOf (by decide) (.single (.word _)))
      (.methodOf _ (composes_parameters function)
        (composes_resultOf (composes_tupleOf (List.forall_mem_nil _)) (composes_item _))
        (.call (.absolute _) (.single fault)))
  | some remote =>
    obtain ⟨returned, call⟩ := remote
    obtain ⟨composedReturned, composedCall⟩ := composes_remoteCall found
    have doing := Composed.binding (.word "function") (composes_functionValue (r := r) function)
    exact .methodOf _ (composes_parameters function)
      (.applied (composes_item _) (.single composedReturned)) (doing.append composedCall)

theorem composes_renderFunction {function : FunctionBinding}
    (rendered : r.renderFunction function = .ok tokens) : r.Composes tokens := by
  obtain ⟨_, _, rendered⟩ := Outcome.bind_eq_ok_iff.mp rendered
  obtain ⟨remote, found, same⟩ := Outcome.bind_eq_ok_iff.mp rendered
  cases same
  exact composes_methodTokens found

/-! ## 3. Events -/

section

variable (event : EventBinding)

theorem composes_recordAttribute : r.Composes recordAttribute :=
  .attributeOf (by decide) (.pair (.word _) (.word _))

theorem composes_recordFields : ∀ item ∈ r.recordFields event, r.Composes item :=
  List.forall_mem_map.mpr fun _ _ =>
    .append (.word _) (.typed _ (composes_fieldType _ _ _))

theorem composes_fieldReferences : ∀ item ∈ r.fieldReferences event, r.Composes item :=
  List.forall_mem_map.mpr fun _ _ => composes_typeReference _ _

theorem composes_recordValues : ∀ item ∈ r.recordValues event, r.Composes item := by
  refine List.forall_mem_map.mpr fun (field, source) _ => .typed _ ?_
  have reading (accessor : String) (position : Nat) : r.Composes (Code.attempted
      (Code.call (Code.instantiated (Code.dot (Code.word "event_values") accessor)
        [r.fieldType field.wire field.indexed field.native]) [Code.numberOf position])) :=
    .attempted (.call (.instantiated (.dot (.word _) _)
      (.single (composes_fieldType _ _ _))) (.single (.numberOf _)))
  cases source with
  | indexed position => exact reading _ _
  | plain position => exact reading _ _

theorem composes_record (each : ∀ item ∈ items, r.Composes item) :
    r.Composes (Code.word event.names.response ++ Code.block (Code.commaTerminated items)) :=
  .append (.word _) (.block (.commaTerminated each))

theorem composes_withDescriptor (function : r.Composes tokens) (argument : r.Composes value) :
    r.Composes (withDescriptor event tokens value) :=
  .attempted (.call function (.pair (.referenceTo (.word _)) argument))

theorem composes_descriptorItem : r.Composes (r.descriptorItem event) := by
  have references := Composed.listOf (composes_fieldReferences (r := r) event)
  have made := Composed.thunk (.call (composes_abiItem ["Event", "new"])
    (.pair (.textOf event.name) references))
  have holder := Composed.applied (.absolute ["std", "sync", "LazyLock"])
    (.single (composes_abiItem (r := r) ["Event"]))
  exact .append (.append (composes_doc _) (.word _)) (.statement (.append
    (.append (.word _) (.typed _ holder)) (.cons rfl (.call (.absolute _) (.single made)))))

theorem composes_topicItem : r.Composes (r.topicItem event) :=
  .append (.append (composes_doc _) (.word _)) (.statement (.append
    (.append (.word _) (.typed _ (.referenceTo (.word _)))) (.cons rfl (.textOf _))))

theorem composes_responseItem : r.Composes (r.responseItem event) := by
  have log : r.Composes (Code.word "pub" ++ Code.typed logField (r.item ["Log"])) :=
    .append (.word _) (.typed _ (composes_item _))
  have fields := List.forall_mem_cons.mpr ⟨log, composes_recordFields (r := r) event⟩
  exact .append (.append (.append (.append (.append (composes_doc _) composes_recordAttribute)
    (.word _)) (.word _)) (.word _)) (.block (.commaTerminated fields))

theorem composes_eventItems : r.Composes (r.eventItems event) :=
  .append (.append (composes_descriptorItem event) (composes_topicItem event))
    (composes_responseItem event)

theorem composes_extractMethod : r.Composes (r.extractMethod event) := by
  have nothing : ∀ item ∈ ([] : List (List Token)), r.Composes item := List.forall_mem_nil _
  have receipt := Composed.referenceTo (composes_item (r := r) ["TransactionReceipt"])
  have log := Composed.call (.dot (.call (.dot (.word "event_values") "log") nothing) "clone")
    nothing
  have fields := List.forall_mem_cons.mpr
    ⟨Composed.typed logField log, composes_recordValues (r := r) event⟩
  have decoded := Composed.binding (.word "value_list") (composes_withDescriptor (r := r) event
    (.dot (.dot (.word "self") "contract") "extract_event_parameters_with_log")
    (.word "transaction_receipt"))
  have responses := Composed.binding (.append (.word "mut") (.word "responses"))
    (.call (.absolute ["std", "vec", "Vec", "with_capacity"])
      (.single (.call (.dot (.word "value_list") "len") nothing)))
  have head := ((((decoded.append responses).append (.word "for")).append
    (.word "event_values")).append (.word "in")).append (.word "value_list")
  have pushed := Composed.call (.dot (.word "responses") "push")
    (.single (composes_record event fields))
  have looping := head.append (.block (.statement pushed))
  exact .append (composes_doc _) (.methodOf _
    (.append .receiver (.commaTerminated (.single (.typed "transaction_receipt" receipt))))
    (composes_resultOf (composes_vecOf (.word _)) (composes_item _))
    (looping.append (composes_okOf (.word "responses"))))

theorem composes_streamMethod : r.Composes (r.streamMethod event) := by
  have fields := List.forall_mem_append.mpr
    ⟨composes_recordValues (r := r) event, Composed.single (.word logField)⟩
  have decoded := Composed.binding (.word "event_values") (composes_withDescriptor (r := r) event
    (composes_item ["Contract", "extract_event_parameters_from_log"])
    (.referenceTo (.word logField)))
  have returned := decoded.append (composes_okOf (composes_record event fields))
  exact .append (composes_doc _) (.methodOf _
    (.append .receiver (.typed _ (composes_item _)))
    (.applied (composes_item _) (.single (.word _)))
    (.call (.dot (.dot (.word _) _) _)
      (.pair (.word _) (.closure (.typed _ (composes_item _)) returned))))

theorem composes_rangeStreamMethod : r.Composes (r.rangeStreamMethod event) := by
  have blocks := Composed.pair (.typed "start_block" (composes_item (r := r) ["BlockParameter"]))
    (.typed "end_block" (composes_item ["BlockParameter"]))
  have nothing : ∀ item ∈ ([] : List (List Token)), r.Composes item := List.forall_mem_nil _
  have filter : r.Composes (Code.word "filter") := .word _
  have address := Composed.call (.dot (.dot (.word "self") "contract") "address") nothing
  have made := Composed.binding (.append (.word "mut") filter)
    (.call (composes_item ["EthFilter", "new"])
      (List.forall_mem_cons.mpr ⟨.word "start_block", .pair (.word "end_block") address⟩))
  have narrowed := made.append (.statement (.call (filter.dot "add_single_topic")
    (.single (.word event.names.topicConstant))))
  exact .append (composes_doc _) (.methodOf _ (.append .receiver (.commaTerminated blocks))
    (.applied (composes_item _) (.single (.word _)))
    (narrowed.append (.call (.dot (.word _) _) (.single filter))))

theorem composes_eventMethods : r.Composes (r.eventMethods event) :=
  .append (.append (composes_extractMethod event) (composes_streamMethod event))
    (composes_rangeStreamMethod event)

variable {event}

theorem composes_renderEventItems (rendered : r.renderEventItems event = .ok tokens) :
    r.Composes tokens := by
  obtain ⟨_, _, same⟩ := Outcome.bind_eq_ok_iff.mp rendered
  cases same
  exact composes_eventItems event

theorem composes_renderEventMethods (rendered : r.renderEventMethods event = .ok tokens) :
    r.Composes tokens := by
  obtain ⟨_, _, same⟩ := Outcome.bind_eq_ok_iff.mp rendered
  cases same
  exact composes_eventMethods event

end

/-! ## 4. Modules -/

theorem composes_contractItem (contractName : String) : r.Composes (r.contractItem contractName) :=
  .append (.append (.append (.append (.append (composes_doc _) composes_recordAttribute)
    (.word _)) (.word _)) (.word _))
    (.block (.commaTerminated (.single (.typed _ (composes_item _)))))

theorem composes_commonMethods : r.Composes r.commonMethods :=
  .append
    (.methodOf _ (.typed _ (composes_item _)) (.word _) (.append (.word _) (.block (.word _))))
    (.methodOf _ (.referenceTo (.word _)) (.referenceTo (.word _))
      (.call (.dot (.dot (.word _) _) _) (List.forall_mem_nil _)))

theorem composes_contractMethods (contractName : String) {functions events : List Token}
    (composedFunctions : r.Composes functions) (composedEvents : r.Composes events) :
    r.Composes (r.contractMethods contractName functions events) :=
  .append (.append (.append (.attributeOf (by decide) (.pair (.word _) (.pathOf _ _))) (.word _))
    (.word _)) (.block ((composes_commonMethods.append composedFunctions).append composedEvents))

theorem composes_functions {functions : List FunctionBinding}
    (made : functions.mapM r.renderFunction = .ok items) : ∀ item ∈ items, r.Composes item :=
  Outcome.forall_mem_of_mapM made fun _ _ _ => composes_renderFunction

theorem composes_events {events : List EventBinding}
    (made : events.mapM r.renderEventMethods = .ok items) : ∀ item ∈ items, r.Composes item :=
  Outcome.forall_mem_of_mapM made fun _ _ _ => composes_renderEventMethods

/-- A rendered module is put together around the path of the runtime library. -/
theorem composes_render {bindings : ContractBindings} (rendered : r.render bindings = .ok tokens) :
    r.Composes tokens := by
  obtain ⟨_, _, rendered⟩ := Outcome.bind_eq_ok_iff.mp rendered
  obtain ⟨functions, madeFunctions, rendered⟩ := Outcome.bind_eq_ok_iff.mp rendered
  obtain ⟨eventItems, madeItems, rendered⟩ := Outcome.bind_eq_ok_iff.mp rendered
  obtain ⟨methods, madeMethods, same⟩ := Outcome.bind_eq_ok_iff.mp rendered
  cases same
  have constants : r.Composes (bindings.nameConstants.flatMap NameConstant.tokens) :=
    .flatMap fun constant _ => constant.composes_tokens
  exact .append (.append (.append constants
      (.flatten (Outcome.forall_mem_of_mapM madeItems fun _ _ _ => composes_renderEventItems)))
    (composes_contractItem _))
    (composes_contractMethods _ (.flatten (composes_functions madeFunctions))
      (.flatten (composes_events madeMethods)))

end Renderer

end ContractBinder
