import ContractBinder.Proofs.Render.Accepting.Functions

/-!
# Rendered events are read as they are rendered

If the path of the runtime library fits everywhere, what is rendered for an event is read as items
of a module and as members of an implementation.

Results:

1. `Renderer.areParts_eventItems`: the descriptor, the topic and the response record are items.
2. `Renderer.areParts_eventMethods`: the three methods that decode logs are members.
-/

namespace ContractBinder

open Code
open Code.Grammar (implementationMember)

namespace Renderer

variable {r : Renderer} {absolute : Bool} {around : List String} {event : EventBinding}
  {function argument type : List Token}

/-! ## 1. Fields -/

/-- No name that is rendered for an event is reserved. -/
def FreeNames (event : EventBinding) : Prop :=
  ∀ name ∈ event.methodIdentifiers, isReserved name = false

theorem FreeNames.items (free : FreeNames event) : ∀ name ∈ event.itemIdentifiers,
    isReserved name = false :=
  fun name listed => free name (by simp [EventBinding.methodIdentifiers, listed])

theorem FreeNames.constant (free : FreeNames event) : isReserved event.names.constant = false :=
  free.items event.names.constant List.mem_cons_self

theorem FreeNames.response (free : FreeNames event) : isReserved event.names.response = false :=
  free.items event.names.response (by simp [EventBinding.itemIdentifiers])

theorem FreeNames.field (free : FreeNames event) {field : EventField} {source : ValueSource}
    (listed : (field, source) ∈ event.responseFields) : isReserved field.name = false := by
  have declared := event.responseFields_perm.mem_iff.mp (List.mem_map_of_mem (f := Prod.fst) listed)
  refine free.items _ ?_
  simp only [EventBinding.itemIdentifiers, List.mem_cons]
  exact .inr (.inr (.inr (List.mem_map_of_mem declared)))

theorem isExpression_readValue (source : ValueSource) (isType : IsType type) :
    IsExpression (readValue source type) := by
  have reading (accessor : String) (free : isReserved accessor = false) (position : Nat) :
      IsExpression (attempted (call (instantiated (dot (word "event_values") accessor) [type])
        [numberOf position])) :=
    ((isValue_name _ (by decide)).callWith free (List.forall_mem_singleton.mpr isType)
      (List.forall_mem_singleton.mpr (isValue_number position).isExpression)).attempted.isExpression
  cases source with
  | indexed position => exact reading "indexed_value" (by decide) position
  | plain position => exact reading "non_indexed_value" (by decide) position

/-- A call that gets a reference to the descriptor. -/
theorem isExpression_withDescriptor (free : FreeNames event) (isValue : IsValue function)
    (isExpression : IsExpression argument) :
    IsExpression (withDescriptor event function argument) :=
  (isValue.call (List.forall_mem_cons.mpr ⟨isExpression_reference free.constant,
    List.forall_mem_singleton.mpr isExpression⟩)).attempted.isExpression

section

variable (path : r.HasPath absolute around) (free : FreeNames event)

include path free

theorem isFieldItem_recordFields : ∀ item ∈ r.recordFields event, IsFieldItem item :=
  List.forall_mem_map.mpr fun (_, _) listed =>
    isFieldItem_public _ (free.field listed) (isType_fieldType path _ _ _)

theorem isField_recordValues : ∀ item ∈ r.recordValues event, IsField item :=
  List.forall_mem_map.mpr fun (_, source) listed => isField_typed _ (free.field listed)
    (isExpression_readValue source (isType_fieldType path _ _ _))

end

/-! ## 2. Items -/

theorem isAttribute_recordAttribute : IsAttribute recordAttribute := by
  have composed : ∀ item ∈ [word "Debug", word "Clone"], Composed [] false item :=
    .pair (.word _) (.word _)
  exact isAttribute_allowing (by decide) ((Composed.commaSeparated composed).matched .nil) rfl

section

variable (path : r.HasPath absolute around) (free : FreeNames event)

include path free

theorem areParts_descriptorItem : AreParts Grammar.item (r.descriptorItem event) := by
  have held := isType_absolute ["std", "sync"] "LazyLock" (by decide)
    (List.forall_mem_singleton.mpr (isType_item path ["abi", "Event"] (by decide)))
  have described := isStatements_itemCall path ["abi", "Event", "new"] (by decide)
    (List.forall_mem_cons.mpr ⟨(isValue_text event.name).isExpression,
      List.forall_mem_singleton.mpr (isValue_fieldReferences path event).isExpression⟩)
  have made := (isValue_absolute (by decide : Known ["std", "sync", "LazyLock", "new"])).call
    (List.forall_mem_singleton.mpr (isExpression_thunk described))
  exact areParts_documented path (fun r => r.descriptorItem event)
    (isItem_staticValue free.constant held made.isExpression) (composes_descriptorItem event)
    ⟨_, fun _ => by
      simp only [descriptorItem, fieldReferences_documenting, abiItem_documenting,
        List.append_assoc]
      rfl⟩

theorem areParts_topicItem : AreParts Grammar.item (r.topicItem event) := by
  have named := free.items event.names.topicConstant (by simp [EventBinding.itemIdentifiers])
  have digest := (isValue_text (Hash.prefixedHex event.topic)).isExpression
  exact areParts_documented path (fun r => r.topicItem event)
    (isItem_constant named isType_str digest) (composes_topicItem event) ⟨_, fun _ => by
      simp only [topicItem, List.append_assoc]
      rfl⟩

theorem areParts_responseItem : AreParts Grammar.item (r.responseItem event) := by
  have log := isFieldItem_public logField (by decide)
    (isType_item path ["Log"] (by decide))
  have record := isItem_record free.response
    (List.forall_mem_cons.mpr ⟨log, isFieldItem_recordFields path free⟩)
  exact areParts_documented path (fun r => r.responseItem event)
    (record.cons isAttribute_recordAttribute) (composes_responseItem event) ⟨_, fun _ => by
      simp only [responseItem, recordFields_documenting, item_documenting, List.append_assoc]
      rfl⟩

theorem areParts_eventItems : AreParts Grammar.item (r.eventItems event) :=
  ((areParts_descriptorItem path free).append (areParts_topicItem path free)).append
    (areParts_responseItem path free)

/-! ## 3. Methods -/

omit path in
/-- The record of a log, from the values in it. -/
theorem isExpression_response {items : List (List Token)} (each : ∀ item ∈ items, IsField item) :
    IsExpression (word event.names.response ++ block (commaTerminated items)) :=
  (isValue_record (isPath_name free.response) (List.cons_ne_nil _ _) each (.inr rfl)).isExpression

theorem areParts_extractMethod : AreParts implementationMember (r.extractMethod event) := by
  have receipt := isTyped "transaction_receipt" (by decide)
    (isType_reference (isType_item path ["TransactionReceipt"] (by decide)))
  have returns := isType_resultOf (isType_vecOf (isType_name free.response))
    (isType_item path ["ContractError"] (by decide))
  have decoded := isExpression_withDescriptor free
    (isValue_contract.dot "extract_event_parameters_with_log" (by decide))
    (isExpression_name "transaction_receipt" (by decide))
  have length := isValue_methodCall (isValue_name "value_list" (by decide)) "len" (by decide)
  have made := (isValue_absolute (by decide : Known ["std", "vec", "Vec", "with_capacity"])).call
    (List.forall_mem_singleton.mpr length.isExpression)
  have log := isValue_methodCall (isValue_methodCall (isValue_name "event_values" (by decide))
    "log" (by decide)) "clone" (by decide)
  have fields := List.forall_mem_cons.mpr
    ⟨isField_typed logField (by decide) log.isExpression, isField_recordValues path free⟩
  have pushed := isStatement_methodCall "responses" (by decide) "push" (by decide)
    (List.forall_mem_singleton.mpr (isExpression_response free fields))
  have repeated := isStatement_forEach "event_values" "value_list" (by decide) (by decide)
    (.single pushed)
  -- The loop needs no semicolon, as a call comes behind it.
  have later := IsStatements.cons repeated Bool.noConfusion
    (isStatements_okOf (isExpression_name "responses" (by decide))) fun _ _ => ⟨rfl, rfl, rfl⟩
  have body := IsStatements.followed (isStatement_local "value_list" (by decide) decoded)
    (.followed (isStatement_mutable "responses" (by decide) made.isExpression) later)
  have method := isMember_function (free event.names.extractMethod List.mem_cons_self)
    (areParameters_receiver (isParameters_commaTerminated (List.forall_mem_singleton.mpr receipt)))
    returns body
  exact areParts_documented path (fun r => r.extractMethod event) method
    (composes_extractMethod event) ⟨_, fun _ => by
      simp only [extractMethod, recordValues_documenting, item_documenting, forEach,
        List.append_assoc]
      rfl⟩

theorem areParts_streamMethod : AreParts implementationMember (r.streamMethod event) := by
  have filter := IsParameters.last (by decide : isReserved "filter" = false)
    (isType_item path ["EthFilter"] (by decide))
  have returns := isType_appliedItem path [] "EventStream" (by decide)
    (List.forall_mem_singleton.mpr (isType_name free.response))
  have decoded := isExpression_withDescriptor free
    (isValue_item path ["Contract", "extract_event_parameters_from_log"] (by decide))
    (isExpression_reference (by decide : isReserved logField = false))
  have fields := List.forall_mem_append.mpr ⟨isField_recordValues path free,
    List.forall_mem_singleton.mpr (isField_name logField (by decide))⟩
  have reading := isExpression_closure
    (isParameter_typed logField (by decide) (isType_item path ["Log"] (by decide)))
    (.followed (isStatement_local "event_values" (by decide) decoded)
      (isStatements_okOf (isExpression_response free fields)))
  have body := isStatements_selfCall
    ((isValue_contract.dot "log_stream" (by decide)).call (List.forall_mem_cons.mpr
      ⟨isExpression_name "filter" (by decide), List.forall_mem_singleton.mpr reading⟩)) rfl
  have named := free event.names.streamMethod (by simp [EventBinding.methodIdentifiers])
  have method := isMember_function named (areParameters_receiver filter) returns body
  exact areParts_documented path (fun r => r.streamMethod event) method
    (composes_streamMethod event) ⟨_, fun _ => by
      simp only [streamMethod, recordValues_documenting, item_documenting]
      rfl⟩

theorem areParts_rangeStreamMethod :
    AreParts implementationMember (r.rangeStreamMethod event) := by
  have limit (name : String) (free : isReserved name = false) :=
    isTyped name free (isType_item path ["BlockParameter"] (by decide))
  have returns := isType_appliedItem path [] "EventStream" (by decide)
    (List.forall_mem_singleton.mpr (isType_name free.response))
  have address := isValue_methodCall isValue_contract "address" (by decide)
  have made := (isValue_item path ["EthFilter", "new"] (by decide)).call
    (List.forall_mem_cons.mpr ⟨isExpression_name "start_block" (by decide),
      List.forall_mem_cons.mpr ⟨isExpression_name "end_block" (by decide),
        List.forall_mem_singleton.mpr address.isExpression⟩⟩)
  have topic := free.items event.names.topicConstant (by simp [EventBinding.itemIdentifiers])
  have narrowed := isStatement_methodCall "filter" (by decide) "add_single_topic" (by decide)
    (List.forall_mem_singleton.mpr (isExpression_name _ topic))
  have stream := free event.names.streamMethod (by simp [EventBinding.methodIdentifiers])
  have streamed := isStatements_selfCall ((isValue_self.dot _ stream).call
    (List.forall_mem_singleton.mpr (isExpression_name "filter" (by decide)))) rfl
  have body := IsStatements.followed (isStatement_mutable "filter" (by decide) made.isExpression)
    (.followed narrowed streamed)
  have named := free event.names.rangeStreamMethod (by simp [EventBinding.methodIdentifiers])
  have method := isMember_function named (areParameters_receiver
    (isParameters_commaTerminated (List.forall_mem_cons.mpr ⟨limit "start_block" (by decide),
      List.forall_mem_singleton.mpr (limit "end_block" (by decide))⟩))) returns body
  exact areParts_documented path (fun r => r.rangeStreamMethod event) method
    (composes_rangeStreamMethod event) ⟨_, fun _ => by
      simp only [rangeStreamMethod, item_documenting, List.append_assoc]
      rfl⟩

theorem areParts_eventMethods : AreParts implementationMember (r.eventMethods event) :=
  ((areParts_extractMethod path free).append (areParts_streamMethod path free)).append
    (areParts_rangeStreamMethod path free)

end

end Renderer

end ContractBinder
