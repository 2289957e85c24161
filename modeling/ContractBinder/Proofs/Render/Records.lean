import ContractBinder.Proofs.Binding.DecodedLog
import ContractBinder.Proofs.Render.Items
import ContractBinder.Proofs.Render.TypeReferences

/-!
# Response records

The fields of an event stand in four places of the rendered code: the descriptor
lists their types, the response record declares them, and two methods fill such
records from decoded logs. The last three are put together from one list of
fields, so that a field has the same name and type wherever it stands.

Results:

1. `Renderer.rendersRecord_of_render`: what stands in the four places.
2. `decoded_values_reach_their_fields`: so every value of a log is read into the
   field of its own parameter.
-/

namespace ContractBinder

open Abi (Entry Parameter)
open Code (Token)

/-! ## 1. Fields of records -/

/-- The method of a decoded log that gives a value of the group. -/
def ValueSource.accessor : ValueSource → String
  | .indexed _ => "indexed_value"
  | .plain _ => "non_indexed_value"

/-- The number of a value within its group. -/
def ValueSource.position : ValueSource → Nat
  | .indexed position => position
  | .plain position => position

/-- One field of a rendered record: its name, its type, and the place of its value. -/
structure RecordField where
  name : String
  type : List Token
  source : ValueSource

namespace RecordField

/-- The field in the declaration of its record, `pub name: type`. -/
def declaration (field : RecordField) : List Token :=
  [Token.name "pub", .name field.name, .mark ':' false] ++ field.type

/-- The field in a record literal, such as `name: event_values.indexed_value::<type>(0)?`. -/
def initialiser (field : RecordField) : List Token :=
  [Token.name field.name, .mark ':' false, .name "event_values", .mark '.' false,
      .name field.source.accessor, .mark ':' true, .mark ':' false, .mark '<' false] ++
    field.type ++
    [Token.mark '>' false, .opening .paren, .number field.source.position, .closing .paren,
      .mark '?' false]

end RecordField

/-- The tokens of `record { fields }`, with a comma behind every field. -/
def recordLiteral (record : String) (fields : List (List Token)) : List Token :=
  [Token.name record, .opening .brace] ++ fields.flatMap (· ++ [Token.mark ',' false]) ++
    [Token.closing .brace]

namespace Renderer

/-- The fields of the response record behind the log. -/
def responseRecord (r : Renderer) (event : EventBinding) : List RecordField :=
  event.responseFields.map fun (field, source) =>
    ⟨field.name, r.exposedType (loggedWire field.wire field.indexed), source⟩

/-! ## 2. Bodies that make records -/

/-- The tokens of `log: event_values.log().clone()`, which fill the record's log. -/
def logInitialiser : List Token :=
  [Token.name "log", .mark ':' false, .name "event_values", .mark '.' false, .name "log",
    .opening .paren, .closing .paren, .mark '.' false, .name "clone", .opening .paren,
    .closing .paren]

/-- A body that decodes all logs of a receipt by the event's descriptor, and makes the
record of each. -/
def extractBody (event : EventBinding) (record : List Token) : List Token :=
  [Token.name "let", .name "value_list", .mark '=' false, .name "self", .mark '.' false,
      .name "contract", .mark '.' false, .name "extract_event_parameters_with_log",
      .opening .paren, .mark '&' false, .name event.names.constant, .mark ',' false,
      .name "transaction_receipt", .closing .paren, .mark '?' false, .mark ';' false,
      .name "let", .name "mut", .name "responses", .mark '=' false] ++
    Code.absolute ["std", "vec", "Vec", "with_capacity"] ++
    [Token.opening .paren, .name "value_list", .mark '.' false, .name "len", .opening .paren,
      .closing .paren, .closing .paren, .mark ';' false,
      .name "for", .name "event_values", .name "in", .name "value_list", .opening .brace,
      .name "responses", .mark '.' false, .name "push", .opening .paren] ++ record ++
    [Token.closing .paren, .mark ';' false, .closing .brace] ++
    Code.absolute ["core", "result", "Result", "Ok"] ++
    [Token.opening .paren, .name "responses", .closing .paren]

/-- A body that decodes each log that comes by the event's descriptor, and makes the
record of it. -/
def streamBody (r : Renderer) (event : EventBinding) (record : List Token) : List Token :=
  [Token.name "self", .mark '.' false, .name "contract", .mark '.' false, .name "log_stream",
      .opening .paren, .name "filter", .mark ',' false, .mark '|' false, .name "log",
      .mark ':' false] ++ r.item ["Log"] ++
    [Token.mark '|' false, .opening .brace, .name "let", .name "event_values", .mark '=' false] ++
    r.item ["Contract", "extract_event_parameters_from_log"] ++
    [Token.opening .paren, .mark '&' false, .name event.names.constant, .mark ',' false,
      .mark '&' false, .name "log", .closing .paren, .mark '?' false, .mark ';' false] ++
    Code.absolute ["core", "result", "Result", "Ok"] ++ [Token.opening .paren] ++ record ++
    [Token.closing .paren, .closing .brace, .closing .paren]

/-- `r.RendersRecord event fields items methods`: in the items of the event, the
descriptor refers to the types of the event's fields, and the response record has the
log and the fields; in its methods, these are what the records are made of. -/
structure RendersRecord (r : Renderer) (event : EventBinding) (fields : List RecordField)
    (items methods : List Token) : Prop where
  items : ∃ doc type references topic recordDoc,
    List.Forall₂ (fun field => r.Refers field.indexed field.wire) event.fields references ∧
    items =
      [ModuleItem.static doc event.names.constant type
          (Code.absolute ["std", "sync", "LazyLock", "new"] ++
            [Token.opening .paren, .mark '|' true, .mark '|' false, .opening .brace] ++
            r.abiItem ["Event", "new"] ++
            [Token.opening .paren, .text event.name, .mark ',' false,
              .name "vec", .mark '!' false, .opening .bracket] ++
            [Token.mark ',' false].intercalate references ++
            [Token.closing .bracket, .closing .paren, .closing .brace, .closing .paren]),
        topic,
        .record recordDoc event.names.response
          (([Token.name "pub", .name "log", .mark ':' false] ++ r.item ["Log"]) ::
            fields.map RecordField.declaration)].flatMap r.itemTokens
  methods : ∃ doc parameters returns otherDoc otherParameters otherReturns, methods =
    doc ++ publicMethod event.names.extractMethod parameters returns
      (extractBody event (recordLiteral event.names.response
        (logInitialiser :: fields.map RecordField.initialiser))) ++
    (otherDoc ++ publicMethod event.names.streamMethod otherParameters otherReturns
      (r.streamBody event (recordLiteral event.names.response
        (fields.map RecordField.initialiser ++ [[Token.name "log"]])))) ++
    r.rangeStreamMethod event

variable {r : Renderer} {event : EventBinding}

theorem recordFields_eq (r : Renderer) (event : EventBinding) :
    r.recordFields event = (r.responseRecord event).map RecordField.declaration := by
  rw [recordFields, responseRecord, List.map_map]
  exact List.map_congr_left fun (field, _) _ =>
    congrArg (Code.word "pub" ++ Code.typed field.name ·) (r.fieldType_field field)

theorem typed_readValue (name : String) (type : List Token) (source : ValueSource) :
    Code.typed name (readValue source type) = RecordField.initialiser ⟨name, type, source⟩ := by
  cases source <;> simp [readValue, RecordField.initialiser, ValueSource.accessor,
    ValueSource.position, Code.typed, Code.attempted, Code.call, Code.instantiated, Code.applied,
    Code.dot, Code.word, Code.numberOf, Code.mark, Code.pathSep, Code.enclose]

theorem recordValues_eq (r : Renderer) (event : EventBinding) :
    r.recordValues event = (r.responseRecord event).map RecordField.initialiser := by
  rw [recordValues, responseRecord, List.map_map]
  refine List.map_congr_left fun (field, source) _ => ?_
  show Code.typed field.name (readValue source
    (r.fieldType field.wire field.indexed field.native)) = _
  rw [fieldType_field]
  exact typed_readValue _ _ _

theorem exists_extractMethod_eq (r : Renderer) (event : EventBinding) :
    ∃ doc parameters returns, r.extractMethod event =
      doc ++ publicMethod event.names.extractMethod parameters returns
        (extractBody event (recordLiteral event.names.response
          (logInitialiser :: r.recordValues event))) := by
  refine ⟨_, _, _, congrArg (_ ++ ·) ((methodOf_eq_publicMethod _ _ _ _).trans
    (congrArg (publicMethod _ _ _) ?_))⟩
  simp [extractBody, withDescriptor, recordLiteral, logInitialiser, okOf, logField, Code.binding,
    Code.statement, Code.attempted, Code.call, Code.dot, Code.typed, Code.referenceTo, Code.block,
    Code.commaTerminated, Code.enclose, Code.word, Code.mark, Code.commaSeparated]

theorem exists_streamMethod_eq (r : Renderer) (event : EventBinding) :
    ∃ doc parameters returns, r.streamMethod event =
      doc ++ publicMethod event.names.streamMethod parameters returns
        (r.streamBody event (recordLiteral event.names.response
          (r.recordValues event ++ [[Token.name "log"]]))) := by
  refine ⟨_, _, _, congrArg (_ ++ ·) ((methodOf_eq_publicMethod _ _ _ _).trans
    (congrArg (publicMethod _ _ _) ?_))⟩
  simp [streamBody, withDescriptor, recordLiteral, okOf, logField, Code.binding, Code.statement,
    Code.attempted, Code.call, Code.dot, Code.typed, Code.referenceTo, Code.closure, Code.block,
    Code.commaTerminated, Code.enclose, Code.word, Code.mark]

theorem rendersRecord_of_render {items methods : List Token}
    (renderedItems : r.renderEventItems event = .ok items)
    (renderedMethods : r.renderEventMethods event = .ok methods) :
    r.RendersRecord event (r.responseRecord event) items methods := by
  obtain ⟨_, _, itself⟩ := Outcome.bind_eq_ok_iff.mp renderedItems
  cases itself
  obtain ⟨_, _, itself⟩ := Outcome.bind_eq_ok_iff.mp renderedMethods
  cases itself
  constructor
  · have references : List.Forall₂ (fun field => r.Refers field.indexed field.wire) event.fields
        (r.fieldReferences event) :=
      List.forall₂_map_right_iff.mpr (List.forall₂_same.mpr fun field _ => refers_iff.mpr rfl)
    have descriptor : Code.call (Code.absolute (["std", "sync", "LazyLock"] ++ ["new"]))
          [Code.thunk (Code.call (r.abiItem ["Event", "new"])
            [Code.textOf event.name, Code.listOf (r.fieldReferences event)])] =
        Code.absolute ["std", "sync", "LazyLock", "new"] ++
          [Token.opening .paren, .mark '|' true, .mark '|' false, .opening .brace] ++
          r.abiItem ["Event", "new"] ++
          [Token.opening .paren, .text event.name, .mark ',' false,
            .name "vec", .mark '!' false, .opening .bracket] ++
          [Token.mark ',' false].intercalate (r.fieldReferences event) ++
          [Token.closing .bracket, .closing .paren, .closing .brace, .closing .paren] := by
      simp [Code.call, Code.thunk, Code.listOf, Code.textOf, Code.block, Code.enclose,
        Code.commaSeparated, Code.word, Code.mark, List.intercalate_cons_cons]
    rw [eventItems_eq, eventModuleItems, recordFields_eq, descriptor]
    exact ⟨_, _, _, _, _, references, rfl⟩
  · obtain ⟨doc, parameters, returns, extract⟩ := exists_extractMethod_eq r event
    obtain ⟨otherDoc, otherParameters, otherReturns, stream⟩ := exists_streamMethod_eq r event
    rw [eventMethods, extract, stream, recordValues_eq]
    exact ⟨_, _, _, _, _, _, rfl⟩

end Renderer

/-! ## 3. Events -/

/-- Every value of a decoded log lands in its own field. An event has one field for
each parameter, under names that differ from each other and from the log's. Its record
lists each field once, the indexed ones first, and reading a field at its place gives
the value of its parameter, whatever the values are. Under whatever names the event is
rendered, the descriptor refers to the types in declaration order, and the record and
the literals that fill it have these fields and the log. -/
theorem decoded_values_reach_their_fields {entry : Entry} {event : EventBinding}
    (made : (EventBinding.synthesize entry).outcome = .ok event) :
    event.Keeps entry ∧
    (event.responseFields.map Prod.fst).Perm event.fields ∧
    (∀ (α : Type) (values : List α), values.length = entry.inputs.length →
      event.responseFields.map (fun (field, source) =>
          (field,
            (DecodedLog.ofValues (entry.inputs.map Parameter.indexed) values).read? source)) =
        ((event.fields.zip values).filter (·.1.indexed) ++
            (event.fields.zip values).filter (!·.1.indexed)).map
          fun (field, value) => (field, some value)) ∧
    ∀ (r : Renderer) (named : EventBinding), event.Renamed named →
      ((∀ name ∈ named.methodIdentifiers, Code.isPlain name = true) →
        ∃ items methods, r.renderEventItems named = .ok items ∧
          r.renderEventMethods named = .ok methods) ∧
      ∀ items methods, r.renderEventItems named = .ok items →
        r.renderEventMethods named = .ok methods →
        r.RendersRecord named
          (event.responseFields.map fun (field, source) =>
            ⟨field.name, r.exposedType (Renderer.loggedWire field.wire field.indexed), source⟩)
          items methods := by
  have keeps := EventBinding.keeps_of_synthesize made
  refine ⟨keeps, event.responseFields_perm, fun _ values enough => ?_, fun r named renamed =>
    ⟨fun plain => ?_, fun items methods renderedItems renderedMethods => ?_⟩⟩
  · rw [← keeps.indexed]
    refine EventBinding.map_read?_responseFields (enough.trans ?_)
    simpa using (congrArg List.length keeps.indexed).symm
  · exact ⟨_, _, r.renderEventItems_eq_ok plain, r.renderEventMethods_eq_ok plain⟩
  · have rendered := Renderer.rendersRecord_of_render renderedItems renderedMethods
    rw [renamed] at rendered ⊢
    exact rendered

/-- The groups alternate, one field is called like the log, one has no name, and of an
indexed array only a digest is read. -/
theorem decoded_values_reach_their_fields_mixed :
    ∃ (r : Renderer) (event : EventBinding) (items methods : List Token),
      r = ⟨⟨false, [⟨"runtime", []⟩]⟩, false, true⟩ ∧
      (EventBinding.synthesize ⟨.event, "E", [⟨"log", "bool", false⟩, ⟨"a", "uint8[33][]", true⟩,
        ⟨"", "string", false⟩, ⟨"b", "address", true⟩], [], .normal⟩).outcome = .ok event ∧
      event.responseFields.map (fun (field, source) =>
          (field.name, (DecodedLog.mk [20, 40] [10, 30]).read? source)) =
        [("a", some 20), ("b", some 40), ("log_1", some 10), ("param2", some 30)] ∧
      r.renderEventItems event = .ok items ∧ r.renderEventMethods event = .ok methods ∧
      r.RendersRecord event
        [⟨"a", r.abiItem ["Bytes32"], .indexed 0⟩, ⟨"b", r.abiItem ["Address"], .indexed 1⟩,
          ⟨"log_1", r.abiItem ["Bool"], .plain 0⟩, ⟨"param2", r.abiItem ["Utf8String"], .plain 1⟩]
        items methods := by
  let r : Renderer := ⟨⟨false, [⟨"runtime", []⟩]⟩, false, true⟩
  let fields : List EventField :=
    [⟨"log_1", .primitive .bool, false, .bool, rfl⟩,
      ⟨"a", .dynamicArray (.fixedArray (.primitive (.uint 8)) 33), true, .bytes, rfl⟩,
      ⟨"param2", .primitive .string, false, .text, rfl⟩,
      ⟨"b", .primitive .address, true, .text, rfl⟩]
  have made : (EventBinding.synthesize ⟨.event, "E", [⟨"log", "bool", false⟩,
      ⟨"a", "uint8[33][]", true⟩, ⟨"", "string", false⟩, ⟨"b", "address", true⟩], [],
      .normal⟩).outcome.toOption.map (fun event =>
        (event.fields, event.methodIdentifiers.all Code.isPlain)) = some (fields, true) := by
    decide +kernel
  obtain ⟨event, found, same⟩ := Option.map_eq_some_iff.mp made
  obtain ⟨listed, plain⟩ := Prod.mk.inj same
  have response : event.responseFields = [(fields[1], .indexed 0), (fields[3], .indexed 1),
      (fields[0], .plain 0), (fields[2], .plain 1)] := by
    rw [EventBinding.responseFields, EventBinding.indexedFields, EventBinding.plainFields, listed]
    rfl
  have synthesized := Outcome.toOption_eq_some_iff.mp found
  obtain ⟨_, _, read, rendering⟩ := decoded_values_reach_their_fields synthesized
  obtain ⟨succeeds, records⟩ := rendering r event rfl
  obtain ⟨items, methods, renderedItems, renderedMethods⟩ :=
    succeeds (List.all_eq_true.mp plain)
  have values := read Nat [10, 20, 30, 40] rfl
  have rendered := records items methods renderedItems renderedMethods
  rw [response] at values rendered
  rw [listed] at values
  refine ⟨r, event, items, methods, rfl, synthesized, ?_, renderedItems, renderedMethods, rendered⟩
  rw [response]
  exact congrArg (List.map fun read => (read.1.name, read.2)) values

end ContractBinder
