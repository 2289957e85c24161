import ContractBinder.Binding.Event
import ContractBinder.Hash.Hex
import ContractBinder.Render.Types

/-!
The rendered items and methods of an event: the descriptor with its topic, the response record, and
three methods that decode logs into response records.
-/

namespace ContractBinder

open Code (Token)

namespace EventBinding

def itemIdentifiers (event : EventBinding) : List String :=
  event.names.constant :: event.names.topicConstant :: event.names.response ::
    event.fields.map EventField.name

def methodIdentifiers (event : EventBinding) : List String :=
  event.names.extractMethod :: event.names.streamMethod :: event.names.rangeStreamMethod ::
    event.itemIdentifiers

end EventBinding

namespace Renderer

def recordFields (r : Renderer) (event : EventBinding) : List (List Token) :=
  event.responseFields.map fun (field, _) =>
    Code.word "pub" ++ Code.typed field.name (r.fieldType field.wire field.indexed field.native)

def readValue (source : ValueSource) (type : List Token) : List Token :=
  let reading (accessor : String) (position : Nat) : List Token :=
    Code.attempted
      (Code.call (Code.instantiated (Code.dot (Code.word "event_values") accessor) [type])
        [Code.numberOf position])
  match source with
  | .indexed position => reading "indexed_value" position
  | .plain position => reading "non_indexed_value" position

def recordValues (r : Renderer) (event : EventBinding) : List (List Token) :=
  event.responseFields.map fun (field, source) =>
    Code.typed field.name (readValue source (r.fieldType field.wire field.indexed field.native))

/-- The types of the fields as values, in declaration order. -/
def fieldReferences (r : Renderer) (event : EventBinding) : List (List Token) :=
  event.fields.map fun field => r.typeReference field.wire field.indexed

def descriptorItem (r : Renderer) (event : EventBinding) : List Token :=
  let lazyLock := ["std", "sync", "LazyLock"]
  r.doc ("Descriptor of `" ++ event.signature ++ "`.") ++ Code.word "pub" ++
    Code.statement (Code.word "static" ++
      Code.typed event.names.constant
        (Code.applied (Code.absolute lazyLock) [r.abiItem ["Event"]]) ++
      Code.mark '=' ::
        Code.call (Code.absolute (lazyLock ++ ["new"]))
          [Code.thunk (Code.call (r.abiItem ["Event", "new"])
            [Code.textOf event.name, Code.listOf (r.fieldReferences event)])])

def topicItem (r : Renderer) (event : EventBinding) : List Token :=
  r.doc ("Topic of `" ++ event.signature ++ "`.") ++ Code.word "pub" ++
    Code.statement (Code.word "const" ++
      Code.typed event.names.topicConstant (Code.referenceTo (Code.word "str")) ++
      Code.mark '=' :: Code.textOf (Hash.prefixedHex event.topic))

def recordAttribute : List Token :=
  Code.attributeOf (Code.call (Code.word "derive") [Code.word "Debug", Code.word "Clone"])

def responseItem (r : Renderer) (event : EventBinding) : List Token :=
  r.doc ("Decoded `" ++ event.name ++ "` log.") ++ recordAttribute ++
    Code.word "pub" ++ Code.word "struct" ++ Code.word event.names.response ++
    Code.block (Code.commaTerminated
      ((Code.word "pub" ++ Code.typed logField (r.item ["Log"])) :: r.recordFields event))

def eventItems (r : Renderer) (event : EventBinding) : List Token :=
  r.descriptorItem event ++ r.topicItem event ++ r.responseItem event

/-- A call of a function with a reference to the event's descriptor. -/
def withDescriptor (event : EventBinding) (function argument : List Token) : List Token :=
  Code.attempted
    (Code.call function [Code.referenceTo (Code.word event.names.constant), argument])

/-- The method that decodes all logs of the event in a receipt. -/
def extractMethod (r : Renderer) (event : EventBinding) : List Token :=
  let response := Code.word event.names.response
  let contract := Code.dot (Code.word "self") "contract"
  let valueList := Code.word "value_list"
  let eventValues := Code.word "event_values"
  let log := Code.call (Code.dot (Code.call (Code.dot eventValues "log") []) "clone") []
  r.doc ("Decodes every `" ++ event.name ++
      "` log of an already fetched receipt, in log order.") ++
    Code.methodOf event.names.extractMethod
      (Code.receiver ++ Code.commaTerminated
        [Code.typed "transaction_receipt" (Code.referenceTo (r.item ["TransactionReceipt"]))])
      (resultOf (vecOf response) (r.item ["ContractError"]))
      (Code.binding valueList
          (withDescriptor event (Code.dot contract "extract_event_parameters_with_log")
            (Code.word "transaction_receipt")) ++
        Code.binding (Code.word "mut" ++ Code.word "responses")
          (Code.call (Code.absolute ["std", "vec", "Vec", "with_capacity"])
            [Code.call (Code.dot valueList "len") []]) ++
        Code.word "for" ++ eventValues ++ Code.word "in" ++ valueList ++
        Code.block (Code.statement
          (Code.call (Code.dot (Code.word "responses") "push")
            [response ++ Code.block (Code.commaTerminated
              (Code.typed logField log :: r.recordValues event))])) ++
        okOf (Code.word "responses"))

/-- The method that decodes the logs that match a filter as they come. -/
def streamMethod (r : Renderer) (event : EventBinding) : List Token :=
  let response := Code.word event.names.response
  let contract := Code.dot (Code.word "self") "contract"
  r.doc ("Streams `" ++ event.name ++ "` logs matching `filter`.") ++
    Code.methodOf event.names.streamMethod
      (Code.receiver ++ Code.typed "filter" (r.item ["EthFilter"]))
      (Code.applied (r.item ["EventStream"]) [response])
      (Code.call (Code.dot contract "log_stream")
        [Code.word "filter",
         Code.closure (Code.typed logField (r.item ["Log"]))
          (Code.binding (Code.word "event_values")
              (withDescriptor event (r.item ["Contract", "extract_event_parameters_from_log"])
                (Code.referenceTo (Code.word logField))) ++
            okOf (response ++ Code.block (Code.commaTerminated
              (r.recordValues event ++ [Code.word logField]))))])

/-- The method that decodes the logs between two blocks. -/
def rangeStreamMethod (r : Renderer) (event : EventBinding) : List Token :=
  let filter := Code.word "filter"
  r.doc ("Streams `" ++ event.name ++ "` logs of this contract between two blocks.") ++
    Code.methodOf event.names.rangeStreamMethod
      (Code.receiver ++ Code.commaTerminated
        [Code.typed "start_block" (r.item ["BlockParameter"]),
         Code.typed "end_block" (r.item ["BlockParameter"])])
      (Code.applied (r.item ["EventStream"]) [Code.word event.names.response])
      (Code.binding (Code.word "mut" ++ filter)
          (Code.call (r.item ["EthFilter", "new"])
            [Code.word "start_block", Code.word "end_block",
             Code.call (Code.dot (Code.dot (Code.word "self") "contract") "address") []]) ++
        Code.statement (Code.call (Code.dot filter "add_single_topic")
          [Code.word event.names.topicConstant]) ++
        Code.call (Code.dot (Code.word "self") event.names.streamMethod) [filter])

def eventMethods (r : Renderer) (event : EventBinding) : List Token :=
  r.extractMethod event ++ r.streamMethod event ++ r.rangeStreamMethod event

def renderEventItems (r : Renderer) (event : EventBinding) : Except BindingFault (List Token) := do
  requireIdentifiers event.itemIdentifiers
  return r.eventItems event

def renderEventMethods (r : Renderer) (event : EventBinding) :
    Except BindingFault (List Token) := do
  requireIdentifiers event.methodIdentifiers
  return r.eventMethods event

end Renderer

end ContractBinder
