import ContractBinder.Abi.NativeType
import ContractBinder.Binding.Parameters
import ContractBinder.Binding.Signature
import ContractBinder.Logged
import ContractBinder.Naming.Items

/-!
What is generated for one event: a descriptor, a topic, a response record, and methods that decode
logs into such records.
Main statement: `EventBinding.responseFields` lists each field once, indexed ones first, with the
place of its value in a decoded log.
-/

namespace ContractBinder

open Abi (Entry NativeType Parameter TypeNode WireType)

/-- The field of a response record that holds the log itself. -/
def logField : String := "log"

structure EventField where
  name : String
  wire : WireType
  indexed : Bool
  native : NativeType
  projects : (TypeNode.whole wire).projectField indexed = .ok native
  deriving DecidableEq, Repr

def EventField.ofParameter (name : String) (parameter : Parameter) :
    Except BindingFault EventField := do
  let wire ← BindingFault.resolve parameter.declaredType
  let ⟨native, projects⟩ ← projection ((TypeNode.whole wire).projectField parameter.indexed)
  return { name, wire, indexed := parameter.indexed, native, projects }

/-- The place of a value in a decoded log: among the indexed values, or among the others. -/
inductive ValueSource where
  | indexed (position : Nat)
  | plain (position : Nat)
  deriving DecidableEq, Repr

structure EventBinding where
  /-- The event's literal name. -/
  name : String
  names : Naming.EventNames
  signature : String
  /-- The digest that marks the event's logs. -/
  topic : List UInt8
  /-- The fields in declaration order. -/
  fields : List EventField
  signature_eq : signature = canonicalSignature name (fields.map EventField.wire)
  topic_eq : topic = signatureDigest signature
  deriving DecidableEq, Repr

namespace EventBinding

def indexedFields (event : EventBinding) : List EventField :=
  event.fields.filter (·.indexed)

def plainFields (event : EventBinding) : List EventField :=
  event.fields.filter (!·.indexed)

/-- The fields of the response record behind the log, each with the place of its value. -/
def responseFields (event : EventBinding) : List (EventField × ValueSource) :=
  event.indexedFields.mapIdx (fun position field => (field, .indexed position)) ++
    event.plainFields.mapIdx fun position field => (field, .plain position)

def ofFields (entry : Entry) (fields : List EventField) : EventBinding :=
  let signature := canonicalSignature entry.name (fields.map EventField.wire)
  { name := entry.name
    names := .ofEvent entry.name
    signature
    topic := signatureDigest signature
    fields
    signature_eq := rfl
    topic_eq := rfl }

def ofEntry (entry : Entry) : Except BindingFault EventBinding :=
  (makeEach [logField] EventField.ofParameter entry.inputs).map (ofFields entry)

def synthesize (entry : Entry) : Logged BindingFault EventBinding :=
  match ofEntry entry with
  | .ok event => ⟨[⟨.debug, "Synthesized event " ++ event.signature⟩], .ok event⟩
  | .error fault => .failure fault

end EventBinding

end ContractBinder
