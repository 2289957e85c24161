import ContractBinder.Binding.Contract
import ContractBinder.Hash.Sha256
import ContractBinder.Json.Value

/-!
Manifests: which ABI a module was generated from, and under which selectors and topics its functions
and events are found.
-/

namespace ContractBinder

/-- The manifest of a module. Both maps are ordered by their keys. -/
structure Manifest where
  contract : String
  abiHash : String
  /-- Selectors by signature. -/
  functionSelectors : List (String × String)
  /-- Topics by signature. -/
  eventTopics : List (String × String)
  deriving DecidableEq, Repr

namespace Manifest

def hashOf (abi : String) : String :=
  "sha256:" ++ Hash.hexOfBytes (Hash.Sha256.digest abi.toUTF8.toList)

def selectorsOf (bindings : ContractBindings) : List (String × String) :=
  sortedPairs (bindings.functions.map fun function =>
    (function.signature, Hash.prefixedHex function.selector))

def topicsOf (bindings : ContractBindings) : List (String × String) :=
  sortedPairs (bindings.events.map fun event =>
    (event.signature, Hash.prefixedHex event.topic))

/-- The manifest of bindings that were generated from an ABI's text. -/
def ofBindings (bindings : ContractBindings) (abi : String) : Manifest :=
  { contract := bindings.contractName
    abiHash := hashOf abi
    functionSelectors := selectorsOf bindings
    eventTopics := topicsOf bindings }

def mapToJson (pairs : List (String × String)) : Json :=
  .object (pairs.map fun pair => (pair.1, .string pair.2))

def toJson (manifest : Manifest) : Json :=
  .object
    [("contract", .string manifest.contract),
     ("abi_hash", .string manifest.abiHash),
     ("function_selectors", mapToJson manifest.functionSelectors),
     ("event_topics", mapToJson manifest.eventTopics)]

def textOf? : Json → Option String
  | .string value => some value
  | _ => none

def mapOf? : Json → Option (List (String × String))
  | .object members => members.mapM fun member => (textOf? member.2).map (member.1, ·)
  | _ => none

/-- Reads a manifest from an object. Other members have no meaning. -/
def ofJson? (value : Json) : Option Manifest := do
  let contract ← textOf? (← value.member? "contract")
  let abiHash ← textOf? (← value.member? "abi_hash")
  let functionSelectors ← mapOf? (← value.member? "function_selectors")
  let eventTopics ← mapOf? (← value.member? "event_topics")
  return { contract, abiHash, functionSelectors, eventTopics }

end Manifest

end ContractBinder
