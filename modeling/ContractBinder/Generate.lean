import ContractBinder.Binding.Manifest
import ContractBinder.Render.Module

/-!
Bindings for an ABI's text: the module's source with a header, and its manifest.
-/

namespace ContractBinder

def entriesOf (document : Json) : Except BindingFault (List Abi.Entry) :=
  (Abi.readDocument document).mapError .ofDocument

def readAbi (abi : String) : Except BindingFault (List Abi.Entry) := do
  let document ← (Json.parse abi).mapError fun fault => .json (.malformed fault)
  entriesOf document

structure Generated where
  bindings : ContractBindings
  /-- The module's source. -/
  source : String
  manifest : Manifest
  deriving DecidableEq, Repr

/-- A module's source: a header that names the ABI, and the rendered module. -/
def sourceOf (abiHash body : String) : String :=
  "// Generated by abi-bindgen. Do not edit.\n// ABI " ++ abiHash ++ "\n\n" ++ body ++ "\n"

def generate (abi : String) (config : Config) : Logged BindingFault Generated := do
  let entries ← Logged.silent (readAbi abi)
  let bindings ← compile config entries
  let manifest := Manifest.ofBindings bindings abi
  let body ← Logged.silent (renderSource config bindings)
  return { bindings, source := sourceOf manifest.abiHash body, manifest }

end ContractBinder
