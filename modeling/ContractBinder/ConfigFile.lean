import ContractBinder.Config
import ContractBinder.Toml.Reader

/-!
Settings in TOML. A key that is not there leaves its setting as it is by default, and other keys
have no meaning.
-/

namespace ContractBinder

namespace Toml

def textOf? : Toml → Option String
  | .string value => some value
  | _ => none

def pathOf? (value : Toml) : Option Files.Path :=
  (textOf? value).map Text.bytes

/-- The truth value that a value is. -/
def flagOf? : Toml → Option Bool
  | .boolean value => some value
  | _ => none

/-- Reads the value of a key, or takes another one if the key is not there. -/
def Members.read? {α : Type} (members : Members) (key : String) (read : Toml → Option α)
    (other : α) : Option α :=
  match members.lookup key with
  | some value => read value
  | none => some other

end Toml

/-- The keys of the output settings, in the order in which an array gives their values. -/
def OutputConfig.keys : List String :=
  ["output_dir", "write_manifest", "pretty_json"]

/-- Reads output settings from the members of a table. -/
def OutputConfig.ofMembers? (members : Toml.Members) : Option OutputConfig := do
  let outputDir ← members.read? "output_dir" Toml.pathOf? OutputConfig.default.outputDir
  let writeManifest ← members.read? "write_manifest" Toml.flagOf? OutputConfig.default.writeManifest
  let prettyJson ← members.read? "pretty_json" Toml.flagOf? OutputConfig.default.prettyJson
  return { outputDir, writeManifest, prettyJson }

/-- Reads output settings from a table, or from an array of their values in order. A date or a time
is a table with a member that has no meaning here. -/
def OutputConfig.ofToml? : Toml → Option OutputConfig
  | .table _ members => ofMembers? members
  | .array elements => ofMembers? (OutputConfig.keys.zip elements)
  | .moment => ofMembers? []
  | .tables elements =>
    ofMembers? (OutputConfig.keys.zip (elements.map fun members => Toml.table .header members))
  | _ => none

/-- Reads settings from the members of a document. -/
def Config.ofMembers? (members : Toml.Members) : Option Config := do
  let contractName ← members.read? "contract_name" Toml.textOf? Config.default.contractName
  let runtimePath ← members.read? "runtime_path" Toml.textOf? Config.default.runtimePath
  let nativeTypes ← members.read? "native_types" Toml.flagOf? Config.default.nativeTypes
  let generateEvents ← members.read? "generate_events" Toml.flagOf? Config.default.generateEvents
  let emitDocs ← members.read? "emit_docs" Toml.flagOf? Config.default.emitDocs
  let output ← members.read? "output" OutputConfig.ofToml? OutputConfig.default
  return { contractName, runtimePath, nativeTypes, generateEvents, emitDocs, output }

def Config.ofToml? (text : String) : Option Config :=
  (Toml.parse? text).bind Config.ofMembers?

end ContractBinder
