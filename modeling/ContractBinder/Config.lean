import ContractBinder.Code.Grammar.Reading
import ContractBinder.Files.Path
import ContractBinder.Text.Blank

/-!
Settings of a run, their defaults, and the settings that make no sense.
-/

namespace ContractBinder

/-- Where and how generated files are written. -/
structure OutputConfig where
  outputDir : Files.Path
  writeManifest : Bool
  prettyJson : Bool
  deriving DecidableEq, Repr

structure Config where
  /-- The name that the contract's type is derived from. -/
  contractName : String
  /-- The path of the library that generated code calls. -/
  runtimePath : String
  /-- Whether callers see native types instead of wire types. -/
  nativeTypes : Bool
  /-- Whether events are translated. -/
  generateEvents : Bool
  /-- Whether generated items are documented. -/
  emitDocs : Bool
  output : OutputConfig
  deriving DecidableEq, Repr

/-- The output settings if nothing else is said. -/
def OutputConfig.default : OutputConfig :=
  { outputDir := Text.bytes "out", writeManifest := true, prettyJson := true }

namespace Config

/-- The settings if nothing else is said. -/
def default : Config :=
  { contractName := "Contract"
    runtimePath := "::contract_runtime"
    nativeTypes := true
    generateEvents := true
    emitDocs := true
    output := .default }

/-- Why settings make no sense. -/
inductive Fault where
  | emptyName
  | invalidRuntimePath (path : String) (cause : Code.SyntaxFault)
  deriving DecidableEq, Repr

def Fault.message : Fault → String
  | emptyName => "Contract name must not be empty"
  | invalidRuntimePath path cause => "Invalid runtime path `" ++ path ++ "`: " ++ cause.message

/-- Finds the first setting that makes no sense. -/
def validate (config : Config) : Except Fault Unit :=
  if (Text.trim config.contractName.toList).isEmpty then .error .emptyName
  else
    match Code.Path.parse config.runtimePath with
    | .ok _ => .ok ()
    | .error cause => .error (.invalidRuntimePath config.runtimePath cause)

/-- The settings, if they make sense. -/
def validated (config : Config) : Except Fault Config :=
  config.validate.map fun _ => config

end Config

end ContractBinder
