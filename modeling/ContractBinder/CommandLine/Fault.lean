import ContractBinder.Config
import ContractBinder.Save

/-!
Why a command fails: the wording with all causes, and the kind of the failure.
-/

namespace ContractBinder.CommandLine

open Files (Path)
open Text (shown)

inductive RunFault where
  | unreadableConfig (path : Path) (cause : Files.Fault)
  /-- A file with settings is no document, or a setting has a wrong type. -/
  | malformedConfig (path : Path)
  /-- The settings in a file make no sense. -/
  | invalidConfigFile (fault : Config.Fault)
  /-- The settings of a run make no sense. -/
  | invalidConfig (fault : Config.Fault)
  | notDirectory (path : Path)
  | sameModule (first second : Path) (stem : String)
  | unreadableAbi (path : Path) (cause : Files.Fault)
  | generation (path : Path) (cause : BindingFault)
  | save (fault : SaveFault)
  /-- The program that formats code cannot be run. -/
  | formatter (cause : String)
  deriving Repr

namespace RunFault

/-- The wording of a fault, followed by its causes from the nearest to the first. -/
def chain : RunFault → List String
  | unreadableConfig path cause => ["Failed to read " ++ shown path, cause.message]
  | malformedConfig path => ["Failed to parse " ++ shown path]
  | invalidConfigFile fault => [fault.message]
  | invalidConfig fault => ["Invalid configuration", fault.message]
  | notDirectory path => ["Not a directory: " ++ shown path]
  | sameModule first second stem =>
    [shown first ++ " and " ++ shown second ++ " both generate module " ++ stem]
  | unreadableAbi path cause => ["Failed to read ABI file: " ++ shown path, cause.message]
  | generation path cause => ("Generation failed for " ++ shown path) :: cause.chain
  | save fault => [fault.message, fault.cause.message]
  | formatter cause => ["Failed to run rustfmt", cause]

/-- Whether the run did not end in an orderly way: a name in the rendered code was no identifier. -/
def isAbrupt : RunFault → Bool
  | generation _ cause => cause.isAbrupt
  | _ => false

def kindOfBinding : BindingFault → String
  | .invalidType .. => "invalid_type"
  | .unsupportedType _ => "unsupported_type"
  | .notEntries => "invalid_abi"
  | .unknownMutability _ => "invalid_abi"
  | .json _ => "invalid_abi"
  | .invalidRuntimePath _ => "invalid_config"
  | .render _ => "render_failed"
  | .illegalName _ => "render_failed"
  | .inEntry _ source => kindOfBinding source

/-- The wording of a fault without its causes. -/
def message (fault : RunFault) : String :=
  fault.chain.head?.getD ""

/-- The kind of a fault. Faults of the file system are one kind. What is left is told apart by its
wording, in which names of files and settings take part. -/
def kind (fault : RunFault) : String :=
  match fault with
  | generation _ cause => kindOfBinding cause
  | unreadableConfig .. | unreadableAbi .. | save _ | formatter _ => "io_error"
  | malformedConfig _ | invalidConfigFile _ | invalidConfig _ | notDirectory _ | sameModule .. =>
    if Text.occursIn "Invalid configuration".toList fault.message.toList then "invalid_config"
    else "unknown_error"

end RunFault

end ContractBinder.CommandLine
