import ContractBinder.CommandLine.Arguments
import ContractBinder.CommandLine.Discovery
import ContractBinder.ConfigFile

/-!
The two commands: generating bindings for one ABI file, or for all below a directory.
Main statement: a command changes the file system only by writing finished bindings.
-/

namespace ContractBinder.CommandLine

open Files (Action Path)
open Text (shown)

structure GeneratedFile where
  contractName : String
  abiFile : Path
  sourcePath : Path
  manifestPath : Option Path
  functions : Nat
  events : Nat
  warnings : List String
  deriving DecidableEq, Repr

/-- Reads settings from a file, which have to make sense by themselves. -/
def readConfig (path : Path) : Action RunFault Config := do
  let text ← .look fun fs => (fs.readText path).mapError (.unreadableConfig path)
  match Config.ofToml? text with
  | some config => .ofExcept (config.validated.mapError .invalidConfigFile)
  | none => .ofExcept (.error (.malformedConfig path))

/-- The settings of the file that is named, or else the default ones. -/
def loadConfig (settings : Settings) : Action RunFault Config :=
  match settings.config with
  | some path => readConfig path
  | none => pure Config.default

/-- Settings with those of the command line in place of their own. -/
def overridden (base : Config) (settings : Settings) (contractName : String) : Config :=
  { contractName
    runtimePath := settings.runtime.getD base.runtimePath
    nativeTypes := base.nativeTypes && !settings.wireTypes
    generateEvents := base.generateEvents && !settings.noEvents
    emitDocs := base.emitDocs
    output := { base.output with outputDir := settings.outputDir.getD base.output.outputDir } }

/-- The settings of a run, which have to make sense. -/
def buildConfig (base : Config) (settings : Settings) (contractName : String) :
    Except RunFault Config :=
  (overridden base settings contractName).validated.mapError .invalidConfig

/-- A program that formats the code in a file. It cannot be run, for a reason that is put in words,
or it ends: as it should, or with a status that is put in words. -/
abbrev Formatter := Path → Action String (Option String)

/-- There is no such program. -/
def missingFormatter : Formatter := fun _ =>
  .ofExcept (.error Files.Fault.notFound.message)

/-- Formats a module. That the program does not end as it should is no failure. -/
def formatSource (formatter : Formatter) (path : Path) : Action RunFault Unit := do
  match ← (formatter path).mapFailure .formatter with
  | some status =>
    .ofLogged (.say .warning ("rustfmt exited with " ++ status ++ " for " ++ shown path))
  | none => pure ()

section

variable (formatter : Formatter)

/-- Generates and writes the bindings for an ABI file, and formats them if that is wanted. -/
def generateFile (abiFile : Path) (config : Config) (rustfmt : Bool) :
    Action RunFault GeneratedFile := do
  let abi ← .look fun fs => (fs.readText abiFile).mapError (.unreadableAbi abiFile)
  let computed := generate abi config
  let generated ← .ofLogged (computed.mapFailure (.generation abiFile))
  let saved ← (generated.save config.output).mapFailure .save
  if rustfmt then formatSource formatter saved.sourcePath
  return {
    contractName := generated.bindings.contractName
    abiFile
    sourcePath := saved.sourcePath
    manifestPath := saved.manifestPath
    functions := generated.bindings.functions.length
    events := generated.bindings.events.length
    warnings := computed.warnings }

/-- The name of the contract: the one that is given, else that of the file with settings if there is
such a file, else the one of the ABI file. -/
def chosenName (abiFile : Path) (name : Option String) (settings : Settings) (base : Config) :
    String :=
  match name with
  | some given => given
  | none => if settings.config.isSome then base.contractName else contractNameOf abiFile

def runGenerate (abiFile : Path) (name : Option String) (settings : Settings) :
    Action RunFault GeneratedFile := do
  let base ← loadConfig settings
  let config ← .ofExcept (buildConfig base settings (chosenName abiFile name settings base))
  generateFile formatter abiFile config settings.rustfmt

def generateAll (base : Config) (settings : Settings) (abiFiles : List Path) :
    Action RunFault (List GeneratedFile) :=
  abiFiles.mapM fun abiFile => do
    let config ← .ofExcept (buildConfig base settings (contractNameOf abiFile))
    generateFile formatter abiFile config settings.rustfmt

/-- Generates bindings for all ABI files below a directory. -/
def runBatch (directory : Path) (settings : Settings) :
    Action RunFault (List GeneratedFile) := do
  let base ← loadConfig settings
  let outputDir := settings.outputDir.getD base.output.outputDir
  let abiFiles ← .look fun fs => findAbiFiles fs directory outputDir
  if abiFiles.isEmpty then
    Action.ofLogged (.say .warning ("No ABI files found in " ++ shown directory))
  .ofExcept (checkModules [] abiFiles)
  generateAll formatter base settings abiFiles

inductive Outcome where
  | one (file : GeneratedFile)
  | many (files : List GeneratedFile)
  deriving DecidableEq, Repr

def Command.run : Command → Action RunFault Outcome
  | .generate abiFile name settings => do
    let file ← runGenerate formatter abiFile name settings
    return .one file
  | .batch directory settings => do
    let files ← runBatch formatter directory settings
    return .many files

end

end ContractBinder.CommandLine
