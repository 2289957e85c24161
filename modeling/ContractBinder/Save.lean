import ContractBinder.Files.Action
import ContractBinder.Generate
import ContractBinder.Json.Printer

/-!
Writing generated bindings: a module, and next to it its manifest if it is wanted.
-/

namespace ContractBinder

open Files (Action FileSystem Path)
open Text (bytes shown)

/-- Why bindings were not written completely. -/
inductive SaveFault where
  | directory (path : Path) (cause : Files.Fault)
  | source (path : Path) (cause : Files.Fault)
  | manifest (path : Path) (cause : Files.Fault)
  deriving DecidableEq, Repr

/-- The wording of a fault without its cause. -/
def SaveFault.message : SaveFault → String
  | directory path _ => "Failed to create output directory: " ++ shown path
  | source path _ => "Failed to write bindings: " ++ shown path
  | manifest path _ => "Failed to write manifest: " ++ shown path

/-- What the file system said. -/
def SaveFault.cause : SaveFault → Files.Fault
  | directory _ cause => cause
  | source _ cause => cause
  | manifest _ cause => cause

structure Saved where
  sourcePath : Path
  manifestPath : Option Path
  deriving DecidableEq, Repr

/-- What the name of every manifest ends with. -/
def manifestEnding : String :=
  ".manifest.json"

def Manifest.text (manifest : Manifest) (pretty : Bool) : String :=
  if pretty then manifest.toJson.pretty else manifest.toJson.compact

def Manifest.save (manifest : Manifest) (path : Path) (pretty : Bool) : Action SaveFault Unit :=
  .change fun fs => (fs.writeText path (manifest.text pretty)).mapError (.manifest path)

def makeOutputDirectory (path : Path) : Action SaveFault Unit := fun fs =>
  let (changed, outcome) := fs.makeDirectoryAt path
  (.silent (outcome.mapError (.directory path)), changed)

namespace Generated

def fileStem (generated : Generated) : String :=
  Naming.fileStem generated.bindings.contractName

def sourcePath (generated : Generated) (outputDir : Path) : Path :=
  Files.join outputDir (bytes (generated.fileStem ++ ".rs"))

def manifestPath (generated : Generated) (outputDir : Path) : Path :=
  Files.join outputDir (bytes (generated.fileStem ++ manifestEnding))

/-- Writes the module, and then the manifest if it is wanted. -/
def save (generated : Generated) (output : OutputConfig) : Action SaveFault Saved := do
  makeOutputDirectory output.outputDir
  let sourcePath := generated.sourcePath output.outputDir
  .change fun fs => (fs.writeText sourcePath generated.source).mapError (.source sourcePath)
  .ofLogged (.say .info ("Saved bindings to: " ++ shown sourcePath))
  if output.writeManifest then
    let manifestPath := generated.manifestPath output.outputDir
    generated.manifest.save manifestPath output.prettyJson
    .ofLogged (.say .info ("Saved manifest to: " ++ shown manifestPath))
    return { sourcePath, manifestPath := some manifestPath }
  else return { sourcePath, manifestPath := none }

end Generated

end ContractBinder
