import ContractBinder.CommandLine.Fault
import ContractBinder.Naming.Items

/-!
Which files below a directory are ABI files, and which contracts they are named after.
Main statement: `findAbiFiles` lists each ABI file once, in the order of the names on the way to it.
-/

namespace ContractBinder.CommandLine

open Files (FileSystem Location Name Path)
open Text (bytes decode?)

def abiExtensions : List Name :=
  [bytes "abi", bytes "json"]

/-- Whether a name is a text that ends as those of manifests do. -/
def isManifestName (name : Name) : Bool :=
  match decode? name with
  | some text => manifestEnding.toList.reverse.isPrefixOf text.toList.reverse
  | none => false

/-- Whether a file's name is that of an ABI file. Manifests are none. -/
def isAbiName (name : Name) : Bool :=
  !isManifestName name &&
    match Files.extensionOf? name with
    | some extension => abiExtensions.contains extension
    | none => false

/-- The name of the contract in a file: the file's name up to its first dot, unless nothing is left
or the name is no text. -/
def contractNameOf (path : Path) : String :=
  let stem := (((Files.fileName? path).map Files.stemOf).bind decode?).getD ""
  let lead := stem.toList.takeWhile (· != '.')
  if lead.isEmpty then Config.default.contractName else String.ofList lead

/-- The stem of the files that are generated for an ABI file. -/
def moduleStem (path : Path) : String :=
  Naming.fileStem (Naming.typeName (contractNameOf path))

/-- Whether a location ends with the name of an ABI file. -/
def isAbiLocation (location : Location) : Bool :=
  match location.getLast? with
  | some name => isAbiName name
  | none => false

/-- Whether a listing of a directory passes over a directory in it, or over the whole directory if
`relative` is empty. It does so at the location to leave out, and where the path has become too
long. A link at which the listing starts is no directory to leave out. -/
def passesOver (fs : FileSystem) (directory : Path) (around : Location) (skipped : Option Location)
    (relative : Location) : Bool :=
  let isStartLink := relative.isEmpty && fs.isLink directory
  (some (around ++ relative) = skipped && !isStartLink) ||
    !(Files.checkPath (Files.pathBelow directory relative)).toBool

/-- The locations of the ABI files below a directory, relative to it. -/
def abiLocations (fs : FileSystem) (directory : Path) (around : Location)
    (skipped : Option Location) : List Location :=
  match fs.get? around with
  | some node => (node.filesBelow (passesOver fs directory around skipped) []).filter isAbiLocation
  | none => []

/-- Finds the ABI files below a directory that are not below the output directory. -/
def findAbiFiles (fs : FileSystem) (directory outputDir : Path) : Except RunFault (List Path) :=
  match fs.locate directory with
  | .ok around =>
    if fs.hasDirectory around then
      .ok ((abiLocations fs directory around (fs.canonicalize outputDir)).map
        (Files.pathBelow directory))
    else .error (.notDirectory directory)
  | .error _ => .error (.notDirectory directory)

/-- Finds the first file whose module an earlier one has already. -/
def checkModules : List (String × Path) → List Path → Except RunFault Unit
  | _, [] => .ok ()
  | seen, path :: rest =>
    let stem := moduleStem path
    match seen.lookup stem with
    | some previous => .error (.sameModule previous path stem)
    | none => checkModules ((stem, path) :: seen) rest

end ContractBinder.CommandLine
