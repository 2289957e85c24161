import ContractBinder.CommandLine.Report

/-!
The program: runs its arguments on the files below the working directory, which are read before and
written after the run. Other files are not seen, links are taken for what they lead to, and no
program is run that formats code.
-/

namespace ContractBinder

open Files (Name Node Location FileSystem)

/-- A tree that holds a node at a location and nothing else. -/
def treeAround (location : Location) (node : Node) : Node :=
  location.foldr (fun name inner => .directory [(name, inner)]) node

/-- Reads what is stored under a name. -/
partial def loadEntry (entry : IO.FS.DirEntry) : IO (Name × Node) := do
  if ← entry.path.isDir then
    let entries ← (← entry.path.readDir).toList.mapM loadEntry
    return (Text.bytes entry.fileName, .directory entries)
  else return (Text.bytes entry.fileName, .file (← IO.FS.readBinFile entry.path))

/-- Reads what is below the working directory. -/
def loadFiles : IO FileSystem := do
  let directory ← IO.currentDir
  let entries ← (← directory.readDir).toList.mapM loadEntry
  let location := Files.parts (Text.bytes directory.toString)
  return ⟨treeAround location (.directory entries), location⟩

/-- Writes what differs between two trees. -/
partial def storeNode (path : String) (old : Option Node) : Node → IO Unit
  | .file content => do
    let isKept := match old with
      | some (.file before) => before == content
      | _ => false
    unless isKept do IO.FS.writeBinFile path content
  | .directory entries => do
    let isKept := match old with
      | some (.directory _) => true
      | _ => false
    unless isKept do IO.FS.createDirAll path
    for (name, node) in entries do
      storeNode (path ++ "/" ++ Text.shown name) (old.bind (·.get? [name])) node
  | .link _ => return

end ContractBinder

open ContractBinder in
def main (arguments : List String) : IO UInt32 := do
  let fs ← loadFiles
  let report :=
    CommandLine.runArguments CommandLine.missingFormatter (arguments.map Text.bytes) fs
  storeNode "" (some fs.root) report.files.root
  let errors ← IO.getStderr
  for line in report.log do errors.putStrLn line
  errors.putStr report.errors
  (← IO.getStdout).putStr report.output
  return report.exitCode.toUInt32
