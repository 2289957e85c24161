import ContractBinder.Files.Path
import ContractBinder.Ordered

/-!
File trees: what is stored where, and how a path leads through a tree. A failure has the number that
the operating system gives it.
Main statement: `FileSystem.walk` follows steps one by one, and the links on the way. All steps but
the last have to lead to directories.
-/

namespace ContractBinder.Files

/-- A file with its content, a directory with what is in it by name, or a link to what a path leads
to. -/
inductive Node where
  | file (content : ByteArray)
  | directory (entries : List (Name × Node))
  | link (target : Path)

/-- Why nothing can be done at a path. -/
inductive Fault where
  | notFound
  | alreadyExists
  | notDirectory
  | isDirectory
  | nameTooLong
  | tooManyLinks
  /-- The path holds a zero byte, with which no name is passed on. -/
  | zeroByte
  /-- The content of a file is no text. -/
  | notText
  deriving DecidableEq, Repr

def Fault.message : Fault → String
  | notFound => "No such file or directory (os error 2)"
  | alreadyExists => "File exists (os error 17)"
  | notDirectory => "Not a directory (os error 20)"
  | isDirectory => "Is a directory (os error 21)"
  | nameTooLong => "File name too long (os error 36)"
  | tooManyLinks => "Too many levels of symbolic links (os error 40)"
  | zeroByte => "file name contained an unexpected NUL byte"
  | notText => "stream did not contain valid UTF-8"

namespace Node

/-- The node at a location below a node. Nothing is below a link. -/
def get? : Node → Location → Option Node
  | node, [] => some node
  | .directory entries, name :: rest => (entries.lookup name).bind (get? · rest)
  | .file _, _ :: _ => none
  | .link _, _ :: _ => none

/-- Puts a node at a location below a node. Directories that are missing on the way are made;
nothing can be put below a file or a link. -/
def put (new : Node) : Location → Node → Node
  | [], _ => new
  | name :: rest, .directory entries =>
    let old := (entries.lookup name).getD (.directory [])
    .directory (insertSorted name (put new rest old) entries)
  | _ :: _, .file content => .file content
  | _ :: _, .link target => .link target

mutual

/-- The locations of all files below a node, relative to where a listing started. Entries of a
directory are visited in the order of their names, directories whose location is skipped are left
out, and links are not followed. -/
def filesBelow (skips : Location → Bool) (here : Location) : Node → List Location
  | .file _ => [[]]
  | .link _ => []
  | .directory entries =>
    if skips here then []
    else (sortedPairs (entriesBelow skips here entries)).flatMap Prod.snd

def entriesBelow (skips : Location → Bool) (here : Location) :
    List (Name × Node) → List (Name × List Location)
  | [] => []
  | (name, node) :: rest =>
    (name, (filesBelow skips (here ++ [name]) node).map (name :: ·)) ::
      entriesBelow skips here rest

end

end Node

/-- A tree and the directory in it where relative paths start. -/
structure FileSystem where
  root : Node
  workingDirectory : Location

/-- The greatest number of bytes in a name. -/
def maxNameSize : Nat := 255

/-- The greatest number of bytes in a path. -/
def maxPathSize : Nat := 4095

/-- The greatest number of links on the way that a path leads. -/
def maxLinks : Nat := 40

/-- Whether a path can be passed on at all. -/
def checkPath (path : Path) : Except Fault Unit :=
  if path.contains 0 then .error .zeroByte
  else if path.isEmpty then .error .notFound
  else if maxPathSize < path.length then .error .nameTooLong
  else .ok ()

inductive Place where
  /-- There is something. -/
  | taken (location : Location)
  /-- There is a directory without anything of this name in it. -/
  | free (directory : Location) (name : Name)

def Place.location : Place → Location
  | taken location => location
  | free directory name => directory ++ [name]

/-- How far steps lead without a link. -/
inductive Stop where
  | place (place : Place)
  /-- The next step comes to a link in a directory, and there are more steps behind it. -/
  | link (directory : Location) (target : Path) (rest : List Name)

/-- Where a path starts if it is read in a directory. -/
def startFrom (directory : Location) (path : Path) : Location :=
  if isAbsolute path then [] else directory

namespace FileSystem

def get? (fs : FileSystem) (location : Location) : Option Node :=
  fs.root.get? location

def put (fs : FileSystem) (location : Location) (node : Node) : FileSystem :=
  { fs with root := Node.put node location fs.root }

def hasDirectory (fs : FileSystem) (location : Location) : Bool :=
  match fs.get? location with
  | some (.directory _) => true
  | _ => false

/-- Follows steps from a location up to the first link. -/
def follow (fs : FileSystem) : Location → List Name → Except Fault Stop
  | here, [] => .ok (.place (.taken here))
  | here, step :: rest =>
    match fs.get? here with
    | some (.directory entries) =>
      if step = dot then fs.follow here rest
      else if step = dotDot then fs.follow here.dropLast rest
      else if maxNameSize < step.length then .error .nameTooLong
      else
        match entries.lookup step with
        | some (.link target) => .ok (.link here target rest)
        | some _ => fs.follow (here ++ [step]) rest
        | none => if rest.isEmpty then .ok (.place (.free here step)) else .error .notFound
    | _ => .error .notDirectory

/-- Follows steps from a location, and links, of which there may be as many as `links` says. -/
def walk (fs : FileSystem) (links : Nat) (here : Location) (steps : List Name) :
    Except Fault Place := do
  match ← fs.follow here steps with
  | .place place => .ok place
  | .link directory target rest =>
    match links with
    | 0 => .error .tooManyLinks
    | left + 1 => fs.walk left (startFrom directory target) (stepsOf target ++ rest)

/-- Where steps lead from the place where a path starts. -/
def walkFrom (fs : FileSystem) (path : Path) (steps : List Name) : Except Fault Place :=
  fs.walk maxLinks (startFrom fs.workingDirectory path) steps

def locateFrom (fs : FileSystem) (path : Path) (steps : List Name) : Except Fault Location := do
  match ← fs.walkFrom path steps with
  | .taken location => .ok location
  | .free _ _ => .error .notFound

def locate (fs : FileSystem) (path : Path) : Except Fault Location := do
  checkPath path
  fs.locateFrom path (stepsOf path)

def leadsToDirectory (fs : FileSystem) (path : Path) (steps : List Name) : Bool :=
  match fs.locateFrom path steps with
  | .ok location => fs.hasDirectory location
  | .error _ => false

def isDirectory (fs : FileSystem) (path : Path) : Bool :=
  match fs.locate path with
  | .ok location => fs.hasDirectory location
  | .error _ => false

/-- The location that a path leads to, if it has a path itself that can be passed on. The path that
is given may be of any length. -/
def canonicalize (fs : FileSystem) (path : Path) : Option Location :=
  if path.contains 0 || path.isEmpty then none
  else
    (fs.locateFrom path (stepsOf path)).toOption.filter fun location =>
      (pathOf location).length ≤ maxPathSize

def readText (fs : FileSystem) (path : Path) : Except Fault String := do
  match fs.get? (← fs.locate path) with
  | some (.file content) =>
    match String.fromUTF8? content with
    | some text => .ok text
    | none => .error .notText
  | some (.directory _) => .error .isDirectory
  | _ => .error .notFound

/-- Whether a text can be stored at a place: there is nothing, or a file. -/
def isWritable (fs : FileSystem) : Place → Bool
  | .free _ _ => true
  | .taken location =>
    match fs.get? location with
    | some (.file _) => true
    | _ => false

/-- Writes a text to the file at a path, which is made if it is missing. -/
def writeText (fs : FileSystem) (path : Path) (text : String) : Except Fault FileSystem := do
  checkPath path
  let place ← fs.walkFrom path (parts path)
  if endsWithSlash path || !fs.isWritable place then .error .isDirectory
  else .ok (fs.put place.location (.file text.toUTF8))

/-- The location of a name in the directory that steps lead to, and what is there. If that is a
link, it is not followed. -/
def place (fs : FileSystem) (path : Path) (steps : List Name) (name : Name) :
    Except Fault (Location × Option Node) := do
  let directory ← fs.locateFrom path steps
  match fs.get? directory with
  | some (.directory entries) =>
    if maxNameSize < name.length then .error .nameTooLong
    else .ok (directory ++ [name], entries.lookup name)
  | _ => .error .notDirectory

def isLink (fs : FileSystem) (path : Path) : Bool :=
  match (parts path).reverse with
  | [] => false
  | name :: before =>
    match fs.place path before.reverse name with
    | .ok (_, some (.link _)) => !endsWithSlash path
    | _ => false

/-- Makes the directory that steps lead to, in a directory that is there. -/
def makeDirectory (fs : FileSystem) (path : Path) (steps : List Name) : Except Fault FileSystem :=
  match steps.reverse with
  | [] => .error .alreadyExists
  | name :: before => do
    let (location, old) ← fs.place path before.reverse name
    if isDotName name || old.isSome then .error .alreadyExists
    else .ok (fs.put location (.directory []))

/-- Makes a directory after the missing ones around it, which are given from the innermost to the
outermost. Those that were made stay if a later one cannot be made. -/
def makeDirectories (fs : FileSystem) (path : Path) :
    List (List Name) → FileSystem × Except Fault Unit
  | [] => (fs, .ok ())
  | steps :: around =>
    match fs.makeDirectory path steps with
    | .ok made => (made, .ok ())
    | .error .notFound =>
      match fs.makeDirectories path around with
      | (prepared, .error fault) => (prepared, .error fault)
      | (prepared, .ok ()) =>
        match prepared.makeDirectory path steps with
        | .ok made => (made, .ok ())
        | .error fault =>
          (prepared, if prepared.leadsToDirectory path steps then .ok () else .error fault)
    | .error fault => (fs, if fs.leadsToDirectory path steps then .ok () else .error fault)

/-- The steps to the directories around a path, from the innermost to the outermost. -/
def surroundings : List Name → List (List Name)
  | [] => []
  | first :: rest =>
    (surroundings rest).map (first :: ·) ++ (if rest.isEmpty then [] else [[first]])

/-- Makes the directory at a path and the missing ones around it. Around an empty path none is
missing. -/
def makeDirectoryAt (fs : FileSystem) (path : Path) : FileSystem × Except Fault Unit :=
  if path.isEmpty then (fs, .ok ())
  else
    match checkPath path with
    | .error fault => (fs, .error fault)
    | .ok () =>
      if (parts path).isEmpty then (fs, .ok ())
      else fs.makeDirectories path (parts path :: surroundings (components path))

end FileSystem

end ContractBinder.Files
