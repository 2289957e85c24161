import ContractBinder.Text.Bytes
import ContractBinder.Text.Split

/-!
Paths as they are written: names with slashes between them. Names are bytes, which need not be a
text. A path is kept as it was given.
-/

namespace ContractBinder.Files

abbrev Name := List UInt8

/-- What leads to something, written as bytes. -/
abbrev Path := List UInt8

/-- The names that lead from the root to something, or from a directory to what is below it. -/
abbrev Location := List Name

/-- The byte between names. -/
def slash : UInt8 := 0x2f

/-- The byte in front of an extension. -/
def period : UInt8 := 0x2e

def dot : Name := [period]

/-- The name of the directory around a directory. -/
def dotDot : Name := [period, period]

/-- The parts of a path between its slashes, without empty ones. -/
def parts (path : Path) : List Name :=
  (Text.splitOn slash path).filter (!·.isEmpty)

def isAbsolute (path : Path) : Bool :=
  path.head? = some slash

/-- Whether a path ends with a slash, so that it can only lead to a directory. -/
def endsWithSlash (path : Path) : Bool :=
  path.getLast? = some slash

/-- The steps of a path. A slash at the end is a step to the directory itself. -/
def stepsOf (path : Path) : List Name :=
  parts path ++ if endsWithSlash path then [dot] else []

/-- The name of a directory in itself, or of the directory around it. -/
def isDotName (name : Name) : Bool :=
  name = dot || name = dotDot

/-- The parts of a path without those that change nothing. A dot at the very start of a relative
path is kept. -/
def components (path : Path) : List Name :=
  match parts path with
  | [] => []
  | first :: rest =>
    (if first = dot && isAbsolute path then [] else [first]) ++ rest.filter (· ≠ dot)

def join (directory : Path) (name : Name) : Path :=
  if directory.isEmpty || endsWithSlash directory then directory ++ name
  else directory ++ slash :: name

def pathBelow (directory : Path) (names : Location) : Path :=
  names.foldl join directory

def pathOf (location : Location) : Path :=
  if location.isEmpty then [slash] else location.flatMap (slash :: ·)

/-- The name that a path ends with, unless it ends with a step to a directory around it. -/
def fileName? (path : Path) : Option Name :=
  match (components path).getLast? with
  | some name => if isDotName name then none else some name
  | none => none

/-- A name cut at its last dot, unless the dot is at the start or there is none. -/
def cutName (name : Name) : Name × Option Name :=
  match Text.cutLast? period name with
  | some (before, behind) => if before.isEmpty then (name, none) else (before, some behind)
  | none => (name, none)

def stemOf (name : Name) : Name :=
  (cutName name).1

/-- What stands behind the last dot of a name. -/
def extensionOf? (name : Name) : Option Name :=
  (cutName name).2

end ContractBinder.Files
