import ContractBinder.Code.Token

/-!
Paths such as `::runtime::v2`, with optional type arguments behind their segments.
-/

namespace ContractBinder.Code

/-- One segment of a path. The arguments include their brackets, and the separator in front if it is
there. -/
structure Segment where
  name : String
  arguments : List Token
  deriving DecidableEq, Repr

/-- A path. It is absolute if it starts with a separator. -/
structure Path where
  absolute : Bool
  segments : List Segment
  deriving DecidableEq, Repr

namespace Path

def tokens (path : Path) : List Token :=
  (if path.absolute then pathSep else []) ++
    pathSep.intercalate (path.segments.map fun segment => .name segment.name :: segment.arguments)

def isPlain (path : Path) : Bool :=
  path.segments.all fun segment => segment.arguments.isEmpty

/-- Whether the path can stand for a type as well as for a value, wherever one is expected.
Arguments can be unfit for values, and a type cannot start with a bare `try`. -/
def fitsEverywhere (path : Path) : Bool :=
  path.isPlain && (path.absolute || path.segments.head?.map Segment.name ≠ some "try")

def lastArguments (path : Path) : List Token :=
  (path.segments.getLast?.map Segment.arguments).getD []

/-- The path with other arguments behind the last segment. -/
def withLastArguments (path : Path) (arguments : List Token) : Path :=
  { path with
    segments := path.segments.dropLast ++
      path.segments.getLast?.toList.map fun segment => { segment with arguments } }

end Path

end ContractBinder.Code
