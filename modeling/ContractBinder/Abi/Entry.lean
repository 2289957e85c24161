/-!
The entries of a contract's ABI: functions, events and the kinds that nothing is generated for.
-/

namespace ContractBinder.Abi

/-- A named and typed parameter. Only those of events can be indexed. -/
structure Parameter where
  name : String
  declaredType : String
  indexed : Bool
  deriving DecidableEq, Repr

inductive EntryKind where
  | function
  | event
  | constructor
  | fallback
  | receive
  | error
  deriving DecidableEq, Repr

/-- How a function may act on the contract's state. A normal one changes it and takes no value. -/
inductive Mutability where
  | pure
  | view
  | payable
  | normal
  deriving DecidableEq, Repr

def Mutability.isReadOnly : Mutability → Bool
  | .pure | .view => true
  | .payable | .normal => false

/-- One entry. Outputs and mutability have a meaning for functions only. -/
structure Entry where
  kind : EntryKind
  name : String
  inputs : List Parameter
  outputs : List Parameter
  mutability : Mutability
  deriving DecidableEq, Repr

namespace EntryKind

/-- All kinds with the words that name them in a document. -/
def words : List (String × EntryKind) :=
  [("function", .function), ("event", .event), ("constructor", .constructor),
   ("fallback", .fallback), ("receive", .receive), ("error", .error)]

/-- The name of a kind in messages. -/
def title : EntryKind → String
  | .function => "Function"
  | .event => "Event"
  | .constructor => "Constructor"
  | .fallback => "Fallback"
  | .receive => "Receive"
  | .error => "Error"

end EntryKind

def Mutability.ofWord? : String → Option Mutability
  | "pure" => some .pure
  | "view" => some .view
  | "payable" => some .payable
  | "nonpayable" => some .normal
  | _ => none

end ContractBinder.Abi
