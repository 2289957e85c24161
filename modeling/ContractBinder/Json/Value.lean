import ContractBinder.Ordered

/-!
JSON values. An object keeps its members as a list of pairs; objects that were read hold their keys
once each and in increasing order.
-/

namespace ContractBinder

namespace Json

/-- Numbers: natural ones, the negatives of positive ones, and the doubles with the given bits. -/
inductive Number where
  | natural (value : Nat)
  | negative (magnitude : Nat)
  | double (bits : UInt64)
  deriving DecidableEq, Repr

end Json

inductive Json where
  | null
  | bool (value : Bool)
  | number (value : Json.Number)
  | string (value : String)
  | array (elements : List Json)
  | object (members : List (String × Json))
  deriving Repr

namespace Json

/-- The member of an object, if the value is an object that has it. -/
def member? (key : String) : Json → Option Json
  | object members => members.lookup key
  | _ => none

end Json

end ContractBinder
