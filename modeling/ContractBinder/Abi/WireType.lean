/-!
ABI types as the wire sees them: elementary kinds and nested arrays, their canonical spelling, and
the names of the runtime types that carry them.
-/

namespace ContractBinder.Abi

/-- Elementary kinds. Widths are in bits, byte counts in bytes. -/
inductive WireKind where
  | uint (bits : Nat)
  | int (bits : Nat)
  | bool
  | address
  | fixedBytes (count : Nat)
  | bytes
  | string
  deriving DecidableEq, Repr

/-- A type: an elementary kind, or an array of another type. -/
inductive WireType where
  | primitive (kind : WireKind)
  | fixedArray (element : WireType) (length : Nat)
  | dynamicArray (element : WireType)
  deriving DecidableEq, Repr

/-- The longest fixed array whose length is part of its runtime type. -/
def maxStaticLength : Nat := 32

/-- The most array levels that a declared type may have. -/
def maxArrayDepth : Nat := 64

/-- The greatest fixed array length. -/
def maxArrayLength : Nat := UInt64.size - 1

/-- The runtime container of an array. The length of a bounded one is known at value level only. -/
inductive Container where
  | static (length : Nat)
  | bounded (length : Nat)
  | dynamic
  deriving DecidableEq, Repr

def Container.fixed (length : Nat) : Container :=
  if length ≤ maxStaticLength then .static length else .bounded length

def Container.wireName : Container → String
  | .static length => "StaticArray" ++ Nat.repr length
  | .bounded _ => "StaticArray"
  | .dynamic => "DynamicArray"

namespace WireKind

def wireName : WireKind → String
  | .uint bits => "Uint" ++ Nat.repr bits
  | .int bits => "Int" ++ Nat.repr bits
  | .bool => "Bool"
  | .address => "Address"
  | .fixedBytes count => "Bytes" ++ Nat.repr count
  | .bytes => "DynamicBytes"
  | .string => "Utf8String"

/-- The canonical ABI spelling of an elementary kind. -/
def canonical : WireKind → String
  | .uint bits => "uint" ++ Nat.repr bits
  | .int bits => "int" ++ Nat.repr bits
  | .bool => "bool"
  | .address => "address"
  | .fixedBytes count => "bytes" ++ Nat.repr count
  | .bytes => "bytes"
  | .string => "string"

/-- The kinds that exist: integers of whole bytes up to 256 bits, and 1 to 32 fixed bytes. -/
def WellFormed : WireKind → Prop
  | .uint bits => bits % 8 = 0 ∧ 8 ≤ bits ∧ bits ≤ 256
  | .int bits => bits % 8 = 0 ∧ 8 ≤ bits ∧ bits ≤ 256
  | .fixedBytes count => 1 ≤ count ∧ count ≤ 32
  | _ => True

end WireKind

namespace WireType

def container? : WireType → Option Container
  | .primitive _ => none
  | .fixedArray _ length => some (.fixed length)
  | .dynamicArray _ => some .dynamic

def isArray : WireType → Bool
  | .primitive _ => false
  | _ => true

/-- Whether the size of an encoding depends on the value. -/
def isDynamic : WireType → Bool
  | .primitive kind => kind = .bytes || kind = .string
  | .fixedArray element _ => element.isDynamic
  | .dynamicArray _ => true

def depth : WireType → Nat
  | .primitive _ => 0
  | .fixedArray element _ => element.depth + 1
  | .dynamicArray element => element.depth + 1

/-- The full runtime type name, such as `DynamicArray<StaticArray10<Uint256>>`. -/
def wireName : WireType → String
  | .primitive kind => kind.wireName
  | .fixedArray element length =>
    (Container.fixed length).wireName ++ "<" ++ element.wireName ++ ">"
  | .dynamicArray element => Container.dynamic.wireName ++ "<" ++ element.wireName ++ ">"

/-- The canonical ABI spelling, as selectors and topics hash it. -/
def canonical : WireType → String
  | .primitive kind => kind.canonical
  | .fixedArray element length => element.canonical ++ "[" ++ Nat.repr length ++ "]"
  | .dynamicArray element => element.canonical ++ "[]"

/-- The types that exist: existing kinds in arrays of existing lengths. -/
def Bounded : WireType → Prop
  | .primitive kind => kind.WellFormed
  | .fixedArray element length => element.Bounded ∧ 1 ≤ length ∧ length ≤ maxArrayLength
  | .dynamicArray element => element.Bounded

/-- The types that can be declared: existing types with few enough array levels. -/
def WellFormed (type : WireType) : Prop :=
  type.Bounded ∧ type.depth ≤ maxArrayDepth

end WireType

end ContractBinder.Abi
