import ContractBinder.Abi.WireType

/-!
The types that callers of generated code see in place of wire types.
-/

namespace ContractBinder.Abi

/-- A caller's type. Integers have no bound. -/
inductive NativeType where
  | text
  | bool
  | integer
  | bytes
  | list (element : NativeType)
  deriving DecidableEq, Repr

/-- The caller's type of an elementary kind. -/
def WireKind.native : WireKind → NativeType
  | .address => .text
  | .string => .text
  | .uint _ => .integer
  | .int _ => .integer
  | .bool => .bool
  | .fixedBytes _ => .bytes
  | .bytes => .bytes

/-- The caller's type of a wire type. Every array is a list. -/
def WireType.native : WireType → NativeType
  | .primitive kind => kind.native
  | .fixedArray element _ => .list element.native
  | .dynamicArray element => .list element.native

/-- The caller's type of an indexed event field. A dynamic value is only known by its digest. -/
def WireType.indexedNative (type : WireType) : NativeType :=
  if type.isDynamic then .bytes else type.native

/-- What is projected onto caller's types: a whole type, or a container without its element, which
has no caller's type. -/
inductive TypeNode where
  | whole (wire : WireType)
  | bare (container : Container)
  deriving DecidableEq, Repr

/-- The caller's type of a node. A container without one fails with its runtime name. -/
def TypeNode.project : TypeNode → Except String NativeType
  | .whole wire => .ok wire.native
  | .bare container => .error container.wireName

/-- The caller's type of a node that is an indexed event field. -/
def TypeNode.projectIndexed : TypeNode → Except String NativeType
  | .whole wire => .ok wire.indexedNative
  | .bare container => .error container.wireName

/-- The caller's type of a node that is an event field. -/
def TypeNode.projectField (indexed : Bool) (node : TypeNode) : Except String NativeType :=
  if indexed then node.projectIndexed else node.project

end ContractBinder.Abi
