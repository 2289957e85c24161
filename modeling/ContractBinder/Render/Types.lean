import ContractBinder.Abi.NativeType
import ContractBinder.Code.Grammar.Reading
import ContractBinder.Code.Phrase
import ContractBinder.Config
import ContractBinder.Fault

/-!
Rendered types. Generated code names wire types by paths into the runtime library, and native types
by paths into the standard library.
-/

namespace ContractBinder

open Code (Token)
open Abi (WireKind WireType NativeType Container)

structure Renderer where
  /-- The path of the runtime library. -/
  runtime : Code.Path
  /-- Whether callers see native types instead of wire types. -/
  nativeTypes : Bool
  /-- Whether items are documented. -/
  emitDocs : Bool
  deriving DecidableEq, Repr

namespace Renderer

def ofConfig (config : Config) : Except BindingFault Renderer :=
  match Code.Path.parse config.runtimePath with
  | .ok runtime => .ok ⟨runtime, config.nativeTypes, config.emitDocs⟩
  | .error _ => .error (.invalidRuntimePath config.runtimePath)

/-- The path of an item of the runtime library. -/
def item (r : Renderer) (names : List String) : List Token :=
  r.runtime.tokens ++ Code.pathSep ++ Code.pathOf false names

/-- The path of an item for ABI values. -/
def abiItem (r : Renderer) (names : List String) : List Token :=
  r.item ("abi" :: names)

def wireType (r : Renderer) : WireType → List Token
  | .primitive kind => r.abiItem [kind.wireName]
  | .fixedArray element length =>
    Code.applied (r.abiItem [(Container.fixed length).wireName]) [r.wireType element]
  | .dynamicArray element =>
    Code.applied (r.abiItem [Container.dynamic.wireName]) [r.wireType element]

/-- The list type of the standard library. -/
def vecOf (element : List Token) : List Token :=
  Code.applied (Code.absolute ["std", "vec", "Vec"]) [element]

/-- The result type of the standard library. -/
def resultOf (value fault : List Token) : List Token :=
  Code.applied (Code.absolute ["core", "result", "Result"]) [value, fault]

def okOf (value : List Token) : List Token :=
  Code.call (Code.absolute ["core", "result", "Result", "Ok"]) [value]

def errOf (fault : List Token) : List Token :=
  Code.call (Code.absolute ["core", "result", "Result", "Err"]) [fault]

def nativeType (r : Renderer) : NativeType → List Token
  | .text => Code.absolute ["std", "string", "String"]
  | .bool => Code.word "bool"
  | .integer => r.item ["BigInt"]
  | .bytes => vecOf (Code.word "u8")
  | .list element => vecOf (r.nativeType element)

/-- The type that callers see for a parameter or an output. -/
def callerType (r : Renderer) (wire : WireType) (native : NativeType) : List Token :=
  if r.nativeTypes then r.nativeType native else r.wireType wire

/-- The wire type that a field's value has in a log. Of an indexed dynamic value only a digest of 32
bytes is there. -/
def loggedWire (wire : WireType) (indexed : Bool) : WireType :=
  if indexed && wire.isDynamic then .primitive (.fixedBytes 32) else wire

/-- The type that callers see for an event field. -/
def fieldType (r : Renderer) (wire : WireType) (indexed : Bool) (native : NativeType) :
    List Token :=
  r.callerType (loggedWire wire indexed) native

/-- The length of the outermost array, if its runtime type does not say it. -/
def boundedLength? (wire : WireType) : Option Nat :=
  match wire.container? with
  | some (.bounded length) => some length
  | _ => none

/-- The wire value of a caller's argument. -/
def wireValue (r : Renderer) (wire : WireType) (name : String) : List Token :=
  if r.nativeTypes then
    let type := Code.mark '<' :: r.wireType wire ++ Code.mark '>' :: Code.pathSep
    match boundedLength? wire with
    | some length =>
      Code.call (type ++ Code.word "bounded") [Code.numberOf length, Code.word name]
    | none => Code.call (type ++ Code.word "from") [Code.word name]
  else Code.word name

def flagOf (value : Bool) : List Token :=
  Code.word (if value then "true" else "false")

/-- A reference to a type as a value, which also says a length that its runtime type does not. -/
def typeReference (r : Renderer) (wire : WireType) (indexed : Bool) : List Token :=
  match boundedLength? wire with
  | some length =>
    Code.call (Code.instantiated (r.abiItem ["TypeReference", "bounded"]) [r.wireType wire])
      [Code.numberOf length, flagOf indexed]
  | none =>
    Code.call (Code.instantiated (r.abiItem ["TypeReference", "new"]) [r.wireType wire])
      [flagOf indexed]

/-- Documentation of an item, if it is wanted. -/
def doc (r : Renderer) (text : String) : List Token :=
  if r.emitDocs then [.doc (" " ++ text)] else []

end Renderer

/-- Fails with the first name that is no identifier. -/
def requireIdentifiers (names : List String) : Except BindingFault Unit :=
  match names.find? fun name => !Code.isPlain name with
  | some name => .error (.illegalName name)
  | none => .ok ()

end ContractBinder
