import ContractBinder.Abi.NativeType
import ContractBinder.Binding.Parameters
import ContractBinder.Binding.Signature
import ContractBinder.Logged
import ContractBinder.Naming.Items

/-!
What is generated for one function: a method that calls it in one of a few shapes.
Main statement: `FunctionBinding.ofEntry` fails only if a type cannot be resolved, inputs before
outputs.
-/

namespace ContractBinder

open Abi (Entry Mutability NativeType Parameter TypeNode WireType)

inductive CallShape where
  /-- A transaction. -/
  | transaction
  /-- A transaction that also transfers value. -/
  | transactionPayable
  /-- A reading call without outputs, which always fails. -/
  | constantVoid
  /-- A reading call with one output. -/
  | constantSingle
  /-- A reading call with one array as output, whose elements are returned without their types. -/
  | constantRawCollection
  /-- A reading call with several outputs. -/
  | constantTuple (count : Nat)
  deriving DecidableEq, Repr

namespace CallShape

def select (mutability : Mutability) (outputs : List WireType) : CallShape :=
  if mutability = .payable then .transactionPayable
  else if !mutability.isReadOnly then .transaction
  else
    match outputs with
    | [] => .constantVoid
    | [output] => if output.isArray then .constantRawCollection else .constantSingle
    | several => .constantTuple several.length

def isTransaction : CallShape → Bool
  | transaction | transactionPayable => true
  | _ => false

/-- The name of a shape in messages. -/
def title : CallShape → String
  | transaction => "Transaction"
  | transactionPayable => "TransactionPayable"
  | constantVoid => "ConstantVoid"
  | constantSingle => "ConstantSingle"
  | constantRawCollection => "ConstantRawCollection"
  | constantTuple count => "ConstantTuple(" ++ Nat.repr count ++ ")"

end CallShape

inductive ReturnType where
  | transactionReceipt
  | noReturnValue
  | native (type : NativeType)
  | rawList
  | tuple (types : List NativeType)
  deriving DecidableEq, Repr

structure Argument where
  name : String
  wire : WireType
  native : NativeType
  projects : (TypeNode.whole wire).project = .ok native
  deriving DecidableEq, Repr

structure Output where
  wire : WireType
  native : NativeType
  projects : (TypeNode.whole wire).project = .ok native
  deriving DecidableEq, Repr

def Argument.ofParameter (name : String) (parameter : Parameter) :
    Except BindingFault Argument := do
  let wire ← BindingFault.resolve parameter.declaredType
  let ⟨native, projects⟩ ← projection (TypeNode.whole wire).project
  return { name, wire, native, projects }

def Output.ofParameter (parameter : Parameter) : Except BindingFault Output := do
  let wire ← BindingFault.resolve parameter.declaredType
  let ⟨native, projects⟩ ← projection (TypeNode.whole wire).project
  return { wire, native, projects }

structure FunctionBinding where
  /-- The function's literal name. -/
  name : String
  methodName : String
  /-- The constant that holds the literal name. -/
  constantName : String
  signature : String
  /-- The four bytes that address the function. -/
  selector : List UInt8
  mutability : Mutability
  inputs : List Argument
  outputs : List Output
  shape : CallShape
  /-- The parameter for the value to transfer. -/
  valueParam : Option String
  signature_eq : signature = canonicalSignature name (inputs.map Argument.wire)
  selector_eq : selector = selectorOf signature
  deriving DecidableEq, Repr

/-- The name of the value parameter, unless an input has it. -/
def valueParamName : String := "wei_value"

namespace FunctionBinding

/-- The only output, for the shapes that return one value. -/
def singleOutput (function : FunctionBinding) : Except BindingFault Output :=
  match function.outputs with
  | [output] => .ok output
  | outputs => .error (.render (.outputCount function.signature outputs.length))

def returnType (function : FunctionBinding) : Except BindingFault ReturnType :=
  match function.shape with
  | .transaction | .transactionPayable => .ok .transactionReceipt
  | .constantVoid => .ok .noReturnValue
  | .constantSingle => function.singleOutput.map fun output => .native output.native
  | .constantRawCollection => .ok .rawList
  | .constantTuple _ => .ok (.tuple (function.outputs.map Output.native))

/-- A name for the value parameter that no input has. -/
def valueParamFor (inputNames : List String) : String :=
  ((Naming.Registry.empty.reserveAll inputNames).unique valueParamName).1

def ofParts (entry : Entry) (inputs : List Argument) (outputs : List Output) : FunctionBinding :=
  let shape := CallShape.select entry.mutability (outputs.map Output.wire)
  let signature := canonicalSignature entry.name (inputs.map Argument.wire)
  { name := entry.name
    methodName := Naming.methodName entry.name
    constantName := Naming.functionConstant entry.name
    signature
    selector := selectorOf signature
    mutability := entry.mutability
    inputs
    outputs
    shape
    valueParam :=
      if shape = .transactionPayable then some (valueParamFor (inputs.map Argument.name)) else none
    signature_eq := rfl
    selector_eq := rfl }

def ofEntry (entry : Entry) : Except BindingFault FunctionBinding := do
  let inputs ← makeEach [] Argument.ofParameter entry.inputs
  let outputs ← entry.outputs.mapM Output.ofParameter
  return ofParts entry inputs outputs

end FunctionBinding

/-- Whether a function returns values that a transaction does not pass on. -/
def losesOutputs (entry : Entry) : Bool :=
  !entry.outputs.isEmpty && !entry.mutability.isReadOnly

/-- The warning about a function whose outputs are lost. -/
def lostOutputsWarning (name : String) : String :=
  "Definition of the function " ++ name ++
    " returns a value but is not defined as a view function. " ++
    "Please ensure it contains the view modifier if you want to read the return value"

/-- What is said about a function that is generated. -/
def FunctionBinding.records (entry : Entry) (function : FunctionBinding) : List Record :=
  (if losesOutputs entry then [⟨.warning, lostOutputsWarning entry.name⟩] else []) ++
    [⟨.debug, "Synthesized " ++ function.signature ++ " as " ++ function.shape.title⟩]

/-- Makes what is generated for a function, and warns if outputs are lost. -/
def FunctionBinding.synthesize (entry : Entry) : Logged BindingFault FunctionBinding :=
  match FunctionBinding.ofEntry entry with
  | .ok function => ⟨function.records entry, .ok function⟩
  | .error fault => .failure fault

end ContractBinder
