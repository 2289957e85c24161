import ContractBinder.Binding.Function
import ContractBinder.Render.Types

/-!
The rendered method of a function: it encodes its parameters, calls the contract in the function's
shape, and names the types of the outputs.
-/

namespace ContractBinder

open Code (Token)

/-- The message of the failure of methods that read nothing. -/
def noReturnValueMessage : String :=
  "cannot call constant function with void return type"

namespace FunctionBinding

def identifiers (function : FunctionBinding) : List String :=
  function.methodName :: function.constantName ::
    (function.inputs.map Argument.name ++ function.valueParam.toList)

def docText (function : FunctionBinding) : String :=
  let calling (action : String) : String :=
    action ++ " `" ++ function.signature ++ "` (selector `" ++
      Hash.prefixedHex function.selector ++ "`)."
  match function.shape with
  | .transaction | .transactionPayable => calling "Submits a transaction calling"
  | .constantVoid =>
    "`" ++ function.signature ++ "` has no outputs; always fails (" ++ noReturnValueMessage ++ ")."
  | .constantSingle | .constantRawCollection | .constantTuple _ => calling "Calls"

end FunctionBinding

namespace Renderer

/-- The parameters of a method with their types: the inputs, then the value to transfer. -/
def parameters (r : Renderer) (function : FunctionBinding) : List (List Token) :=
  (function.inputs.map fun input => Code.typed input.name (r.callerType input.wire input.native)) ++
    function.valueParam.toList.map fun name => Code.typed name (r.item ["BigInt"])

def encodedInputs (r : Renderer) (function : FunctionBinding) : List (List Token) :=
  function.inputs.map fun input =>
    Code.call (r.abiItem ["Token", "from"]) [r.wireValue input.wire input.name]

def outputReferences (r : Renderer) (function : FunctionBinding) : List (List Token) :=
  function.outputs.map fun output => r.typeReference output.wire false

/-- The function as a value: its name, the encoded inputs, and the types of the outputs. -/
def functionValue (r : Renderer) (function : FunctionBinding) : List Token :=
  Code.call (r.abiItem ["Function", "new"])
    [Code.word function.constantName, Code.listOf (r.encodedInputs function),
     Code.listOf (r.outputReferences function)]

/-- A call of one of the contract's own methods. -/
def contractCall (method : List Token) (arguments : List (List Token)) : List Token :=
  Code.call (Code.dot (Code.word "self") "contract" ++ Code.mark '.' :: method) arguments

/-- The name that the method's body gives to the function as a value. -/
def functionLocal : List Token :=
  Code.word "function"

/-- The values of several outputs, each read by its position. -/
def tupleValues (types : List (List Token)) : List (List Token) :=
  types.mapIdx fun position type =>
    Code.attempted (Code.call (Code.instantiated (Code.dot (Code.word "results") "value") [type])
      [Code.numberOf position])

def tupleOf (components : List (List Token)) : List Token :=
  Code.enclose .paren (Code.commaSeparated components)

/-- What a method promises to return, and the call that returns it. Methods without outputs have
none. -/
def remoteCall (r : Renderer) (function : FunctionBinding) :
    Except BindingFault (Option (List Token × List Token)) :=
  match function.shape with
  | .constantVoid => .ok none
  | .transaction =>
    .ok (some (r.item ["TransactionReceipt"],
      contractCall (Code.word "execute_remote_call_transaction") [functionLocal]))
  | .transactionPayable =>
    .ok (some (r.item ["TransactionReceipt"],
      contractCall (Code.word "execute_remote_call_transaction_with_value")
        [functionLocal, Code.word (function.valueParam.getD valueParamName)]))
  | .constantRawCollection =>
    .ok (some (vecOf (r.item ["NativeValue"]),
      contractCall (Code.word "execute_remote_call_raw_list") [functionLocal]))
  | .constantSingle => do
    let output ← function.singleOutput
    let exposed := r.callerType output.wire output.native
    return some (exposed,
      contractCall
        (Code.instantiated (Code.word "execute_remote_call_single_value_return")
          [r.wireType output.wire, exposed])
        [functionLocal])
  | .constantTuple _ =>
    let types := function.outputs.map fun output => r.callerType output.wire output.native
    .ok (some (tupleOf types,
      contractCall (Code.word "execute_remote_call_multiple_value_return")
        [functionLocal, Code.closure (Code.word "results") (okOf (tupleOf (tupleValues types)))]))

/-- The method of a function, if its names are identifiers. -/
def methodTokens (r : Renderer) (function : FunctionBinding)
    (remote : Option (List Token × List Token)) : List Token :=
  let receiving := Code.receiver ++ Code.commaSeparated (r.parameters function)
  r.doc function.docText ++
    match remote with
    | none =>
      Code.attributeOf (Code.call (Code.word "allow") [Code.word "unused_variables"]) ++
        Code.methodOf function.methodName receiving
          (resultOf (tupleOf []) (r.item ["ContractError"]))
          (errOf (r.item ["ContractError", "NoReturnValue"] ++
            Code.block (Code.typed "function" (Code.word function.constantName))))
    | some (returned, call) =>
      Code.methodOf function.methodName receiving
        (Code.applied (r.item ["RemoteCall"]) [returned])
        (Code.binding functionLocal (r.functionValue function) ++ call)

def renderFunction (r : Renderer) (function : FunctionBinding) :
    Except BindingFault (List Token) := do
  requireIdentifiers function.identifiers
  let remote ← r.remoteCall function
  return r.methodTokens function remote

end Renderer

end ContractBinder
