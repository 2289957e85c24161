import ContractBinder.Abi.Document
import ContractBinder.Abi.Grammar

/-!
Why no bindings come out of an ABI.
-/

namespace ContractBinder

inductive JsonCause where
  | malformed (fault : Json.SyntaxFault)
  | shape (fault : Abi.ShapeFault)
  deriving Repr

inductive RenderCause where
  /-- A function that should return one value has another number of outputs. -/
  | outputCount (signature : String) (count : Nat)
  /-- The rendered module does not parse as code, as the runtime path does not fit everywhere. -/
  | unparsable (message : String)
  deriving DecidableEq, Repr

/-- Why no bindings come out of an ABI. -/
inductive BindingFault where
  | invalidType (declared : String) (cause : Abi.TypeFault)
  | unsupportedType (name : String)
  | notEntries
  | unknownMutability (word : String)
  | invalidRuntimePath (path : String)
  | render (cause : RenderCause)
  | inEntry (entry : String) (source : BindingFault)
  | json (cause : JsonCause)
  /-- A name that reached the rendered code is no identifier. Names that consist of an identifier
  and comments are kept, so this can happen. -/
  | illegalName (name : String)
  deriving Repr

def JsonCause.message : JsonCause → String
  | malformed fault => fault.message
  | shape fault => fault.message

def RenderCause.message : RenderCause → String
  | outputCount signature count =>
    "`" ++ signature ++ "` has " ++ Nat.repr count ++ " outputs but a single-value call shape"
  | unparsable message => "generated code does not parse: " ++ message

namespace BindingFault

def message : BindingFault → String
  | invalidType declared cause => "Invalid ABI type `" ++ declared ++ "`: " ++ cause.message
  | unsupportedType name => "No native mapping for wire type `" ++ name ++ "`"
  | notEntries => "Invalid ABI: expected a JSON array or an artifact with an `abi` array"
  | unknownMutability word => "Invalid ABI: unknown stateMutability `" ++ word ++ "`"
  | invalidRuntimePath path => "Invalid runtime path `" ++ path ++ "`"
  | render cause => "Failed to render bindings: " ++ cause.message
  | inEntry entry source => "Failed to translate ABI entry `" ++ entry ++ "`: " ++ source.message
  | json cause => "JSON error: " ++ cause.message
  | illegalName name => "`" ++ name ++ "` is not a valid identifier"

/-- The wording of a fault and of the causes that it names apart from itself. -/
def chain : BindingFault → List String
  | inEntry entry source => (inEntry entry source).message :: source.chain
  | json cause => [(json cause).message, cause.message]
  | other => [other.message]

/-- Whether the program ends at once: a name in the rendered code is no identifier. -/
def isAbrupt : BindingFault → Bool
  | illegalName _ => true
  | inEntry _ source => source.isAbrupt
  | _ => false

def ofDocument : Abi.DocumentFault → BindingFault
  | .notEntries => notEntries
  | .unknownMutability word => unknownMutability word
  | .shape fault => json (.shape fault)

def resolve (declared : String) : Except BindingFault Abi.WireType :=
  (Abi.WireType.parse declared).mapError (invalidType declared)

end BindingFault

end ContractBinder
