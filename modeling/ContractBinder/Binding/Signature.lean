import ContractBinder.Abi.WireType
import ContractBinder.Hash.Hex
import ContractBinder.Hash.Keccak

/-!
Canonical signatures, and the digests by which a contract's functions and events are addressed.
-/

namespace ContractBinder

/-- A name with its parameter types in canonical spelling, such as `transfer(address,uint256)`. -/
def canonicalSignature (name : String) (types : List Abi.WireType) : String :=
  name ++ "(" ++ ",".intercalate (types.map Abi.WireType.canonical) ++ ")"

def signatureDigest (signature : String) : List UInt8 :=
  Hash.Keccak.digest signature.toUTF8.toList

/-- The first four bytes of the digest, which address a function. -/
def selectorOf (signature : String) : List UInt8 :=
  (signatureDigest signature).take 4

end ContractBinder
