/-!
Bytes in lowercase hexadecimal.
-/

namespace ContractBinder.Hash

def hexDigit (n : Nat) : Char :=
  Nat.digitChar n

/-- Two digits per byte, the high one first. -/
def hexOfBytes (bytes : List UInt8) : String :=
  String.ofList (bytes.flatMap fun byte => [hexDigit (byte.toNat / 16), hexDigit (byte.toNat % 16)])

/-- Hexadecimal with the mark `0x` in front. -/
def prefixedHex (bytes : List UInt8) : String :=
  "0x" ++ hexOfBytes bytes

example : prefixedHex [0xa9, 0x05] = "0xa905" := by decide

end ContractBinder.Hash
