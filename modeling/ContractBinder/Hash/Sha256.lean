/-!
SHA-256: padding to blocks of 64 bytes, the message schedule, and the compression of the chaining
state of eight words.
-/

namespace ContractBinder.Hash.Sha256

abbrev Words := Vector UInt32 8

/-- The additive constants, one per round. -/
def roundConstants : List UInt32 :=
  [0x428a2f98, 0x71374491, 0xb5c0fbcf, 0xe9b5dba5, 0x3956c25b, 0x59f111f1, 0x923f82a4, 0xab1c5ed5,
   0xd807aa98, 0x12835b01, 0x243185be, 0x550c7dc3, 0x72be5d74, 0x80deb1fe, 0x9bdc06a7, 0xc19bf174,
   0xe49b69c1, 0xefbe4786, 0x0fc19dc6, 0x240ca1cc, 0x2de92c6f, 0x4a7484aa, 0x5cb0a9dc, 0x76f988da,
   0x983e5152, 0xa831c66d, 0xb00327c8, 0xbf597fc7, 0xc6e00bf3, 0xd5a79147, 0x06ca6351, 0x14292967,
   0x27b70a85, 0x2e1b2138, 0x4d2c6dfc, 0x53380d13, 0x650a7354, 0x766a0abb, 0x81c2c92e, 0x92722c85,
   0xa2bfe8a1, 0xa81a664b, 0xc24b8b70, 0xc76c51a3, 0xd192e819, 0xd6990624, 0xf40e3585, 0x106aa070,
   0x19a4c116, 0x1e376c08, 0x2748774c, 0x34b0bcb5, 0x391c0cb3, 0x4ed8aa4a, 0x5b9cca4f, 0x682e6ff3,
   0x748f82ee, 0x78a5636f, 0x84c87814, 0x8cc70208, 0x90befffa, 0xa4506ceb, 0xbef9a3f7, 0xc67178f2]

/-- The state before the first block. -/
def initial : Words :=
  #v[0x6a09e667, 0xbb67ae85, 0x3c6ef372, 0xa54ff53a, 0x510e527f, 0x9b05688c, 0x1f83d9ab, 0x5be0cd19]

/-- Rotation of a word toward its low end. -/
def rotate (word distance : UInt32) : UInt32 :=
  (word >>> distance) ||| (word <<< (32 - distance))

/-- The schedule's mix of the word 15 places back. -/
def lowSigma0 (w : UInt32) : UInt32 := rotate w 7 ^^^ rotate w 18 ^^^ (w >>> 3)

/-- The schedule's mix of the word 2 places back. -/
def lowSigma1 (w : UInt32) : UInt32 := rotate w 17 ^^^ rotate w 19 ^^^ (w >>> 10)

/-- The round's mix of the first state word. -/
def bigSigma0 (w : UInt32) : UInt32 := rotate w 2 ^^^ rotate w 13 ^^^ rotate w 22

/-- The round's mix of the fifth state word. -/
def bigSigma1 (w : UInt32) : UInt32 := rotate w 6 ^^^ rotate w 11 ^^^ rotate w 25

/-- The bytes of a number, the high byte first. -/
def bytesOfNat (count n : Nat) : List UInt8 :=
  (List.range count).reverse.map fun i => (n >>> (8 * i)).toUInt8

/-- The word that four bytes spell, the high byte first. -/
def wordOfBytes (bytes : List UInt8) : UInt32 :=
  bytes.foldl (fun word byte => (word <<< 8) ||| byte.toUInt32) 0

/-- A message with a mark bit, zeros, and its length in bits. -/
def pad (message : List UInt8) : List UInt8 :=
  let zeros := (119 - message.length % 64) % 64
  message ++ [0x80] ++ List.replicate zeros 0 ++ bytesOfNat 8 (8 * message.length % UInt64.size)

/-- The words of the schedule as an array that grows by `count` words. -/
def extendSchedule : Nat → Array UInt32 → Array UInt32
  | 0, words => words
  | count + 1, words =>
    let back (distance : Nat) := words.getD (words.size - distance) 0
    extendSchedule count
      (words.push (back 16 + lowSigma0 (back 15) + back 7 + lowSigma1 (back 2)))

/-- The 64 words of a block's schedule. -/
def schedule (block : List UInt8) : List UInt32 :=
  let direct := (List.range 16).map fun i => wordOfBytes ((block.drop (4 * i)).take 4)
  (extendSchedule 48 direct.toArray).toList

/-- One round with the sum of its constant and its schedule word. -/
def round (s : Words) (addend : UInt32) : Words :=
  let choice := (s[4] &&& s[5]) ^^^ (~~~ s[4] &&& s[6])
  let first := s[7] + bigSigma1 s[4] + choice + addend
  let majority := (s[0] &&& s[1]) ^^^ (s[0] &&& s[2]) ^^^ (s[1] &&& s[2])
  #v[first + (bigSigma0 s[0] + majority), s[0], s[1], s[2], s[3] + first, s[4], s[5], s[6]]

def compress (state : Words) (block : List UInt8) : Words :=
  let addends := List.zipWith (· + ·) roundConstants (schedule block)
  Vector.zipWith (· + ·) state (addends.foldl round state)

/-- The first `count` blocks of a padded message. -/
def blocks : Nat → List UInt8 → List (List UInt8)
  | 0, _ => []
  | count + 1, bytes => bytes.take 64 :: blocks count (bytes.drop 64)

/-- The digest of a message, 32 bytes. -/
def digest (message : List UInt8) : List UInt8 :=
  let padded := pad message
  let final := (blocks (padded.length / 64) padded).foldl compress initial
  final.toList.flatMap fun word => bytesOfNat 4 word.toNat

end ContractBinder.Hash.Sha256
