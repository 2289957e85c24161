/-!
Keccak-256: the permutation of 25 lanes of 64 bits and the sponge around it, with the padding that
starts with the byte `0x01`. Lane `5 * y + x` stands at column `x` and row `y`.
-/

namespace ContractBinder.Hash.Keccak

abbrev Lanes := Vector UInt64 25

/-- The next state of the feedback register of eight bits that the round constants come from. -/
def nextRegister (register : Nat) : Nat :=
  if register < 128 then 2 * register else (2 * register) ^^^ 0x171

/-- The register after a number of steps from one. -/
def registerAfter : Nat → Nat
  | 0 => 1
  | steps + 1 => nextRegister (registerAfter steps)

/-- The constant of a round: seven outputs of the register, at the places `2 ^ k - 1`. -/
def roundConstant (index : Nat) : UInt64 :=
  (List.range 7).foldl
    (fun constant k =>
      if registerAfter (7 * index + k) % 2 = 1 then
        constant ||| (1 <<< UInt64.ofNat (Nat.pow 2 k - 1))
      else constant)
    0

/-- The constants mixed into the first lane, one per round. -/
def roundConstants : List UInt64 :=
  (List.range 24).map roundConstant

/-- How far each lane is rotated. -/
def rotations : Vector UInt64 25 :=
  #v[0, 1, 62, 28, 27, 36, 44, 6, 55, 20, 3, 10, 43, 25, 39, 41, 45, 15, 21, 8, 18, 2, 61, 56, 14]

/-- Rotation of a lane toward its high end. -/
def rotate (lane distance : UInt64) : UInt64 :=
  if distance = 0 then lane else (lane <<< distance) ||| (lane >>> (64 - distance))

/-- The lane at a column and a row, both taken modulo 5. -/
def Lanes.at (lanes : Lanes) (x y : Nat) : UInt64 :=
  lanes[5 * (y % 5) + x % 5]

/-- Adds to every lane the parities of two neighbouring columns. -/
def theta (lanes : Lanes) : Lanes :=
  let parity : Vector UInt64 5 := .ofFn fun x =>
    lanes.at x 0 ^^^ lanes.at x 1 ^^^ lanes.at x 2 ^^^ lanes.at x 3 ^^^ lanes.at x 4
  .ofFn fun i =>
    let x := i.val % 5
    lanes[i] ^^^ (parity[(x + 4) % 5] ^^^ rotate parity[(x + 1) % 5] 1)

/-- Rotates every lane and moves it to its new place. -/
def rhoPi (lanes : Lanes) : Lanes :=
  .ofFn fun i =>
    let x := i.val % 5
    let y := i.val / 5
    rotate (lanes.at (x + 3 * y) x) (Lanes.at rotations (x + 3 * y) x)

/-- Combines every lane with its two right neighbours. -/
def chi (lanes : Lanes) : Lanes :=
  .ofFn fun i =>
    let x := i.val % 5
    let y := i.val / 5
    lanes[i] ^^^ (~~~ lanes.at (x + 1) y &&& lanes.at (x + 2) y)

def round (lanes : Lanes) (constant : UInt64) : Lanes :=
  let mixed := chi (rhoPi (theta lanes))
  mixed.set 0 (mixed[0] ^^^ constant)

/-- The permutation: all rounds in order. -/
def permute (lanes : Lanes) : Lanes :=
  roundConstants.foldl round lanes

/-- The number of message bytes taken in before each permutation. -/
def rate : Nat := 136

/-- A message filled up to whole blocks: a first and a last mark bit with zeros between. -/
def pad (message : List UInt8) : List UInt8 :=
  let missing := rate - message.length % rate
  if missing = 1 then message ++ [0x81]
  else message ++ [0x01] ++ List.replicate (missing - 2) 0 ++ [0x80]

/-- The lane that eight bytes spell, the low byte first. -/
def laneOfBytes (bytes : List UInt8) : UInt64 :=
  bytes.foldr (fun byte lane => (lane <<< 8) ||| byte.toUInt64) 0

/-- The bytes of a lane, the low byte first. -/
def bytesOfLane (lane : UInt64) : List UInt8 :=
  (List.range 8).map fun i => (lane >>> (8 * i).toUInt64).toUInt8

def absorb (lanes : Lanes) (block : List UInt8) : Lanes :=
  .ofFn fun i => lanes[i] ^^^ laneOfBytes ((block.drop (8 * i.val)).take 8)

/-- The first `count` blocks of a padded message, one after the other. -/
def blocks : Nat → List UInt8 → List (List UInt8)
  | 0, _ => []
  | count + 1, bytes => bytes.take rate :: blocks count (bytes.drop rate)

/-- The digest of a message, 32 bytes. -/
def digest (message : List UInt8) : List UInt8 :=
  let padded := pad message
  let final := (blocks (padded.length / rate) padded).foldl
    (fun lanes block => permute (absorb lanes block)) (Vector.replicate 25 0)
  (final.toList.take 4).flatMap bytesOfLane

end ContractBinder.Hash.Keccak
