/-!
Doubles as decimals: the fewest digits that read back to the same double, and the nearest to it
among those. The search goes from coarse decimal grids to fine ones and takes the first grid on
which a neighbour of the value reads back.
-/

namespace ContractBinder.Json

/-- A positive double as `significand * 2 ^ exponent`. At a boundary the double below it is nearer
than the one above it. -/
structure Binary where
  significand : Nat
  exponent : Int
  boundary : Bool
  deriving DecidableEq, Repr

/-- The magnitude of the double with the given bits. -/
def Binary.ofBits (bits : UInt64) : Binary :=
  let fraction : Nat := bits.toNat % (1 <<< 52)
  let biased : Nat := (bits.toNat >>> 52) % (1 <<< 11)
  if biased = 0 then ⟨fraction, -1074, false⟩
  else ⟨(1 <<< 52) + fraction, (biased : Int) - 1075, fraction = 0 && biased > 1⟩

/-- A positive decimal `digits * 10 ^ exponent`. -/
structure Decimal where
  digits : Nat
  exponent : Int
  deriving DecidableEq, Repr

/-- The decimal with the given exponent that reads back to `x`, if a neighbour of `x` does. The
ends of the interval of numbers that read back belong to it if the significand is even. -/
def Binary.onGrid? (x : Binary) (exponent : Int) : Option Decimal :=
  let two := x.exponent - 2
  let scale := Nat.pow 2 two.toNat * Nat.pow 10 (-exponent).toNat
  let unit := Nat.pow 10 exponent.toNat * Nat.pow 2 (-two).toNat
  let value := 4 * x.significand * scale
  let low := (4 * x.significand - (if x.boundary then 1 else 2)) * scale
  let high := (4 * x.significand + 2) * scale
  let inside (digits : Nat) : Bool :=
    0 < digits &&
      if x.significand % 2 = 0 then low ≤ digits * unit && digits * unit ≤ high
      else low < digits * unit && digits * unit < high
  let down := value / unit
  let up := down + 1
  let upNearer := up * unit - value < value - down * unit ∨
    up * unit - value = value - down * unit ∧ down % 2 = 1
  if inside down && inside up then some ⟨if upNearer then up else down, exponent⟩
  else if inside down then some ⟨down, exponent⟩
  else if inside up then some ⟨up, exponent⟩
  else none

/-- The shortest decimal that reads back to a positive double. -/
def Binary.shortest (x : Binary) : Decimal :=
  ((List.range 660).findSome? fun (step : Nat) => x.onGrid? (310 - (step : Int))).getD ⟨0, 0⟩

/-- A decimal in positional form if its leading digit stands for a power of ten between the minus
fifth and the fifteenth, else with an exponent. Positional numbers have a point. -/
def Decimal.layout (x : Decimal) : String :=
  let digits := Nat.toDigits 10 x.digits
  let leading : Int := (digits.length : Int) - 1 + x.exponent
  let zeros (count : Int) : List Char := List.replicate count.toNat '0'
  String.ofList <|
    if -5 ≤ leading && leading ≤ 15 then
      if 0 ≤ x.exponent then digits ++ zeros x.exponent ++ ['.', '0']
      else if 0 ≤ leading then
        digits.take (leading + 1).toNat ++ ['.'] ++ digits.drop (leading + 1).toNat
      else ['0', '.'] ++ zeros (-leading - 1) ++ digits
    else
      digits.take 1 ++ (if digits.length = 1 then [] else '.' :: digits.drop 1) ++
        ['e', if 0 ≤ leading then '+' else '-'] ++ Nat.toDigits 10 leading.natAbs

/-- The text of the finite double with the given bits. -/
def renderDouble (bits : UInt64) : String :=
  let magnitude := Binary.ofBits bits
  (if bits.toNat < 1 <<< 63 then "" else "-") ++
    if magnitude.significand = 0 then "0.0" else magnitude.shortest.layout

end ContractBinder.Json
