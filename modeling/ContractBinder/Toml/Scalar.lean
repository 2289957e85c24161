import ContractBinder.Text.Digits
import ContractBinder.Toml.Document

/-!
TOML numbers, dates and times. Only where they end is found, and that they are not too large.
-/

namespace ContractBinder.Toml

/-- The digits that go on after a digit, with single underscores between digits left out. -/
def digitsAfter? (isDigit : Char → Bool) : List Char → Option (List Char × List Char)
  | '_' :: c :: rest =>
    if isDigit c then (digitsAfter? isDigit rest).map fun (digits, after) => (c :: digits, after)
    else none
  | ['_'] => none
  | c :: rest =>
    if isDigit c then (digitsAfter? isDigit rest).map fun (digits, after) => (c :: digits, after)
    else some ([], c :: rest)
  | [] => some ([], [])

/-- One or more digits, with single underscores between them left out. -/
def digits? (isDigit : Char → Bool) : List Char → Option (List Char × List Char)
  | [] => none
  | c :: rest =>
    if isDigit c then (digitsAfter? isDigit rest).map fun (digits, after) => (c :: digits, after)
    else none

/-- The whole part of a number: zero, or digits that do not start with one. -/
def whole? : List Char → Option (List Char × List Char)
  | '0' :: rest => some (['0'], rest)
  | text => digits? Char.isDigit text

/-- A sign if one comes first. The flag says that it is a minus. -/
def sign : List Char → Bool × List Char
  | '+' :: rest => (false, rest)
  | '-' :: rest => (true, rest)
  | text => (false, text)

/-- The greatest integer. Its negative is not the least one, which is smaller by one. -/
def maxInteger : Nat := UInt64.size / 2 - 1

/-- The places after a point, if there is a point. -/
def fraction? : List Char → Option (List Char × List Char)
  | '.' :: rest => digits? Char.isDigit rest
  | text => some ([], text)

/-- The exponent, if its letter comes first. -/
def exponent? (text : List Char) : Option (Int × List Char) :=
  let exponent (rest : List Char) : Option (Int × List Char) := do
    let (negative, unsigned) := sign rest
    let (digits, after) ← digits? Char.isDigit unsigned
    let value : Int := Text.decimalValue digits
    some (if negative then -value else value, after)
  match text with
  | 'e' :: rest => exponent rest
  | 'E' :: rest => exponent rest
  | _ => some (0, text)

/-- Whether `digits * 10 ^ exponent` is too large for a double, which is so from the number halfway
between the greatest double and the power of two above it. -/
def isTooLarge (digits : List Char) (exponent : Int) : Bool :=
  let significant := digits.dropWhile (· == '0')
  let magnitude : Int := significant.length + exponent
  if significant.isEmpty || magnitude < 309 then false
  else if 309 < magnitude then true
  else
    (Nat.pow 2 1024 - Nat.pow 2 970) * Nat.pow 10 (-exponent).toNat ≤
      Text.decimalValue significant * Nat.pow 10 exponent.toNat

/-- What follows an integer that is spelled in another base than ten. -/
def afterBased? (base : Nat) (isDigit : Char → Bool) (text : List Char) : Option (List Char) := do
  let (digits, rest) ← digits? isDigit text
  let values ← digits.mapM Text.hexValue?
  if Text.numberOfDigits base values ≤ maxInteger then some rest else none

/-- What follows a number in base ten. Negative numbers cannot be too large for a double. -/
def afterDecimal? (text : List Char) : Option (List Char) := do
  let (negative, unsigned) := sign text
  let (whole, afterWhole) ← whole? unsigned
  let (places, afterPlaces) ← fraction? afterWhole
  let (exponent, rest) ← exponent? afterPlaces
  if rest.length = afterWhole.length then
    let limit := if negative then maxInteger + 1 else maxInteger
    if Text.decimalValue whole ≤ limit then some rest else none
  else if !negative && isTooLarge (whole ++ places) (exponent - places.length) then none
  else some rest

def afterNumber? (text : List Char) : Option (List Char) :=
  match text with
  | '0' :: 'x' :: rest => afterBased? 16 (fun c => (Text.hexValue? c).isSome) rest
  | '0' :: 'o' :: rest => afterBased? 8 (fun c => '0' ≤ c && c ≤ '7') rest
  | '0' :: 'b' :: rest => afterBased? 2 (fun c => c == '0' || c == '1') rest
  | _ =>
    match (sign text).2 with
    | 'i' :: 'n' :: 'f' :: rest => some rest
    | 'n' :: 'a' :: 'n' :: rest => some rest
    | _ => afterDecimal? text

/-! ## Dates and times -/

/-- The number that decimal digits spell, if all are such. -/
def naturalOf? (digits : List Char) : Option Nat :=
  if digits.all Char.isDigit then some (Text.decimalValue digits) else none

def daysOf (year month : Nat) : Nat :=
  let isLeap := year % 4 = 0 ∧ (year % 100 ≠ 0 ∨ year % 400 = 0)
  if month = 2 then (if isLeap then 29 else 28)
  else if [4, 6, 9, 11].contains month then 30
  else 31

def afterDate? : List Char → Option (List Char)
  | y₁ :: y₂ :: y₃ :: y₄ :: '-' :: m₁ :: m₂ :: '-' :: d₁ :: d₂ :: rest => do
    let year ← naturalOf? [y₁, y₂, y₃, y₄]
    let month ← naturalOf? [m₁, m₂]
    let day ← naturalOf? [d₁, d₂]
    if 1 ≤ month && month ≤ 12 && 1 ≤ day && day ≤ daysOf year month then some rest else none
  | _ => none

def afterMinutes? : List Char → Option (List Char)
  | h₁ :: h₂ :: ':' :: m₁ :: m₂ :: rest => do
    let hour ← naturalOf? [h₁, h₂]
    let minute ← naturalOf? [m₁, m₂]
    if hour < 24 && minute < 60 then some rest else none
  | _ => none

/-- What follows a time. A minute may have a leap second, and a second may have places. -/
def afterTime? (text : List Char) : Option (List Char) := do
  match ← afterMinutes? text with
  | ':' :: s₁ :: s₂ :: rest =>
    let second ← naturalOf? [s₁, s₂]
    if 60 < second then none
    else
      match rest with
      | '.' :: c :: places => if c.isDigit then some (places.dropWhile Char.isDigit) else some rest
      | _ => some rest
  | _ => none

/-- What follows the offset of a time from the universal one, if there is an offset. -/
def afterOffset (text : List Char) : List Char :=
  match text with
  | 'Z' :: rest => rest
  | 'z' :: rest => rest
  | '+' :: rest => (afterMinutes? rest).getD text
  | '-' :: rest => (afterMinutes? rest).getD text
  | _ => text

/-- What follows a time behind a date, if there is one. -/
def afterTimeOfDay (text : List Char) : List Char :=
  match text with
  | c :: rest =>
    if c == 'T' || c == 't' || c == ' ' then ((afterTime? rest).map afterOffset).getD text else text
  | [] => []

/-- What follows a date, a time, or both. -/
def afterMoment? (text : List Char) : Option (List Char) :=
  match afterDate? text with
  | some rest => some (afterTimeOfDay rest)
  | none => afterTime? text

/-- A number, a date or a time, and what follows it. -/
def scalar? (text : List Char) : Option (Toml × List Char) :=
  match afterMoment? text with
  | some rest => some (.moment, rest)
  | none => (afterNumber? text).map fun rest => (.number, rest)

end ContractBinder.Toml
