import ContractBinder.Code.Grammar.Reader

/-!
Reading the members of values, which have names or positions. Two positions with a point between
them look like a number with a fraction.
-/

namespace ContractBinder.Code.Grammar

open Reader

/-- The value of a digit, which may be too large for the base of its number. -/
def digitValue? (base : Nat) (c : Char) : Option Nat :=
  if c.isDigit then some (c.toNat - 0x30)
  else if base ≤ 10 then none
  else if 'a' ≤ c && c ≤ 'f' then some (c.toNat - 0x57)
  else if 'A' ≤ c && c ≤ 'F' then some (c.toNat - 0x37)
  else none

/-- Whether what follows the letter of an exponent makes it one. -/
def continuesExponent (digits : Bool) : List Char → Bool
  | [] => digits
  | '_' :: rest => continuesExponent digits rest
  | c :: rest =>
    if c = '+' || c = '-' then true
    else if c.isDigit then continuesExponent true rest
    else digits

/-- The value of a whole number and its suffix. Numbers with a fraction or an exponent have none. -/
def wholeFrom (base value : Nat) (digits : Bool) : List Char → Option (Nat × List Char)
  | [] => if digits then some (value, []) else none
  | c :: rest =>
    if c = '_' then wholeFrom base value digits rest
    else
      match digitValue? base c with
      | some digit =>
        if digit < base then wholeFrom base (base * value + digit) true rest else none
      | none =>
        let fraction := c = '.' || (c = 'e' || c = 'E') && continuesExponent false rest
        if base = 10 && fraction || !digits then none else some (value, c :: rest)

/-- The value of a whole number and its suffix. -/
def whole? (spelling : List Char) : Option (Nat × List Char) :=
  match spelling with
  | '0' :: 'x' :: rest => wholeFrom 16 0 false rest
  | '0' :: 'o' :: rest => wholeFrom 8 0 false rest
  | '0' :: 'b' :: rest => wholeFrom 2 0 false rest
  | _ => wholeFrom 10 0 false spelling

def upcomingNumber : Reader (Option (List Char)) := do
  match ← upcoming with
  | .number value :: _ => return some (Nat.repr value).toList
  | .literal spelling :: _ => return if startsDigit spelling then some spelling.toList else none
  | _ => return none

/-- The largest position of a member. -/
def maxPosition : Nat := UInt32.size - 1

/-- Writes a position in its plain spelling. -/
def writePosition (spelling : List Char) : Reader Unit :=
  match whole? spelling with
  | none => throw (.missing "integer literal" false)
  | some (value, suffix) =>
    if !suffix.isEmpty then throw (.missing "unsuffixed integer" false)
    else if maxPosition < value then forbid .largePosition
    else write [.number value]

/-- Positions with points between them. -/
def writePositions : List (List Char) → Reader Unit
  | [] => return
  | [last] => writePosition last
  | position :: rest => do
    writePosition position
    write [mark '.']
    writePositions rest

/-- Takes positions that look like a number with a fraction. Says whether a member was complete;
after a point at the end, another position or a name follows. -/
def acceptPositions : Reader Bool := do
  match ← upcomingNumber with
  | none => return false
  | some spelling =>
    if (whole? spelling).isSome then return false
    else
      continueWith ((← upcoming).drop 1)
      match (spelling.splitOn '.').reverse with
      | [] :: others =>
        writePositions others.reverse
        write [mark '.']
        return false
      | _ =>
        writePositions (spelling.splitOn '.')
        return true

/-- The name or the position of a member. Says whether it is a name. -/
def member : Reader Bool := do
  if ← accept .name then return true
  else
    match ← upcomingNumber with
    | none => missing "identifier or integer"
    | some spelling =>
      if (whole? spelling).isNone then missing "identifier or integer"
      else
        continueWith ((← upcoming).drop 1)
        writePosition spelling
        return false

end ContractBinder.Code.Grammar
