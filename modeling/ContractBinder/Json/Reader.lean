import ContractBinder.Json.Value
import ContractBinder.Text.Digits

/-!
Reading JSON texts. A fault is found at a place, which is counted in lines and in bytes of the line.
Main statement: `Json.parse` reads one value and nothing else but blanks around it.
-/

namespace ContractBinder.Json

inductive SyntaxCause where
  | listEnds
  | objectEnds
  | stringEnds
  | valueEnds
  | missingColon
  | missingListComma
  | missingObjectComma
  | unknownWord
  | missingValue
  | invalidEscape
  | invalidNumber
  | numberTooLarge
  | controlCharacter
  | keyNotString
  | loneSurrogate
  | surrogateNotFollowed
  | trailingComma
  | trailingCharacters
  | tooDeep
  deriving DecidableEq, Repr

def SyntaxCause.message : SyntaxCause → String
  | listEnds => "EOF while parsing a list"
  | objectEnds => "EOF while parsing an object"
  | stringEnds => "EOF while parsing a string"
  | valueEnds => "EOF while parsing a value"
  | missingColon => "expected `:`"
  | missingListComma => "expected `,` or `]`"
  | missingObjectComma => "expected `,` or `\x7d`"
  | unknownWord => "expected ident"
  | missingValue => "expected value"
  | invalidEscape => "invalid escape"
  | invalidNumber => "invalid number"
  | numberTooLarge => "number out of range"
  | controlCharacter => "control character (\\u0000-\\u001F) found while parsing a string"
  | keyNotString => "key must be a string"
  | loneSurrogate => "lone leading surrogate in hex escape"
  | surrogateNotFollowed => "unexpected end of hex escape"
  | trailingComma => "trailing comma"
  | trailingCharacters => "trailing characters"
  | tooDeep => "recursion limit exceeded"

/-- A cause, and the number of bytes from its place to the end of the text. -/
structure Stop where
  cause : SyntaxCause
  remaining : Nat
  deriving DecidableEq, Repr

/-- A cause and its place: the line counts from one, the column is the number of bytes of the line
up to and with the place. -/
structure SyntaxFault where
  cause : SyntaxCause
  line : Nat
  column : Nat
  deriving DecidableEq, Repr

def SyntaxFault.message (fault : SyntaxFault) : String :=
  fault.cause.message ++ " at line " ++ Nat.repr fault.line ++ " column " ++ Nat.repr fault.column

def byteCount (text : List Char) : Nat :=
  text.foldl (fun count c => count + c.utf8Size) 0

def faultAt {α : Type} (cause : SyntaxCause) (rest : List Char) : Except Stop α :=
  .error ⟨cause, byteCount rest⟩

/-- A fault at the first byte of the given rest, or at its end if it is empty. -/
def faultOn {α : Type} (cause : SyntaxCause) (rest : List Char) : Except Stop α :=
  .error ⟨cause, byteCount rest - 1⟩

def isJsonBlank (c : Char) : Bool :=
  c == ' ' || c == '\n' || c == '\t' || c == '\r'

def skipBlanks (text : List Char) : List Char :=
  text.dropWhile isJsonBlank

/-- Reads the rest of a word whose first letter is taken. A fault is behind the first byte of the
wrong character. -/
def readWord (value : Json) : List Char → List Char → Except Stop (Json × List Char)
  | [], text => .ok (value, text)
  | _ :: _, [] => faultAt .valueEnds []
  | wanted :: others, c :: rest =>
    if c = wanted then readWord value others rest else faultOn .unknownWord (c :: rest)

/-! ## Numbers -/

/-- The greatest number that is kept exactly. -/
def maxNatural : Nat := UInt64.size - 1

/-- Takes digits into a significand as long as it stays exact, and counts them. -/
def readSignificand (significand count : Nat) : List Char → Nat × Nat × List Char
  | [] => (significand, count, [])
  | c :: rest =>
    if c.isDigit then
      let next := 10 * significand + Text.digitValue c
      if next ≤ maxNatural then readSignificand next (count + 1) rest
      else (significand, count, c :: rest)
    else (significand, count, c :: rest)

/-- The double nearest to `significand * 10 ^ exponent` that a multiplication or division with one
power of ten reaches, after steps of 308 while the exponent is below all powers. There is none if
the number is too large. -/
def scale? (significand : Nat) (exponent : Int) : Option Float :=
  let start := Float.ofNat significand
  if 308 < exponent then if start == 0.0 then some start else none
  else if 0 ≤ exponent then
    let scaled := start * Float.ofScientific 1 false exponent.toNat
    if scaled.isInf then none else some scaled
  else
    let magnitude := exponent.natAbs
    let steps := if magnitude ≤ 308 then 0 else (magnitude - 309) / 308 + 1
    let divided := (List.range (min steps 4)).foldl
      (fun x _ => x / Float.ofScientific 1 false 308) start
    if divided == 0.0 then some divided
    else some (divided / Float.ofScientific 1 false (magnitude - 308 * steps))

def scaledNumber (positive : Bool) (significand : Nat) (exponent : Int) (rest : List Char) :
    Except Stop (Json × List Char) :=
  match scale? significand exponent with
  | some x => .ok (.number (.double (if positive then x else -x).toBits), rest)
  | none => faultAt .numberTooLarge rest

/-- The greatest exponent that is kept. -/
def maxExponent : Nat := UInt32.size / 2 - 1

/-- Takes the digits of an exponent as long as it is not too large. The flag says that it was. -/
def readExponentDigits (exponent : Nat) : List Char → Nat × Bool × List Char
  | [] => (exponent, false, [])
  | c :: rest =>
    if c.isDigit then
      let next := 10 * exponent + Text.digitValue c
      if next ≤ maxExponent then readExponentDigits next rest else (exponent, true, rest)
    else (exponent, false, c :: rest)

/-- An exponent kept within its bounds. -/
def clampExponent (exponent : Int) : Int :=
  max (-(maxExponent : Int) - 1) (min exponent maxExponent)

def readExponent (positive : Bool) (significand : Nat) (start : Int) (text : List Char) :
    Except Stop (Json × List Char) :=
  let (raises, unsigned) := match text with
    | '+' :: rest => (true, rest)
    | '-' :: rest => (false, rest)
    | _ => (true, text)
  match unsigned with
  | [] => faultAt .valueEnds []
  | c :: rest =>
    if !c.isDigit then .error ⟨.invalidNumber, byteCount unsigned - 1⟩
    else
      let (exponent, tooLarge, after) := readExponentDigits (Text.digitValue c) rest
      if tooLarge then
        if significand ≠ 0 && raises then faultAt .numberTooLarge after
        else
          let zero : Float := if positive then 0.0 else -0.0
          .ok (.number (.double zero.toBits), after.dropWhile Char.isDigit)
      else
        let signed : Int := if raises then exponent else -exponent
        scaledNumber positive significand (clampExponent (start + signed)) after

/-- Reads an exponent if its letter comes first. -/
def readOptionalExponent (positive : Bool) (significand : Nat) (start : Int) (text : List Char) :
    Except Stop (Json × List Char) :=
  match text with
  | 'e' :: rest => readExponent positive significand start rest
  | 'E' :: rest => readExponent positive significand start rest
  | _ => scaledNumber positive significand start text

/-- Reads the places after a point. -/
def readFraction (positive : Bool) (significand : Nat) (start : Int) (text : List Char) :
    Except Stop (Json × List Char) :=
  let (longer, count, rest) := readSignificand significand 0 text
  let beyond := match rest with
    | c :: _ => c.isDigit
    | [] => false
  if beyond then
    readOptionalExponent positive longer (start - count) (rest.dropWhile Char.isDigit)
  else if count = 0 then
    if rest.isEmpty then faultOn .valueEnds rest else faultOn .invalidNumber rest
  else readOptionalExponent positive longer (start - count) rest

/-- The whole number that a sign and a significand make. Zero with a sign is no whole number. -/
def wholeNumber (positive : Bool) (significand : Nat) : Number :=
  if positive then .natural significand
  else if 0 < significand && significand ≤ UInt64.size / 2 then .negative significand
  else .double (-(Float.ofNat significand)).toBits

/-- Reads what follows the whole part of a number. -/
def readNumberEnd (positive : Bool) (significand : Nat) (text : List Char) :
    Except Stop (Json × List Char) :=
  match text with
  | '.' :: rest => readFraction positive significand 0 rest
  | 'e' :: rest => readExponent positive significand 0 rest
  | 'E' :: rest => readExponent positive significand 0 rest
  | _ => .ok (.number (wholeNumber positive significand), text)

def readNumber (positive : Bool) (text : List Char) : Except Stop (Json × List Char) :=
  match text with
  | [] => faultAt .valueEnds []
  | '0' :: rest =>
    match rest with
    | c :: _ => if c.isDigit then faultOn .invalidNumber rest else readNumberEnd positive 0 rest
    | [] => readNumberEnd positive 0 rest
  | c :: rest =>
    if !c.isDigit then .error ⟨.invalidNumber, byteCount text - 1⟩
    else
      let (significand, _, after) := readSignificand (Text.digitValue c) 0 rest
      let extra := (after.takeWhile Char.isDigit).length
      if extra = 0 then readNumberEnd positive significand after
      else
        let following := after.dropWhile Char.isDigit
        match following with
        | '.' :: places => readFraction positive significand extra places
        | _ => readOptionalExponent positive significand extra following

/-! ## Strings -/

/-- Reads four hexadecimal digits. Four bytes are taken even if they are no digits. -/
def readHex (text : List Char) : Except Stop (Nat × List Char) :=
  let found := match text with
    | a :: b :: c :: d :: rest => (Text.hexNumber? [a, b, c, d]).map (·, rest)
    | _ => none
  match found with
  | some (unit, rest) => .ok (unit, rest)
  | none =>
    if byteCount text < 4 then .error ⟨.stringEnds, 0⟩
    else .error ⟨.invalidEscape, byteCount text - 4⟩

/-- Reads a code point after `\u`: one unit, or the two units of a surrogate pair. -/
def readCodePoint (text : List Char) : Except Stop (Char × List Char) := do
  let (first, rest) ← readHex text
  if 0xdc00 ≤ first && first ≤ 0xdfff then faultAt .loneSurrogate rest
  else if first < 0xd800 || 0xdbff < first then .ok (Char.ofNat first, rest)
  else
    match rest with
    | [] => faultAt .stringEnds []
    | '\\' :: [] => faultAt .stringEnds []
    | '\\' :: 'u' :: units => do
      let (second, after) ← readHex units
      if second < 0xdc00 || 0xdfff < second then faultAt .loneSurrogate after
      else .ok (Char.ofNat (0x10000 + 0x400 * (first - 0xd800) + (second - 0xdc00)), after)
    | '\\' :: others => .error ⟨.surrogateNotFollowed, byteCount others - 1⟩
    | others => .error ⟨.surrogateNotFollowed, byteCount others - 1⟩

def readEscape (text : List Char) : Except Stop (Char × List Char) :=
  match text with
  | [] => faultAt .stringEnds []
  | '"' :: rest => .ok ('"', rest)
  | '\\' :: rest => .ok ('\\', rest)
  | '/' :: rest => .ok ('/', rest)
  | 'b' :: rest => .ok ('\x08', rest)
  | 'f' :: rest => .ok ('\x0c', rest)
  | 'n' :: rest => .ok ('\n', rest)
  | 'r' :: rest => .ok ('\r', rest)
  | 't' :: rest => .ok ('\t', rest)
  | 'u' :: rest => readCodePoint rest
  | _ :: _ => .error ⟨.invalidEscape, byteCount text - 1⟩

/-- Reads the characters of a string up to and with its closing quote. Each step takes one character
of the text at least. -/
def readString : Nat → List Char → Except Stop (List Char × List Char)
  | 0, text => faultAt .stringEnds text
  | bound + 1, text =>
    match text with
    | [] => faultAt .stringEnds []
    | '"' :: rest => .ok ([], rest)
    | '\\' :: rest => do
      let (c, after) ← readEscape rest
      let (others, final) ← readString bound after
      .ok (c :: others, final)
    | c :: rest =>
      if c.toNat < 0x20 then faultOn .controlCharacter text
      else do
        let (others, final) ← readString bound rest
        .ok (c :: others, final)

/-! ## Values -/

mutual

/-- Reads a value inside which `depth` more levels may be opened. -/
def readValue : Nat → Nat → List Char → Except Stop (Json × List Char)
  | 0, _, text => faultAt .tooDeep text
  | bound + 1, depth, text =>
    let start := skipBlanks text
    match start with
    | [] => faultOn .valueEnds []
    | 'n' :: rest => readWord .null "ull".toList rest
    | 't' :: rest => readWord (.bool true) "rue".toList rest
    | 'f' :: rest => readWord (.bool false) "alse".toList rest
    | '-' :: rest => readNumber false rest
    | '"' :: rest => do
      let (chars, after) ← readString bound rest
      .ok (.string (String.ofList chars), after)
    | '[' :: rest =>
      match depth with
      | 0 => faultOn .tooDeep start
      | inner + 1 => do
        let (elements, after) ← readElements bound inner true rest
        .ok (.array elements, after)
    | '\x7b' :: rest =>
      match depth with
      | 0 => faultOn .tooDeep start
      | inner + 1 => do
        let (members, after) ← readMembers bound inner true rest
        .ok (.object (sortedPairs members), after)
    | c :: _ => if c.isDigit then readNumber true start else faultOn .missingValue start

/-- Reads the elements of an array up to and with its closing bracket. -/
def readElements :
    Nat → Nat → Bool → List Char → Except Stop (List Json × List Char)
  | 0, _, _, text => faultAt .tooDeep text
  | bound + 1, depth, isFirst, text =>
    let element (text : List Char) : Except Stop (List Json × List Char) := do
      let (value, after) ← readValue bound depth text
      let (others, final) ← readElements bound depth false after
      .ok (value :: others, final)
    let start := skipBlanks text
    match start with
    | [] => faultOn .listEnds []
    | ']' :: rest => .ok ([], rest)
    | ',' :: rest =>
      if isFirst then element start
      else
        match skipBlanks rest with
        | [] => faultOn .valueEnds []
        | ']' :: others => faultOn .trailingComma (']' :: others)
        | next => element next
    | _ => if isFirst then element start else faultOn .missingListComma start

/-- Reads the members of an object up to and with its closing brace. -/
def readMembers :
    Nat → Nat → Bool → List Char → Except Stop (List (String × Json) × List Char)
  | 0, _, _, text => faultAt .tooDeep text
  | bound + 1, depth, isFirst, text =>
    let member (afterQuote : List Char) :
        Except Stop (List (String × Json) × List Char) := do
      let (key, afterKey) ← readString bound afterQuote
      let colon := skipBlanks afterKey
      match colon with
      | [] => faultOn .objectEnds []
      | ':' :: rest => do
        let (value, after) ← readValue bound depth rest
        let (others, final) ← readMembers bound depth false after
        .ok ((String.ofList key, value) :: others, final)
      | _ => faultOn .missingColon colon
    let start := skipBlanks text
    match start with
    | [] => faultOn .objectEnds []
    | '\x7d' :: rest => .ok ([], rest)
    | ',' :: rest =>
      if isFirst then faultOn .keyNotString start
      else
        match skipBlanks rest with
        | [] => faultOn .valueEnds []
        | '"' :: afterQuote => member afterQuote
        | '\x7d' :: others => faultOn .trailingComma ('\x7d' :: others)
        | next => faultOn .keyNotString next
    | '"' :: afterQuote =>
      if isFirst then member afterQuote else faultOn .missingObjectComma start
    | _ => if isFirst then faultOn .keyNotString start else faultOn .missingObjectComma start

end

/-- The greatest number of levels that may be open at once. -/
def maxDepth : Nat := 127

/-- Reads a text as one value, and finds the first fault as far as it is read. -/
def parseChars (text : List Char) : Except Stop Json := do
  let (value, rest) ← readValue (2 * text.length + 2) maxDepth text
  match skipBlanks rest with
  | [] => .ok value
  | trailing => faultOn .trailingCharacters trailing

/-- The line of a byte and its column in it, where `line` lines are complete and `start` is the
offset of the current one. -/
def placeFrom (offset line start passed : Nat) : List Char → Nat × Nat
  | [] => (line + 1, offset - start)
  | c :: rest =>
    if offset ≤ passed then (line + 1, offset - start)
    else
      let next := passed + c.utf8Size
      if c = '\n' then placeFrom offset (line + 1) next next rest
      else placeFrom offset line start next rest

def parse (text : String) : Except SyntaxFault Json :=
  let chars := text.toList
  match parseChars chars with
  | .ok value => .ok value
  | .error stop =>
    let (line, column) := placeFrom (byteCount chars - stop.remaining) 0 0 0 chars
    .error ⟨stop.cause, line, column⟩

end ContractBinder.Json
