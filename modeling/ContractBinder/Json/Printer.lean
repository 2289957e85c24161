import ContractBinder.Json.Shortest
import ContractBinder.Json.Value

/-!
Writing JSON values, on one line without blanks, or over several lines with two blanks per level.
-/

namespace ContractBinder.Json

def escapeJsonChar (c : Char) : List Char :=
  match c with
  | '"' => ['\\', '"']
  | '\\' => ['\\', '\\']
  | '\x08' => ['\\', 'b']
  | '\x0c' => ['\\', 'f']
  | '\n' => ['\\', 'n']
  | '\r' => ['\\', 'r']
  | '\t' => ['\\', 't']
  | _ =>
    if c.toNat < 0x20 then
      ['\\', 'u', '0', '0', Nat.digitChar (c.toNat / 16), Nat.digitChar (c.toNat % 16)]
    else [c]

def writeString (text : String) : List Char :=
  '"' :: text.toList.flatMap escapeJsonChar ++ ['"']

def Number.write : Number → List Char
  | natural value => Nat.toDigits 10 value
  | negative magnitude => '-' :: Nat.toDigits 10 magnitude
  | double bits => (renderDouble bits).toList

mutual

def compactChars : Json → List Char
  | null => "null".toList
  | bool true => "true".toList
  | bool false => "false".toList
  | number value => value.write
  | string value => writeString value
  | array elements => '[' :: compactElements elements ++ [']']
  | object members => '\x7b' :: compactMembers members ++ ['\x7d']

/-- Elements on one line, with commas between them. -/
def compactElements : List Json → List Char
  | [] => []
  | [last] => compactChars last
  | element :: next :: rest => compactChars element ++ ',' :: compactElements (next :: rest)

/-- Members on one line, with commas between them. -/
def compactMembers : List (String × Json) → List Char
  | [] => []
  | [(key, value)] => writeString key ++ ':' :: compactChars value
  | (key, value) :: next :: rest =>
    writeString key ++ ':' :: compactChars value ++ ',' :: compactMembers (next :: rest)

end

def lineStart (level : Nat) : List Char :=
  '\n' :: List.replicate (2 * level) ' '

mutual

/-- A value over several lines, inside `level` open ones. Empty arrays and objects stay closed. -/
def prettyChars (level : Nat) : Json → List Char
  | null => "null".toList
  | bool true => "true".toList
  | bool false => "false".toList
  | number value => value.write
  | string value => writeString value
  | array [] => "[]".toList
  | array (element :: rest) =>
    '[' :: lineStart (level + 1) ++ prettyElements (level + 1) (element :: rest) ++
      lineStart level ++ [']']
  | object [] => ['\x7b', '\x7d']
  | object (pair :: rest) =>
    '\x7b' :: lineStart (level + 1) ++ prettyMembers (level + 1) (pair :: rest) ++
      lineStart level ++ ['\x7d']

def prettyElements (level : Nat) : List Json → List Char
  | [] => []
  | [last] => prettyChars level last
  | element :: next :: rest =>
    prettyChars level element ++ ',' :: lineStart level ++ prettyElements level (next :: rest)

def prettyMembers (level : Nat) : List (String × Json) → List Char
  | [] => []
  | [(key, value)] => writeString key ++ ':' :: ' ' :: prettyChars level value
  | (key, value) :: next :: rest =>
    writeString key ++ ':' :: ' ' :: prettyChars level value ++ ',' :: lineStart level ++
      prettyMembers level (next :: rest)

end

def compact (value : Json) : String :=
  String.ofList (compactChars value)

/-- A value as a text over several lines. -/
def pretty (value : Json) : String :=
  String.ofList (prettyChars 0 value)

end ContractBinder.Json
