import ContractBinder.Text.Quoted

/-!
Tokens of generated code and their printed form. A documentation attribute is one token, so that
code with and without documentation differs in these tokens only.
-/

namespace ContractBinder.Code

inductive Delimiter where
  | paren
  | bracket
  | brace
  deriving DecidableEq, Repr

/-- One token. A mark that is joint belongs to an operator of several characters together with the
token after it. -/
inductive Token where
  | name (spelling : String)
  | mark (symbol : Char) (joint : Bool)
  | text (value : String)
  | number (value : Nat)
  | literal (spelling : String)
  | opening (delimiter : Delimiter)
  | closing (delimiter : Delimiter)
  | doc (content : String)
  deriving DecidableEq, Repr

def Delimiter.openChar : Delimiter → Char
  | .paren => '('
  | .bracket => '['
  | .brace => '\x7b'

def Delimiter.closeChar : Delimiter → Char
  | .paren => ')'
  | .bracket => ']'
  | .brace => '\x7d'

def Token.spell : Token → List Char
  | .name spelling => spelling.toList
  | .mark symbol _ => [symbol]
  | .text value => Text.quoteLiteral value.toList
  | .number value => (Nat.repr value).toList
  | .literal spelling => spelling.toList
  | .opening delimiter => [delimiter.openChar]
  | .closing delimiter => [delimiter.closeChar]
  | .doc content => "# [doc = ".toList ++ Text.quoteLiteral content.toList ++ [']']

/-- Whether no space is printed after the token: joint marks, and round and square brackets. -/
def Token.hugsNext : Token → Bool
  | .mark _ joint => joint
  | .opening delimiter => delimiter ≠ .brace
  | _ => false

/-- Whether no space is printed before the token: round and square brackets. -/
def Token.hugsPrevious : Token → Bool
  | .closing delimiter => delimiter ≠ .brace
  | _ => false

/-- Tokens with single spaces between them, except where a token hugs its neighbour. -/
def printChars : List Token → List Char
  | [] => []
  | [token] => token.spell
  | token :: next :: rest =>
    token.spell ++ (if token.hugsNext || next.hugsPrevious then [] else [' ']) ++
      printChars (next :: rest)

def print (tokens : List Token) : String :=
  String.ofList (printChars tokens)

def Token.isDoc : Token → Bool
  | .doc _ => true
  | _ => false

/-! ## Small token sequences -/

def mark (symbol : Char) : Token := .mark symbol false

/-- The path separator. -/
def pathSep : List Token := [.mark ':' true, .mark ':' false]

/-- The arrow before a return type. -/
def arrow : List Token := [.mark '-' true, .mark '>' false]

def enclose (delimiter : Delimiter) (tokens : List Token) : List Token :=
  .opening delimiter :: tokens ++ [.closing delimiter]

/-- Token sequences with commas between them. -/
def commaSeparated (items : List (List Token)) : List Token :=
  [mark ','].intercalate items

/-- Token sequences with a comma after each. -/
def commaTerminated (items : List (List Token)) : List Token :=
  items.flatMap (· ++ [mark ','])

/-- A path of plain names, with a separator in front if it is absolute. -/
def pathOf (absolute : Bool) (names : List String) : List Token :=
  (if absolute then pathSep else []) ++ pathSep.intercalate (names.map fun name => [.name name])

end ContractBinder.Code
