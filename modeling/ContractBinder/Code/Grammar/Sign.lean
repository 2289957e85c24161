import ContractBinder.Code.Grammar.Fault
import ContractBinder.Code.Identifier

/-!
Signs: what the next tokens may be, as far as a reader of code has to know before it takes them.
Tokens are a flat list, in which brackets match.
-/

namespace ContractBinder.Code

/-- What the next token may be. -/
inductive Sign where
  /-- An operator: its characters are joint, except that anything may follow the last. -/
  | mark (spelling : String)
  /-- A given word. -/
  | word (spelling : String)
  /-- A name that is not reserved. -/
  | name
  /-- A name or a reserved word. -/
  | anyName
  | lifetime
  | literal
  /-- A literal that is a text. -/
  | text
  /-- An opening bracket. -/
  | opening (delimiter : Delimiter)
  deriving DecidableEq, Repr

def operatorTokens (spelling : String) : List Token :=
  match spelling.toList.reverse with
  | [] => []
  | last :: others => (others.map fun symbol => .mark symbol true).reverse ++ [mark last]

def startsOperatorOf : List Char → List Token → Bool
  | [], _ => true
  | [last], .mark symbol _ :: _ => symbol = last
  | symbol :: others, .mark found joint :: rest =>
    found = symbol && joint && startsOperatorOf others rest
  | _ :: _, _ => false

def startsDigit (spelling : String) : Bool :=
  (spelling.toList.head?.map Char.isDigit).getD false

/-- The literal that comes first, and what follows it. The two truth values are literals, and a
minus sign belongs to the number behind it. -/
def literal? : List Token → Option (List Token × List Token)
  | .literal spelling :: rest => some ([.literal spelling], rest)
  | .text value :: rest => some ([.text value], rest)
  | .number value :: rest => some ([.number value], rest)
  | .name "true" :: rest => some ([.name "true"], rest)
  | .name "false" :: rest => some ([.name "false"], rest)
  | .mark '-' _ :: .literal spelling :: rest =>
    if startsDigit spelling then some ([mark '-', .literal spelling], rest) else none
  | .mark '-' _ :: .number value :: rest => some ([mark '-', .number value], rest)
  | _ => none

/-- Whether a literal's spelling is that of a text. -/
def isTextSpelling (spelling : String) : Bool :=
  match spelling.toList with
  | '"' :: _ | 'r' :: _ => true
  | _ => false

def Sign.starts : Sign → List Token → Bool
  | .mark spelling, tokens => startsOperatorOf spelling.toList tokens
  | .word spelling, .name found :: _ => found = spelling
  | .name, .name found :: _ => !isReserved found
  | .anyName, .name _ :: _ => true
  | .lifetime, .mark '\'' true :: .name _ :: _ => true
  | .literal, tokens => (literal? tokens).isSome
  | .text, .text _ :: _ => true
  | .text, .literal spelling :: _ => isTextSpelling spelling
  | .opening delimiter, .opening found :: _ => found = delimiter
  | _, _ => false

/-- A bracket in messages. -/
def Delimiter.wanted : Delimiter → String
  | .paren => "parentheses"
  | .bracket => "square brackets"
  | .brace => "curly braces"

/-- A sign in messages. -/
def Sign.wanted : Sign → String
  | .mark spelling | .word spelling => "`" ++ spelling ++ "`"
  | .name => "identifier"
  | .anyName => "ident"
  | .lifetime => "lifetime"
  | .literal => "literal"
  | .text => "string literal"
  | .opening delimiter => delimiter.wanted

/-- A choice of signs in messages. -/
def wantedOf (signs : List Sign) : String :=
  match signs with
  | [first, second] => first.wanted ++ " or " ++ second.wanted
  | [only] => only.wanted
  | _ => "one of: " ++ ", ".intercalate (signs.map Sign.wanted)

/-- Whether tokens have come to the end of their brackets. -/
def atEnd : List Token → Bool
  | [] | .closing _ :: _ => true
  | _ => false

/-- What follows the brackets in which tokens stand, where `depth` more pairs are open. -/
def afterBrackets : Nat → List Token → List Token
  | _, [] => []
  | depth, .opening _ :: rest => afterBrackets (depth + 1) rest
  | 0, .closing _ :: rest => rest
  | depth + 1, .closing _ :: rest => afterBrackets depth rest
  | depth, _ :: rest => afterBrackets depth rest

/-- What follows the first token, or the brackets that it opens with all that they hold. A lifetime
is one token here. -/
def afterFirst : List Token → List Token
  | [] | .closing _ :: _ => []
  | .opening _ :: rest => afterBrackets 0 rest
  | .mark '\'' true :: .name _ :: rest => rest
  | _ :: rest => rest

/-- Spells documentation as the attribute that it is. -/
def spellDocs (tokens : List Token) : List Token :=
  tokens.flatMap fun
    | .doc content =>
      mark '#' :: enclose .bracket [.name "doc", mark '=', .text content]
    | token => [token]

end ContractBinder.Code
