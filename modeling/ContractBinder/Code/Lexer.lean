import ContractBinder.Code.Literal
import ContractBinder.Code.Token
import ContractBinder.Code.Trivia

/-!
Reading a text as tokens. Only whole texts are read: every character belongs to a token or to what
separates tokens, and brackets match.
-/

namespace ContractBinder.Code

/-- The characters of operators. The apostrophe is one only in front of a lifetime's name. -/
def operatorChars : List Char :=
  "~!@#$%^&*-=+|;:,<.>/?'".toList

/-- Whether a text starts with an operator character that starts no comment. -/
def startsOperator (text : List Char) : Bool :=
  match text with
  | [] => false
  | c :: _ => operatorChars.contains c && !startsWith text "//" && !startsWith text "/*"

/-- The mark at the start of a text. It is joint if another operator character follows, or the name
of a lifetime. -/
def mark? (text : List Char) : Option (Token × List Char) :=
  match text with
  | [] => none
  | c :: rest =>
    if !startsOperator text then none
    else if c = '\'' then
      (anyIdentifier? rest).bind fun (_, after) =>
        if startsWith after "'" || startsWith after "#" && !startsWith rest "r#" then none
        else some (.mark '\'' true, rest)
    else some (.mark c (startsOperator rest), rest)

/-- Beginnings of quoted texts, which are never names. -/
def quotedBeginnings : List String :=
  ["r\"", "r#\"", "r##", "b\"", "b'", "br\"", "br#", "c\"", "cr\"", "cr#"]

/-- The name at the start of a text. -/
def name? (text : List Char) : Option (Token × List Char) :=
  if quotedBeginnings.any (startsWith text) then none
  else (anyIdentifier? text).map fun (name, rest) => (.name name, rest)

/-- A bracketed comment that is one literal, which stands for what could not be read. -/
def unreadable : String :=
  "(/*ERROR*/)"

/-- The token at the start of a text, brackets apart. -/
def leaf? (text : List Char) : Option (Token × List Char) :=
  match Literal.after? text with
  | some rest =>
    some (.literal (String.ofList (text.take (text.length - rest.length))), rest)
  | none =>
    match mark? text with
    | some found => some found
    | none =>
      if startsWith text unreadable then
        some (.literal unreadable, text.drop unreadable.length)
      else name? text

/-- The opening delimiter at the start of a text. -/
def opening? (text : List Char) : Option Delimiter :=
  match text with
  | '(' :: _ => if startsWith text unreadable then none else some .paren
  | '[' :: _ => some .bracket
  | '\x7b' :: _ => some .brace
  | _ => none

def closing? : Char → Option Delimiter
  | ')' => some .paren
  | ']' => some .bracket
  | '\x7d' => some .brace
  | _ => none

/-- Whether every carriage return of a text comes before a line feed. -/
def returnsPaired : List Char → Bool
  | [] => true
  | '\r' :: '\n' :: rest => returnsPaired rest
  | '\r' :: _ => false
  | _ :: rest => returnsPaired rest

/-- The documentation comment at the start of a text as an attribute's tokens, and the rest. -/
def docComment? (text : List Char) : Option (List Token × List Char) :=
  let line (inner : Bool) : Option (Bool × List Char × List Char) :=
    let body := text.drop 3
    some (inner, body.takeWhile (· != '\n'), body.dropWhile (· != '\n'))
  let block (inner : Bool) : Option (Bool × List Char × List Char) :=
    (afterBlock 0 text).map fun rest =>
      (inner, (text.drop 3).take (text.length - rest.length - 5), rest)
  let found :=
    if startsWith text "//!" then line true
    else if startsWith text "/*!" then block true
    else if startsWith text "///" && !startsWith text "////" then line false
    else if startsWith text "/**" && !startsWith text "/***" && !startsWith text "/**/" then
      block false
    else none
  found.bind fun (inner, content, rest) =>
    let ended := match content.reverse, rest with
      | '\r' :: others, '\n' :: _ => others.reverse
      | _, _ => content
    if !returnsPaired ended then none
    else if inner then
      some ([mark '#', mark '!'] ++
        enclose .bracket [.name "doc", mark '=', .text (String.ofList ended)], rest)
    else some ([.doc (String.ofList ended)], rest)

/-- Tokens of a text, given the delimiters that are open, the innermost first. Each step shortens
the text, so its length bounds the number of steps. -/
def tokensWithin? : Nat → List Delimiter → List Char → Option (List Token)
  | 0, _, _ => none
  | bound + 1, stack, text =>
    let rest := skipTrivia text
    match docComment? rest with
    | some (tokens, after) => (tokensWithin? bound stack after).map (tokens ++ ·)
    | none =>
      match rest with
      | [] => if stack.isEmpty then some [] else none
      | c :: after =>
        match opening? rest with
        | some delimiter =>
          (tokensWithin? bound (delimiter :: stack) after).map (.opening delimiter :: ·)
        | none =>
          match closing? c with
          | some delimiter =>
            match stack with
            | [] => none
            | innermost :: outer =>
              if innermost = delimiter then
                (tokensWithin? bound outer after).map (.closing delimiter :: ·)
              else none
          | none =>
            (leaf? rest).bind fun (token, remaining) =>
              (tokensWithin? bound stack remaining).map (token :: ·)

/-- Removes the mark of the byte order from the start of a text. -/
def dropByteOrderMark : List Char → List Char
  | '\ufeff' :: rest => rest
  | text => text

/-- The tokens of a text, if all of it is made of tokens. -/
def tokens? (text : String) : Option (List Token) :=
  let chars := dropByteOrderMark text.toList
  tokensWithin? (chars.length + 1) [] chars

/-- The only name in a text that holds nothing but one name and what may separate tokens. -/
def soleName? (text : String) : Option String :=
  match name? (skipTrivia (dropByteOrderMark text.toList)) with
  | some (.name name, rest) => if (skipTrivia rest).isEmpty then some name else none
  | _ => none

end ContractBinder.Code
