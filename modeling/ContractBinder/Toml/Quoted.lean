import ContractBinder.Text.Digits

/-!
TOML strings: basic ones with escapes, literal ones without, each on one line or on several.
-/

namespace ContractBinder.Toml

/-- Whether a character may stand in a string or a comment: all but control characters, of which
only the tab may. -/
def isPrintable (c : Char) : Bool :=
  c == '\t' || (0x20 ≤ c.toNat && c != '\x7f')

def isLineBlank (c : Char) : Bool :=
  c == ' ' || c == '\t'

def skipLineBlanks (text : List Char) : List Char :=
  text.dropWhile isLineBlank

/-- What follows an end of line. -/
def afterNewline? : List Char → Option (List Char)
  | '\n' :: rest => some rest
  | '\r' :: '\n' :: rest => some rest
  | _ => none

/-- The character with a code point that hexadecimal digits spell, if there is one. -/
def scalarOf? (digits : List Char) : Option Char :=
  (Text.hexNumber? digits).bind fun value =>
    if value.isValidChar then some (Char.ofNat value) else none

/-- The character that an escape spells after its backslash. -/
def escape? : List Char → Option (Char × List Char)
  | 'b' :: rest => some ('\x08', rest)
  | 't' :: rest => some ('\t', rest)
  | 'n' :: rest => some ('\n', rest)
  | 'f' :: rest => some ('\x0c', rest)
  | 'r' :: rest => some ('\r', rest)
  | '"' :: rest => some ('"', rest)
  | '\\' :: rest => some ('\\', rest)
  | 'u' :: a :: b :: c :: d :: rest => (scalarOf? [a, b, c, d]).map (·, rest)
  | 'U' :: a :: b :: c :: d :: e :: f :: g :: h :: rest =>
    (scalarOf? [a, b, c, d, e, f, g, h]).map (·, rest)
  | _ => none

/-- A basic string after its opening quote. -/
def basic? : Nat → List Char → Option (List Char × List Char)
  | 0, _ => none
  | bound + 1, text =>
    match text with
    | [] => none
    | '"' :: rest => some ([], rest)
    | '\\' :: rest => do
      let (c, after) ← escape? rest
      let (others, final) ← basic? bound after
      some (c :: others, final)
    | c :: rest =>
      if isPrintable c then (basic? bound rest).map fun (others, final) => (c :: others, final)
      else none

/-- A literal string after its opening quote. -/
def literal? : List Char → Option (List Char × List Char)
  | [] => none
  | '\'' :: rest => some ([], rest)
  | c :: rest =>
    if isPrintable c then (literal? rest).map fun (others, final) => (c :: others, final) else none

/-- The end of a string on several lines: three quotes, before which up to two more belong to the
string. -/
def closing? (quote : Char) (text : List Char) : Option (List Char × List Char) :=
  let count := (text.takeWhile (· == quote)).length
  if 3 ≤ count then
    let inside := min (count - 3) 2
    some (List.replicate inside quote, text.drop (inside + 3))
  else none

/-- What follows a backslash at the end of a line: the first character that is no blank on a later
line. -/
def afterLineEnd? (text : List Char) : Option (List Char) :=
  (afterNewline? (skipLineBlanks text)).map fun rest =>
    let rec skip : List Char → List Char
      | '\n' :: others => skip others
      | '\r' :: '\n' :: others => skip others
      | ' ' :: others => skip others
      | '\t' :: others => skip others
      | others => others
    skip rest

/-- A string on several lines after its opening quotes. Line ends are kept as line feeds. -/
def multiline? (quote : Char) : Nat → List Char → Option (List Char × List Char)
  | 0, _ => none
  | bound + 1, text =>
    match closing? quote text with
    | some found => some found
    | none =>
      match afterNewline? text with
      | some rest =>
        (multiline? quote bound rest).map fun (others, final) => ('\n' :: others, final)
      | none =>
        match text with
        | [] => none
        | c :: rest =>
          if c = '\\' && quote = '"' then
            match afterLineEnd? rest with
            | some after => multiline? quote bound after
            | none => do
              let (escaped, after) ← escape? rest
              let (others, final) ← multiline? quote bound after
              some (escaped :: others, final)
          else if isPrintable c then
            (multiline? quote bound rest).map fun (others, final) => (c :: others, final)
          else none

/-- A string of any kind. An end of line directly after three opening quotes does not count. -/
def string? (text : List Char) : Option (String × List Char) :=
  let found := match text with
    | '"' :: '"' :: '"' :: rest => multiline? '"' (text.length + 1) ((afterNewline? rest).getD rest)
    | '\'' :: '\'' :: '\'' :: rest =>
      multiline? '\'' (text.length + 1) ((afterNewline? rest).getD rest)
    | '"' :: rest => basic? (text.length + 1) rest
    | '\'' :: rest => literal? rest
    | _ => none
  found.map fun (chars, rest) => (String.ofList chars, rest)

end ContractBinder.Toml
