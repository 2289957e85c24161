import ContractBinder.Toml.Document
import ContractBinder.Toml.Quoted
import ContractBinder.Toml.Scalar

/-!
Reading TOML texts.
Main statement: `Toml.parse?` reads a text line by line as statements and builds up their tables.
-/

namespace ContractBinder.Toml

/-- The least number of levels, or of keys in a path, that is too much. -/
def maxNesting : Nat := 80

def isBareKeyChar (c : Char) : Bool :=
  c.isAlphanum || c == '_' || c == '-'

def key? (text : List Char) : Option (String × List Char) :=
  match text with
  | '"' :: rest =>
    (basic? (rest.length + 1) rest).map fun (chars, after) => (String.ofList chars, after)
  | '\'' :: rest => (literal? rest).map fun (chars, after) => (String.ofList chars, after)
  | _ =>
    let bare := text.takeWhile isBareKeyChar
    if bare.isEmpty then none else some (String.ofList bare, text.dropWhile isBareKeyChar)

/-- Keys with points between them, and with blanks around each key. -/
def keys? : Nat → List Char → Option (List String × List Char)
  | 0, _ => none
  | bound + 1, text => do
    let (key, after) ← key? (skipLineBlanks text)
    match skipLineBlanks after with
    | '.' :: rest => (keys? bound rest).map fun (others, final) => (key :: others, final)
    | rest => some ([key], rest)

/-- A path of keys that is not too long: the keys on the way, and the last one. -/
def path? (text : List Char) : Option (List String × String × List Char) := do
  let (keys, rest) ← keys? (text.length + 1) text
  if maxNesting ≤ keys.length then none
  else
    match keys.reverse with
    | [] => none
    | last :: parents => some (parents.reverse, last, rest)

/-- What follows a comment: the end of its line, or of the text. -/
def afterComment (text : List Char) : List Char :=
  text.dropWhile isPrintable

/-- Removes blanks, ends of lines and comments at the start. A comment has to end with a line. -/
def skipLines? : Nat → List Char → Option (List Char)
  | 0, _ => none
  | bound + 1, text =>
    let rest := skipLineBlanks text
    match rest with
    | '#' :: comment => (afterNewline? (afterComment comment)).bind (skipLines? bound)
    | '\n' :: others => skipLines? bound others
    | '\r' :: others => (afterNewline? ('\r' :: others)).bind (skipLines? bound)
    | _ => some rest

mutual

/-- A value inside which `levels` more may be opened. -/
def value? : Nat → Nat → List Char → Option (Toml × List Char)
  | 0, _, _ => none
  | bound + 1, levels, text =>
    match text with
    | [] => none
    | '[' :: rest =>
      match levels with
      | 0 => none
      | inner + 1 => (elements? bound inner rest).map fun (found, after) => (.array found, after)
    | '\x7b' :: rest =>
      match levels with
      | 0 => none
      | inner + 1 => do
        let (found, after) ← assignments? bound inner true rest
        let members ← Members.ofAssignments? found
        some (.table .inline members, after)
    | 't' :: 'r' :: 'u' :: 'e' :: rest => some (.boolean true, rest)
    | 'f' :: 'a' :: 'l' :: 's' :: 'e' :: rest => some (.boolean false, rest)
    | c :: _ =>
      if c = '"' || c = '\'' then (string? text).map fun (found, rest) => (.string found, rest)
      else scalar? text

/-- The elements of an array up to and with its closing bracket. A comma may come last. -/
def elements? : Nat → Nat → List Char → Option (List Toml × List Char)
  | 0, _, _ => none
  | bound + 1, levels, text => do
    match ← skipLines? (text.length + 1) text with
    | ']' :: rest => some ([], rest)
    | start => do
      let (value, after) ← value? bound levels start
      match ← skipLines? (after.length + 1) after with
      | ']' :: rest => some ([value], rest)
      | ',' :: rest =>
        (elements? bound levels rest).map fun (others, final) => (value :: others, final)
      | _ => none

/-- The assignments of a table that is written as a value, up to and with its closing brace. They
stand on one line, and no comma comes last. -/
def assignments? :
    Nat → Nat → Bool → List Char → Option (List (List String × String × Toml) × List Char)
  | 0, _, _, _ => none
  | bound + 1, levels, isFirst, text => do
    match skipLineBlanks text, isFirst with
    | '\x7d' :: rest, true => some ([], rest)
    | start, _ => do
      let (path, key, afterKey) ← path? start
      match afterKey with
      | '=' :: valueText => do
        let (value, after) ← value? bound levels (skipLineBlanks valueText)
        match skipLineBlanks after with
        | '\x7d' :: rest => some ([(path, key, value)], rest)
        | ',' :: rest =>
          (assignments? bound levels false rest).map fun (others, final) =>
            ((path, key, value) :: others, final)
        | _ => none
      | _ => none

end

/-- What follows the end of a statement: blanks, a comment, and the end of the line or of the text.
-/
def afterStatement? (text : List Char) : Option (List Char) :=
  let rest := match skipLineBlanks text with
    | '#' :: comment => afterComment comment
    | others => others
  if rest.isEmpty then some [] else afterNewline? rest

/-- One statement up to the end of its line. -/
def statement? (text : List Char) : Option (Statement × List Char) :=
  match text with
  | '[' :: '[' :: rest => do
    let (path, key, after) ← path? rest
    match after with
    | ']' :: ']' :: trailing =>
      (afterStatement? trailing).map fun next => (.arrayHeader (path ++ [key]), next)
    | _ => none
  | '[' :: rest => do
    let (path, key, after) ← path? rest
    match after with
    | ']' :: trailing => (afterStatement? trailing).map fun next => (.header (path ++ [key]), next)
    | _ => none
  | _ => do
    let (path, key, after) ← path? text
    match after with
    | '=' :: valueText => do
      let (value, trailing) ←
        value? (2 * text.length + 2) (maxNesting - 1) (skipLineBlanks valueText)
      (afterStatement? trailing).map fun next => (.assign path key value, next)
    | _ => none

def statements? : Nat → List Char → Option (List Statement)
  | 0, _ => none
  | bound + 1, text =>
    match skipLineBlanks text with
    | [] => some []
    | '\n' :: rest => statements? bound rest
    | '\r' :: rest => (afterNewline? ('\r' :: rest)).bind (statements? bound)
    | '#' :: comment => (afterStatement? ('#' :: comment)).bind (statements? bound)
    | start => do
      let (statement, rest) ← statement? start
      (statements? bound rest).map (statement :: ·)

/-- Reads a text as a document. A mark of the byte order may come first. -/
def parse? (text : String) : Option Members :=
  let chars := match text.toList with
    | '\ufeff' :: rest => rest
    | chars => chars
  (statements? (chars.length + 1) chars).bind Members.ofStatements?

end ContractBinder.Toml
