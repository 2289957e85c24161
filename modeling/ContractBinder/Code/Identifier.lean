import ContractBinder.Text.NameClass

/-!
Identifiers of generated code: which texts are plain identifiers, and which of those are reserved.
-/

namespace ContractBinder.Code

/-- The words that cannot name anything. The lone underscore is one of them. -/
def reservedWords : List String :=
  ["_", "abstract", "as", "async", "await", "become", "box", "break", "const", "continue", "crate",
   "do", "dyn", "else", "enum", "extern", "false", "final", "fn", "for", "if", "impl", "in", "let",
   "loop", "macro", "match", "mod", "move", "mut", "override", "priv", "pub", "ref", "return",
   "Self", "self", "static", "struct", "super", "trait", "true", "try", "type", "typeof", "unsafe",
   "unsized", "use", "virtual", "where", "while", "yield"]

/-- The reserved words for enclosing modules and types. Paths may consist of them. -/
def enclosingWords : List String :=
  ["super", "self", "Self", "crate"]

def isIdentStart (c : Char) : Bool :=
  c == '_' || Text.isNameStart c

def isIdentContinue (c : Char) : Bool :=
  Text.isNameContinue c

/-- A starting character followed by characters that continue it. -/
def isPlain (name : String) : Bool :=
  match name.toList with
  | [] => false
  | c :: rest => isIdentStart c && rest.all isIdentContinue

def isReserved (name : String) : Bool :=
  reservedWords.contains name

/-- The identifier at the start of a text, and what follows it. -/
def identifier? : List Char → Option (String × List Char)
  | [] => none
  | c :: rest =>
    if isIdentStart c then
      some (String.ofList (c :: rest.takeWhile isIdentContinue), rest.dropWhile isIdentContinue)
    else none

/-- The identifier at the start of a text, possibly spelled raw, that is with `r#` in front. The
words for the enclosing modules and types have no raw spelling. -/
def anyIdentifier? (text : List Char) : Option (String × List Char) :=
  match text with
  | 'r' :: '#' :: rest =>
    (identifier? rest).bind fun (name, after) =>
      if name = "_" || enclosingWords.contains name then none
      else some ("r#" ++ name, after)
  | _ => identifier? text

end ContractBinder.Code
