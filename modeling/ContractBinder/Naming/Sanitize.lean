import ContractBinder.Code.Lexer

/-!
Identifiers for names that come from outside. Names that are identifiers already are kept, others
are repaired, and names that nothing is left of are numbered by their position.
-/

namespace ContractBinder.Naming

/-- Whether a text reads as one identifier that is not reserved. Comments and marks that a reader of
code skips around it do not count. A text that is spelled raw is not accepted. -/
def isLegal (name : String) : Bool :=
  !Code.startsWith name.toList "r#" &&
    match Code.soleName? name with
    | some sole => !Code.isReserved sole
    | none => false

/-- The name of the parameter at a position. -/
def positional (index : Nat) : String :=
  "param" ++ Nat.repr index

/-- ASCII letters, digits and the underscore. -/
def isWordChar (c : Char) : Bool :=
  c.isAlphanum || c == '_'

/-- Replaces every character that is no ASCII word character by an underscore. -/
def replaceForeign (name : List Char) : List Char :=
  name.map fun c => if isWordChar c then c else '_'

/-- Puts a word in front of a name that starts with a digit. -/
def guardDigit (name : List Char) : List Char :=
  match name with
  | c :: _ => if c.isDigit then "param_".toList ++ name else name
  | [] => name

/-- An identifier for a name at a position. -/
def sanitize (name : String) (index : Nat) : String :=
  let trimmed := Text.trim name.toList
  if trimmed.isEmpty then positional index
  else if isLegal (String.ofList trimmed) then String.ofList trimmed
  else
    let repaired := guardDigit (replaceForeign trimmed)
    if repaired.all (· == '_') then positional index
    else if isLegal (String.ofList repaired) then String.ofList repaired
    else String.ofList repaired ++ "_"

end ContractBinder.Naming
