import ContractBinder.Abi.WireType
import ContractBinder.Text.Blank
import ContractBinder.Text.Digits

/-!
Reading declared types such as `uint256[10][] memory`: a base, bracket groups from the innermost
array to the outermost, and at most one storage qualifier behind a blank.
-/

namespace ContractBinder.Abi

inductive TypeFault where
  | empty
  | unexpectedQualifier
  | tooDeep
  | unbalanced
  | invalidLength (dimension : String)
  | integerWidth
  | byteLength
  | unknown (base : String)
  deriving DecidableEq, Repr

def TypeFault.message : TypeFault → String
  | .empty => "empty type"
  | .unexpectedQualifier => "unexpected type qualifier"
  | .tooDeep => "array nesting deeper than " ++ Nat.repr maxArrayDepth
  | .unbalanced => "unbalanced `]`"
  | .invalidLength dimension => "invalid array length `" ++ dimension ++ "`"
  | .integerWidth => "bit width must be a multiple of 8 in 8..=256"
  | .byteLength => "byte length must be in 1..=32"
  | .unknown base => "unknown type `" ++ base ++ "`"

/-- The qualifiers that may follow a type. They do not change it. -/
def storageQualifiers : List String :=
  ["storage", "memory", "calldata"]

/-- The number that a decimal spells, if it has digits only, no needless zero in front, and is not
greater than the greatest array length. -/
def decimal? (digits : List Char) : Option Nat :=
  if !digits.isEmpty && digits.all Char.isDigit && (digits = ['0'] || digits.head? ≠ some '0') then
    let value := Text.decimalValue digits
    if value ≤ maxArrayLength then some value else none
  else none

def integerWidth (digits : List Char) : Except TypeFault Nat :=
  match decimal? digits with
  | some bits =>
    if 8 ≤ bits && bits ≤ 256 && bits % 8 = 0 then .ok bits else .error .integerWidth
  | none => .error .integerWidth

/-- The byte count in a fixed bytes type's name. -/
def byteLength (digits : List Char) : Except TypeFault Nat :=
  match decimal? digits with
  | some count => if 1 ≤ count && count ≤ 32 then .ok count else .error .byteLength
  | none => .error .byteLength

/-- What follows `lead` at the start of a text. -/
def stripLead? (lead : String) (text : List Char) : Option (List Char) :=
  if lead.toList.isPrefixOf text then some (text.drop lead.length) else none

def readKind (base : List Char) : Except TypeFault WireKind :=
  if base = "bool".toList then .ok .bool
  else if base = "address".toList then .ok .address
  else if base = "string".toList then .ok .string
  else if base = "bytes".toList then .ok .bytes
  else if base = "uint".toList then .ok (.uint 256)
  else if base = "int".toList then .ok (.int 256)
  else
    match stripLead? "uint" base with
    | some width => (integerWidth width).map .uint
    | none =>
      match stripLead? "int" base with
      | some width => (integerWidth width).map .int
      | none =>
        match stripLead? "bytes" base with
        | some length => (byteLength length).map .fixedBytes
        | none => .error (.unknown (String.ofList base))

/-- The last bracket group of a text from its end: what stands before the group and what stands in
it. The text is given backwards, after its closing bracket. -/
def lastGroup? (backwards : List Char) : Option (List Char × List Char) :=
  match backwards.dropWhile (· != '[') with
  | [] => none
  | _ :: before => some (before.reverse, (backwards.takeWhile (· != '[')).reverse)

theorem lastGroup?_length {backwards before dimension : List Char}
    (found : lastGroup? backwards = some (before, dimension)) :
    before.length < backwards.length := by
  have shorter : ∀ list : List Char, (list.dropWhile (· != '[')).length ≤ list.length := by
    intro list
    induction list with
    | nil => simp
    | cons head tail ih =>
      rw [List.dropWhile_cons]
      split
      · simp only [List.length_cons]
        omega
      · exact Nat.le_refl _
  have bound := shorter backwards
  unfold lastGroup? at found
  split at found
  · cases found
  · rename_i rest equal
    cases found
    rw [equal] at bound
    simp only [List.length_cons, List.length_reverse] at bound ⊢
    omega

/-- Makes an array of a type: dynamic if the group is empty, else of the length it spells. -/
def arrayOf (element : WireType) (dimension : List Char) : Except TypeFault WireType :=
  if dimension.isEmpty then .ok (.dynamicArray element)
  else
    match decimal? dimension with
    | some length =>
      if 0 < length then .ok (.fixedArray element length)
      else .error (.invalidLength (String.ofList dimension))
    | none => .error (.invalidLength (String.ofList dimension))

/-- Reads a type inside `outer` array levels. The outermost array comes last in the text, and a
fault of the element is found before one of the group. -/
def readType (outer : Nat) (text : List Char) : Except TypeFault WireType :=
  match _reversed : text.reverse with
  | ']' :: backwards =>
    if outer = maxArrayDepth then .error .tooDeep
    else
      match _group : lastGroup? backwards with
      | none => .error .unbalanced
      | some (before, dimension) => do
        let element ← readType (outer + 1) before
        arrayOf element dimension
  | _ => (readKind text).map .primitive
termination_by text.length
decreasing_by
  have shorter := lastGroup?_length ‹_›
  have total := congrArg List.length ‹text.reverse = ']' :: backwards›
  simp only [List.length_reverse, List.length_cons] at total
  omega

def WireType.parse (declared : String) : Except TypeFault WireType :=
  match Text.words declared.toList with
  | [] => .error .empty
  | [type] => readType 0 type
  | [type, qualifier] =>
    if storageQualifiers.contains (String.ofList qualifier) then readType 0 type
    else .error .unexpectedQualifier
  | _ => .error .unexpectedQualifier

end ContractBinder.Abi
