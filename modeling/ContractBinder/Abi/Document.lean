import ContractBinder.Abi.Entry
import ContractBinder.Json.Reader
import ContractBinder.Json.Shortest
import ContractBinder.Text.Quoted

/-!
ABI documents: a JSON array of entries, or an object that holds one as its member `abi`. A record
inside it is an object, or an array with the record's fields in their order.
Main statement: `readDocument` reads the array's elements one by one, and the first that is rejected
decides the fault.
-/

namespace ContractBinder.Abi

inductive Wanted where
  | text
  | boolean
  | list
  | kind
  | nothing
  | entry
  | parameter
  deriving DecidableEq, Repr

/-- The wording of what is asked for. -/
def Wanted.message : Wanted → String
  | text => "a string"
  | boolean => "a boolean"
  | list => "a sequence"
  | kind => "string or map"
  | nothing => "unit"
  | entry => "struct RawEntry"
  | parameter => "struct AbiParameter"

inductive ShapeFault where
  /-- The value has another type. -/
  | wrongType (found : Json) (wanted : Wanted)
  /-- An object in place of a kind has no or several members. -/
  | notOneMember
  /-- An array in place of a record has too few elements, where `missing` is the position of the
  first field that has to be there. -/
  | tooShort (missing : Nat) (record : Wanted) (size : Nat)
  /-- An array in place of a record has more elements than the record has fields. -/
  | tooLong (length : Nat)
  /-- A field that has to be there is missing. -/
  | missingField (name : String)
  /-- A word is no entry kind. -/
  | unknownKind (word : String)
  deriving Repr

/-- The wording of a value that was not asked for. -/
def describe : Json → String
  | .null => "null"
  | .bool value => "boolean `" ++ (if value then "true" else "false") ++ "`"
  | .number (.natural value) => "integer `" ++ Nat.repr value ++ "`"
  | .number (.negative magnitude) => "integer `-" ++ Nat.repr magnitude ++ "`"
  | .number (.double bits) => "floating point `" ++ Json.renderDouble bits ++ "`"
  | .string value => "string " ++ String.ofList (Text.quote value.toList)
  | .array _ => "sequence"
  | .object _ => "map"

/-- The words that name entry kinds, in quotes. -/
def kindChoices : String :=
  ", ".intercalate (EntryKind.words.map fun pair => "`" ++ pair.1 ++ "`")

def ShapeFault.message : ShapeFault → String
  | .wrongType found wanted => "invalid type: " ++ describe found ++ ", expected " ++ wanted.message
  | .notOneMember => "invalid value: map, expected map with a single key"
  | .tooShort missing record size =>
    "invalid length " ++ Nat.repr missing ++ ", expected " ++ record.message ++ " with " ++
      Nat.repr size ++ " elements"
  | .tooLong length => "invalid length " ++ Nat.repr length ++ ", expected fewer elements in array"
  | .missingField name => "missing field `" ++ name ++ "`"
  | .unknownKind word => "unknown variant `" ++ word ++ "`, expected one of " ++ kindChoices

inductive DocumentFault where
  | notEntries
  | unknownMutability (word : String)
  | shape (fault : ShapeFault)
  deriving Repr

/-! ## Single values -/

def readText : Json → Except ShapeFault String
  | .string value => .ok value
  | other => .error (.wrongType other .text)

def readFlag : Json → Except ShapeFault Bool
  | .bool value => .ok value
  | other => .error (.wrongType other .boolean)

/-- Reads a value that may be null. -/
def readOptional {α : Type} (read : Json → Except ShapeFault α) :
    Json → Except ShapeFault (Option α)
  | .null => .ok none
  | other => (read other).map some

def readList {α : Type} (read : Json → Except ShapeFault α) : Json → Except ShapeFault (List α)
  | .array elements => elements.mapM read
  | other => .error (.wrongType other .list)

def kindOfWord (word : String) : Except ShapeFault EntryKind :=
  match EntryKind.words.lookup word with
  | some kind => .ok kind
  | none => .error (.unknownKind word)

/-- Reads a kind: its word, or an object with the word as its only key and null under it. -/
def readEntryKind : Json → Except ShapeFault EntryKind
  | .string word => kindOfWord word
  | .object [(word, content)] => do
    let kind ← kindOfWord word
    match content with
    | .null => .ok kind
    | other => .error (.wrongType other .nothing)
  | .object _ => .error .notOneMember
  | other => .error (.wrongType other .kind)

/-! ## Records -/

structure ParameterDraft where
  name : String
  declaredType : Option String
  indexed : Bool

/-- The keys of a parameter's fields, in the order of the fields. -/
def parameterFields : List String :=
  ["name", "type", "indexed"]

/-- Reads one field of a parameter. Other keys have no meaning. -/
def ParameterDraft.readField (draft : ParameterDraft) (key : String) (value : Json) :
    Except ShapeFault ParameterDraft :=
  match key with
  | "name" => do return { draft with name := ← readText value }
  | "type" => do return { draft with declaredType := some (← readText value) }
  | "indexed" => do return { draft with indexed := ← readFlag value }
  | _ => .ok draft

def readFields {α : Type} (readField : α → String → Json → Except ShapeFault α) (draft : α)
    (fields : List (String × Json)) : Except ShapeFault α :=
  fields.foldlM (fun current field => readField current field.1 field.2) draft

/-- Reads a parameter. Its type has to be there. -/
def readParameter (value : Json) : Except ShapeFault Parameter := do
  let blank : ParameterDraft := ⟨"", none, false⟩
  let draft ← match value with
    | .object members => readFields ParameterDraft.readField blank members
    | .array elements => do
      let draft ← readFields ParameterDraft.readField blank (parameterFields.zip elements)
      if elements.length < 2 then .error (.tooShort 1 .parameter 3)
      else if 3 < elements.length then .error (.tooLong elements.length)
      else .ok draft
    | other => .error (.wrongType other .parameter)
  match draft.declaredType with
  | some declaredType => .ok ⟨draft.name, declaredType, draft.indexed⟩
  | none => .error (.missingField "type")

/-- An entry as far as it is read, with all that decides its mutability. -/
structure EntryDraft where
  kind : EntryKind
  name : String
  inputs : List Parameter
  outputs : List Parameter
  mutability : Option String
  constant : Option Bool
  payable : Option Bool

/-- The keys of an entry's fields, in the order of the fields. -/
def entryFields : List String :=
  ["type", "name", "inputs", "outputs", "stateMutability", "constant", "payable"]

/-- Reads one field of an entry. Other keys have no meaning. -/
def EntryDraft.readField (draft : EntryDraft) (key : String) (value : Json) :
    Except ShapeFault EntryDraft :=
  match key with
  | "type" => do return { draft with kind := ← readEntryKind value }
  | "name" => do return { draft with name := ← readText value }
  | "inputs" => do return { draft with inputs := ← readList readParameter value }
  | "outputs" => do return { draft with outputs := ← readList readParameter value }
  | "stateMutability" => do return { draft with mutability := ← readOptional readText value }
  | "constant" => do return { draft with constant := ← readOptional readFlag value }
  | "payable" => do return { draft with payable := ← readOptional readFlag value }
  | _ => .ok draft

/-- Reads an entry's fields. An object may leave out each of them, an array the first four. -/
def readEntryDraft (value : Json) : Except ShapeFault EntryDraft :=
  let blank : EntryDraft := ⟨.function, "", [], [], none, none, none⟩
  match value with
  | .object members => readFields EntryDraft.readField blank members
  | .array elements => do
    let draft ← readFields EntryDraft.readField blank (entryFields.zip elements)
    if elements.length < 7 then .error (.tooShort (max 4 elements.length) .entry 7)
    else if 7 < elements.length then .error (.tooLong elements.length)
    else .ok draft
  | other => .error (.wrongType other .entry)

/-- The mutability of an entry: what its word says, else view if it is constant, else payable if it
takes value. -/
def EntryDraft.decideMutability (draft : EntryDraft) : Except DocumentFault Mutability :=
  match draft.mutability with
  | some word =>
    match Mutability.ofWord? word with
    | some mutability => .ok mutability
    | none => .error (.unknownMutability word)
  | none =>
    if draft.constant = some true then .ok .view
    else if draft.payable = some true then .ok .payable
    else .ok .normal

def readEntry (value : Json) : Except DocumentFault Entry := do
  let draft ← (readEntryDraft value).mapError .shape
  let mutability ← draft.decideMutability
  return ⟨draft.kind, draft.name, draft.inputs, draft.outputs, mutability⟩

/-! ## Documents -/

def entryValues? : Json → Option (List Json)
  | .array elements => some elements
  | .object members =>
    match members.lookup "abi" with
    | some (.array elements) => some elements
    | _ => none
  | _ => none

def readDocument (document : Json) : Except DocumentFault (List Entry) :=
  match entryValues? document with
  | some values => values.mapM readEntry
  | none => .error .notEntries

end ContractBinder.Abi
