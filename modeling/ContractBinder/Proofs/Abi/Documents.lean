import ContractBinder.Generate
import ContractBinder.Proofs.Outcome

/-!
# Documents

An ABI document is an array of elements, or an object that holds one. The elements are
read one by one, and what an element says decides every field of its entry.

A field that an element says several times keeps the last value, as it does when the
element is read, and an array says its elements under the keys of the fields in order.

Results:

1. `Abi.readOr_of_readFields`: a field of a record is what the last member under its key
   says, or the default.
2. `Abi.translates_of_readEntry`: an accepted element says what its entry has.
3. `Abi.readEntry_eq_unknownMutability_iff`: an element that can be read is rejected only
   for a word that names no mutability.
4. `documents_are_read_by_element`: a document is the list of the entries of its elements.
-/

namespace ContractBinder

namespace Abi

/-! ## 1. Fields -/

/-- A value is what was said, or a default one if nothing was. -/
def ReadOr {α : Type} (read : Json → Except ShapeFault α) (default : α) (said : Option Json)
    (value : α) : Prop :=
  match said with
  | some json => read json = .ok value
  | none => value = default

/-- A field of a record that only the members under one key change is what the last of
these members says. -/
theorem readOr_of_readFields {δ α : Type} {readField : δ → String → Json → Except ShapeFault δ}
    {read : Json → Except ShapeFault α} {field : δ → α} {key : String}
    (follows : ∀ draft next other value, readField draft other value = .ok next →
      if other = key then read value = .ok (field next) else field next = field draft)
    {members : List (String × Json)} {first last : δ}
    (done : readFields readField first members = .ok last) :
    ReadOr read (field first) (members.reverse.lookup key) (field last) := by
  induction members generalizing first with
  | nil =>
    cases done
    rfl
  | cons member rest ih =>
    rw [readFields, List.foldlM_cons] at done
    obtain ⟨next, stepped, later⟩ := Outcome.bind_eq_ok_iff.mp done
    have step := follows _ _ _ _ stepped
    have inRest := ih later
    rw [List.reverse_cons, List.lookup_append]
    cases found : rest.reverse.lookup key with
    | some json =>
      rw [found] at inRest
      exact inRest
    | none =>
      rw [found] at inRest
      change field last = field next at inRest
      rw [Option.none_or, List.lookup_cons, List.lookup_nil, inRest]
      by_cases same : member.1 = key
      · rw [if_pos same] at step
        rw [same, beq_self_eq_true]
        exact step
      · rw [if_neg same] at step
        rw [beq_eq_false_iff_ne.mpr (Ne.symm same)]
        exact step

/-! ## 2. Elements -/

/-- The members of an element: those of an object, or the elements of an array under the
keys of the fields. -/
def entryMembers : Json → List (String × Json)
  | .object members => members
  | .array elements => entryFields.zip elements
  | _ => []

/-- What an element says under a key. -/
def said (element : Json) (key : String) : Option Json :=
  (entryMembers element).reverse.lookup key

def mutabilityWords : List (String × Mutability) :=
  [("pure", .pure), ("view", .view), ("payable", .payable), ("nonpayable", .normal)]

/-- The text that was said, if a text was. -/
def saidText? : Option Json → Option String
  | some (.string text) => some text
  | _ => none

/-- Whether truth was said. -/
def saidTrue : Option Json → Bool
  | some (.bool true) => true
  | _ => false

/-- The mutability of an element: that of its word if it says one, else view if it is
constant, else payable if it takes value. -/
def saidMutability? (element : Json) : Option Mutability :=
  match saidText? (said element "stateMutability") with
  | some word => mutabilityWords.lookup word
  | none =>
    some (if saidTrue (said element "constant") then .view
      else if saidTrue (said element "payable") then .payable
      else .normal)

/-- An entry has what an element says, and what it does not say has a default. -/
structure Translates (element : Json) (entry : Entry) : Prop where
  kind : ReadOr readEntryKind .function (said element "type") entry.kind
  name : ReadOr readText "" (said element "name") entry.name
  inputs : ReadOr (readList readParameter) [] (said element "inputs") entry.inputs
  outputs : ReadOr (readList readParameter) [] (said element "outputs") entry.outputs
  mutability : saidMutability? element = some entry.mutability
  readOnly : entry.mutability.isReadOnly = true ↔
    saidMutability? element = some .pure ∨ saidMutability? element = some .view

variable {element : Json} {draft first last : EntryDraft} {members : List (String × Json)}

/-- A field is put into a draft once its value is read. -/
theorem exists_of_put {α : Type} {outcome : Except ShapeFault α} {put : α → EntryDraft}
    (done : (do return put (← outcome)) = .ok last) :
    ∃ value, outcome = .ok value ∧ put value = last := by
  obtain ⟨value, found, same⟩ := Outcome.bind_eq_ok_iff.mp done
  exact ⟨value, found, Except.ok.inj same⟩

/-- A member changes the field that has its key, and no other one. -/
structure EntryDraft.Follows (draft next : EntryDraft) (key : String) (value : Json) : Prop where
  kind : if key = "type" then readEntryKind value = .ok next.kind else next.kind = draft.kind
  name : if key = "name" then readText value = .ok next.name else next.name = draft.name
  inputs : if key = "inputs" then readList readParameter value = .ok next.inputs
    else next.inputs = draft.inputs
  outputs : if key = "outputs" then readList readParameter value = .ok next.outputs
    else next.outputs = draft.outputs
  mutability : if key = "stateMutability" then readOptional readText value = .ok next.mutability
    else next.mutability = draft.mutability
  constant : if key = "constant" then readOptional readFlag value = .ok next.constant
    else next.constant = draft.constant
  payable : if key = "payable" then readOptional readFlag value = .ok next.payable
    else next.payable = draft.payable

theorem EntryDraft.follows_of_readField {draft next : EntryDraft} {key : String} {value : Json}
    (done : draft.readField key value = .ok next) : draft.Follows next key value := by
  unfold readField at done
  split at done
  case h_8 =>
    cases done
    constructor <;> rw [if_neg (by assumption)]
  all_goals
    obtain ⟨_, read, rfl⟩ := exists_of_put done
    constructor <;> simp [read]

/-- The draft of an element that says nothing. -/
def EntryDraft.blank : EntryDraft :=
  ⟨.function, "", [], [], none, none, none⟩

theorem readFields_of_readEntryDraft (accepted : readEntryDraft element = .ok draft) :
    readFields EntryDraft.readField .blank (entryMembers element) = .ok draft := by
  cases element with
  | object members => exact accepted
  | array elements =>
    obtain ⟨fields, read, sized⟩ := Outcome.bind_eq_ok_iff.mp accepted
    split at sized
    · cases sized
    split at sized
    · cases sized
    · cases sized
      exact read
  | null | bool | number | string => cases accepted

theorem readOr_said {α : Type} {read : Json → Except ShapeFault α} {field : EntryDraft → α}
    {key : String} (accepted : readEntryDraft element = .ok draft)
    (follows : ∀ {first next : EntryDraft} {other value}, first.Follows next other value →
      if other = key then read value = .ok (field next) else field next = field first) :
    ReadOr read (field .blank) (said element key) (field draft) :=
  readOr_of_readFields (fun _ _ _ _ done => follows (EntryDraft.follows_of_readField done))
    (readFields_of_readEntryDraft accepted)

/-! ## 3. Mutability -/

theorem ofWord?_eq_lookup (word : String) :
    Mutability.ofWord? word = mutabilityWords.lookup word := by
  unfold Mutability.ofWord?
  split
  · rfl
  · rfl
  · rfl
  · rfl
  · next notPure notView notPayable notNormal =>
    simp only [mutabilityWords, List.lookup_cons, List.lookup_nil,
      beq_eq_false_iff_ne.mpr notPure, beq_eq_false_iff_ne.mpr notView,
      beq_eq_false_iff_ne.mpr notPayable, beq_eq_false_iff_ne.mpr notNormal]

/-- A text that may be null is the one that was said. -/
theorem eq_saidText? {json? : Option Json} {text? : Option String}
    (read : ReadOr (readOptional readText) none json? text?) : text? = saidText? json? := by
  match json? with
  | none => exact read
  | some .null | some (.string _) => exact (Except.ok.inj read).symm
  | some (.bool _) | some (.number _) | some (.array _) | some (.object _) => cases read

/-- A flag that may be null is set if truth was said. -/
theorem eq_some_true_iff {json? : Option Json} {flag? : Option Bool}
    (read : ReadOr (readOptional readFlag) none json? flag?) :
    flag? = some true ↔ saidTrue json? = true := by
  match json? with
  | none => simp [show flag? = none from read, saidTrue]
  | some .null => simp [show flag? = none from (Except.ok.inj read).symm, saidTrue]
  | some (.bool found) =>
    cases found <;> simp [← (Except.ok.inj read : some _ = flag?), saidTrue]
  | some (.string _) | some (.number _) | some (.array _) | some (.object _) => cases read

/-- The mutability that a draft has is the one that the element says. -/
theorem decideMutability_eq (accepted : readEntryDraft element = .ok draft) :
    draft.decideMutability =
      match saidMutability? element with
      | some mutability => .ok mutability
      | none => .error (.unknownMutability
          ((saidText? (said element "stateMutability")).getD "")) := by
  have word : draft.mutability = saidText? (said element "stateMutability") :=
    eq_saidText? (readOr_said accepted (·.mutability))
  have constant : draft.constant = some true ↔ saidTrue (said element "constant") = true :=
    eq_some_true_iff (readOr_said accepted (·.constant))
  have payable : draft.payable = some true ↔ saidTrue (said element "payable") = true :=
    eq_some_true_iff (readOr_said accepted (·.payable))
  unfold EntryDraft.decideMutability saidMutability?
  rw [word]
  cases saidText? (said element "stateMutability") with
  | none =>
    simp only [constant, payable]
    split
    · rfl
    split
    · rfl
    · rfl
  | some word =>
    simp only [ofWord?_eq_lookup]
    cases mutabilityWords.lookup word with
    | none => rfl
    | some mutability => rfl

theorem translates_of_readEntry {entry : Entry} (accepted : readEntry element = .ok entry) :
    Translates element entry := by
  obtain ⟨draft, drafted, decided⟩ := Outcome.bind_eq_ok_iff.mp accepted
  obtain ⟨mutability, decides, same⟩ := Outcome.bind_eq_ok_iff.mp decided
  cases same
  have read := Outcome.mapError_eq_ok_iff.mp drafted
  have said : saidMutability? element = some mutability := by
    rw [decideMutability_eq read] at decides
    split at decides
    · next found => rw [found, Except.ok.inj decides]
    · cases decides
  have inputs : ReadOr (readList readParameter) [] (Abi.said element "inputs") draft.inputs :=
    readOr_said read (·.inputs)
  have outputs : ReadOr (readList readParameter) [] (Abi.said element "outputs") draft.outputs :=
    readOr_said read (·.outputs)
  exact
    { kind := readOr_said read (·.kind)
      name := readOr_said read (·.name)
      inputs
      outputs
      mutability := said
      readOnly := by
        rw [said]
        cases mutability <;> simp [Mutability.isReadOnly] }

theorem readEntry_of_shape {cause : ShapeFault} (rejected : readEntryDraft element = .error cause) :
    readEntry element = .error (.shape cause) := by
  rw [readEntry, rejected]
  rfl

/-- An element whose fields can be read is an entry exactly if it says a mutability. -/
theorem readEntry_of_draft (accepted : readEntryDraft element = .ok draft) :
    readEntry element =
      match saidMutability? element with
      | some mutability => .ok ⟨draft.kind, draft.name, draft.inputs, draft.outputs, mutability⟩
      | none => .error (.unknownMutability
          ((saidText? (said element "stateMutability")).getD "")) := by
  rw [readEntry, accepted]
  change (draft.decideMutability >>= fun mutability => _) = _
  rw [decideMutability_eq accepted]
  cases saidMutability? element with
  | none => rfl
  | some mutability => rfl

theorem readEntry_eq_unknownMutability_iff {word : String} :
    readEntry element = .error (.unknownMutability word) ↔
      (∃ draft, readEntryDraft element = .ok draft) ∧
        saidText? (said element "stateMutability") = some word ∧
        mutabilityWords.lookup word = none := by
  cases drafted : readEntryDraft element with
  | error cause => simp [readEntry_of_shape drafted]
  | ok draft =>
    rw [readEntry_of_draft drafted]
    unfold saidMutability?
    cases saidText? (said element "stateMutability") with
    | none => simp
    | some found =>
      simp only [Option.some.injEq, Except.ok.injEq, exists_eq', true_and, Option.getD_some]
      constructor
      · intro rejected
        split at rejected
        · cases rejected
        · next unknown =>
          cases rejected
          exact ⟨rfl, unknown⟩
      · rintro ⟨rfl, unknown⟩
        rw [unknown]

end Abi

/-! ## 4. Documents -/

/-- A document holds an array: it is this array, or an object that has it as its member `abi`. -/
def Abi.Holds (document : Json) (elements : List Json) : Prop :=
  document = .array elements ∨ document.member? "abi" = some (.array elements)

open Abi (Holds Translates readEntry readEntryDraft said saidText? saidMutability? mutabilityWords)

variable {document element : Json} {elements : List Json} {entries : List Abi.Entry}
  {entry : Abi.Entry} {fault : BindingFault}

theorem entryValues?_eq_some_iff : Abi.entryValues? document = some elements ↔
    Holds document elements := by
  cases document with
  | array _ => simp [Abi.entryValues?, Holds, Json.member?]
  | object members =>
    simp only [Abi.entryValues?, Holds, Json.member?, reduceCtorEq, false_or]
    split
    · next found => simp [found]
    · next other => simpa using other elements
  | null | bool | number | string => simp [Abi.entryValues?, Holds, Json.member?]

theorem entriesOf_of_holds (holds : Holds document elements) :
    entriesOf document = (elements.mapM readEntry).mapError .ofDocument := by
  rw [entriesOf, Abi.readDocument, entryValues?_eq_some_iff.mpr holds]

theorem entriesOf_of_not_holds (other : ¬ ∃ elements, Holds document elements) :
    entriesOf document = .error .notEntries := by
  have none : Abi.entryValues? document = none :=
    Option.eq_none_iff_forall_ne_some.mpr fun elements found =>
      other ⟨elements, entryValues?_eq_some_iff.mp found⟩
  rw [entriesOf, Abi.readDocument, none]
  rfl

/-- An element is accepted on its own. -/
theorem alone_eq_ok_iff : entriesOf (.array [element]) = .ok [entry] ↔
    readEntry element = .ok entry := by
  rw [entriesOf_of_holds (.inl rfl), Outcome.mapError_eq_ok_iff, Outcome.mapM_eq_ok_iff]
  simp

/-- An element is rejected on its own. -/
theorem alone_eq_error_iff : entriesOf (.array [element]) = .error fault ↔
    ∃ cause, readEntry element = .error cause ∧ BindingFault.ofDocument cause = fault := by
  rw [entriesOf_of_holds (.inl rfl), Outcome.mapError_eq_error_iff]
  refine exists_congr fun cause => and_congr_left fun _ => ?_
  rw [List.mapM_cons, Outcome.bind_eq_error_iff]
  simp [pure, Except.pure, bind, Except.bind]

theorem entriesOf_eq_ok_iff (holds : Holds document elements) :
    entriesOf document = .ok entries ↔
      List.Forall₂ (fun element entry => entriesOf (.array [element]) = .ok [entry])
        elements entries := by
  simp only [alone_eq_ok_iff]
  rw [entriesOf_of_holds holds, Outcome.mapError_eq_ok_iff, Outcome.mapM_eq_ok_iff]

theorem entriesOf_eq_error_iff (holds : Holds document elements) :
    entriesOf document = .error fault ↔
      ∃ before element after, elements = before ++ element :: after ∧
        (∀ other ∈ before, ∃ entry, entriesOf (.array [other]) = .ok [entry]) ∧
        entriesOf (.array [element]) = .error fault := by
  simp only [alone_eq_ok_iff, alone_eq_error_iff]
  rw [entriesOf_of_holds holds, Outcome.mapError_eq_error_iff]
  simp only [Outcome.mapM_eq_error_iff]
  constructor
  · rintro ⟨cause, ⟨before, element, after, split, accepted, rejected⟩, same⟩
    exact ⟨before, element, after, split, accepted, cause, rejected, same⟩
  · rintro ⟨before, element, after, split, accepted, cause, rejected, same⟩
    exact ⟨cause, ⟨before, element, after, split, accepted, rejected⟩, same⟩

theorem exists_alone_eq_ok_iff : (∃ entry, entriesOf (.array [element]) = .ok [entry]) ↔
    (∃ draft, readEntryDraft element = .ok draft) ∧ saidMutability? element ≠ none := by
  simp only [alone_eq_ok_iff]
  cases drafted : readEntryDraft element with
  | error cause => simp [Abi.readEntry_of_shape drafted]
  | ok draft =>
    rw [Abi.readEntry_of_draft drafted]
    cases saidMutability? element <;> simp

theorem alone_eq_unknownMutability_iff {word : String} :
    entriesOf (.array [element]) = .error (.unknownMutability word) ↔
      (∃ draft, readEntryDraft element = .ok draft) ∧
        saidText? (said element "stateMutability") = some word ∧
        mutabilityWords.lookup word = none := by
  have sameCause : ∀ cause, BindingFault.ofDocument cause = .unknownMutability word ↔
      cause = .unknownMutability word := by
    intro cause
    cases cause <;> simp [BindingFault.ofDocument]
  simp only [alone_eq_error_iff, sameCause, exists_eq_right]
  exact Abi.readEntry_eq_unknownMutability_iff

/-- A document is read element by element, whatever wraps them. An array and every object
that has it as its member `abi` have the same entries, or are rejected with the same fault:
the entries are those of the elements in order, each of which is accepted on its own, and
the fault is that of the first element that is rejected on its own. Every other document
is rejected.

An element whose fields can be read is accepted exactly if it says a mutability, that is
unless it says a word that names none, and its entry has what it says. -/
theorem documents_are_read_by_element (document : Json) :
    (∀ elements, Holds document elements →
      entriesOf document = entriesOf (.array elements) ∧
      (∀ entries, entriesOf document = .ok entries ↔
        List.Forall₂ (fun element entry => entriesOf (.array [element]) = .ok [entry])
          elements entries) ∧
      ∀ fault, entriesOf document = .error fault ↔
        ∃ before element after, elements = before ++ element :: after ∧
          (∀ other ∈ before, ∃ entry, entriesOf (.array [other]) = .ok [entry]) ∧
          entriesOf (.array [element]) = .error fault) ∧
    ((¬ ∃ elements, Holds document elements) → entriesOf document = .error .notEntries) ∧
    ∀ element,
      ((∃ entry, entriesOf (.array [element]) = .ok [entry]) ↔
        (∃ draft, readEntryDraft element = .ok draft) ∧ saidMutability? element ≠ none) ∧
      (∀ entry, entriesOf (.array [element]) = .ok [entry] → Translates element entry) ∧
      ∀ word, entriesOf (.array [element]) = .error (.unknownMutability word) ↔
        (∃ draft, readEntryDraft element = .ok draft) ∧
          saidText? (said element "stateMutability") = some word ∧
          mutabilityWords.lookup word = none := by
  refine ⟨fun elements holds => ⟨?_, fun entries => entriesOf_eq_ok_iff holds,
    fun fault => entriesOf_eq_error_iff holds⟩, entriesOf_of_not_holds, fun element =>
    ⟨exists_alone_eq_ok_iff, fun entry accepted => ?_, fun word =>
      alone_eq_unknownMutability_iff⟩⟩
  · rw [entriesOf_of_holds holds, entriesOf_of_holds (.inl rfl)]
  · exact Abi.translates_of_readEntry (alone_eq_ok_iff.mp accepted)

/-- The word for mutability counts more than the flags, and of the flags the first one. -/
theorem documents_are_read_by_element_legacy :
    let flags : List (String × Json) := [("constant", .bool true), ("payable", .bool true)]
    let deposit : Json := .object (flags ++ [("stateMutability", .string "payable")])
    let document : Json := .object
      [("abi", .array [.object flags, deposit]), ("bytecode", .string "0x")]
    Holds document [.object flags, deposit] ∧
      entriesOf document =
        .ok [⟨.function, "", [], [], .view⟩, ⟨.function, "", [], [], .payable⟩] ∧
      Translates deposit ⟨.function, "", [], [], .payable⟩ := by
  intro flags deposit document
  have holds : Holds document [.object flags, deposit] := .inr rfl
  have isPayable : entriesOf (.array [deposit]) = .ok [⟨.function, "", [], [], .payable⟩] := rfl
  obtain ⟨wrapped, _, each⟩ := documents_are_read_by_element document
  obtain ⟨_, accepted, _⟩ := wrapped _ holds
  exact ⟨holds, (accepted _).mpr (.cons rfl (.cons isPayable .nil)), (each deposit).2.1 _ isPayable⟩

end ContractBinder
