import ContractBinder.Proofs.Generation
import ContractBinder.Proofs.Render.Wrappers

/-!
# Consistent bindings

The mutability, the outputs, the shape and the value parameter of a method are set apart
from each other, and what it returns and how it is rendered is read off the shape alone.
A method that is made for a function has a shape that fits all of them, so faults about
bindings that contradict themselves do not come up.

Results:

1. `CallShape.fits_select`: when a method has which shape.
2. `FunctionBinding.returns_of_keeps`: what a method returns is what its outputs are.
3. `Renderer.renderFunction_of_keeps`: a method is rendered unless a name is no identifier.
4. `no_binding_contradicts_itself`: all of it, for every entry.
-/

namespace ContractBinder

open Abi (Entry Mutability NativeType TypeNode WireType)

/-! ## 1. Shapes -/

namespace CallShape

/-- `Fits mutability outputs shape`: the shape is the one of a method with this mutability
and these outputs. -/
structure Fits (mutability : Mutability) (outputs : List WireType) (shape : CallShape) : Prop where
  transaction : shape = .transaction ↔ mutability = .normal
  transactionPayable : shape = .transactionPayable ↔ mutability = .payable
  constantVoid : shape = .constantVoid ↔ mutability.isReadOnly = true ∧ outputs = []
  constantSingle : shape = .constantSingle ↔
    mutability.isReadOnly = true ∧ ∃ output, outputs = [output] ∧ output.isArray = false
  constantRawCollection : shape = .constantRawCollection ↔
    mutability.isReadOnly = true ∧ ∃ output, outputs = [output] ∧ output.isArray = true
  /-- The count is the number of outputs. -/
  constantTuple : ∀ count, shape = .constantTuple count ↔
    mutability.isReadOnly = true ∧ 2 ≤ outputs.length ∧ count = outputs.length

theorem fits_select (mutability : Mutability) (outputs : List WireType) :
    Fits mutability outputs (select mutability outputs) := by
  -- A shape is selected by exactly one case, which says what it is selected for.
  constructor
  · rw [← selects_iff]
    constructor
    · intro selected
      cases selected with
      | transaction normal => exact normal
    · intro normal
      exact .transaction normal
  · exact FunctionBinding.select_eq_transactionPayable_iff
  · rw [← selects_iff]
    constructor
    · intro selected
      cases selected with
      | constantVoid readOnly => exact ⟨readOnly, rfl⟩
    · rintro ⟨readOnly, rfl⟩
      exact .constantVoid readOnly
  · rw [← selects_iff]
    constructor
    · intro selected
      cases selected with
      | constantSingle readOnly noArray => exact ⟨readOnly, _, rfl, noArray⟩
    · rintro ⟨readOnly, output, rfl, noArray⟩
      exact .constantSingle readOnly noArray
  · rw [← selects_iff]
    constructor
    · intro selected
      cases selected with
      | constantRawCollection readOnly array => exact ⟨readOnly, _, rfl, array⟩
    · rintro ⟨readOnly, output, rfl, array⟩
      exact .constantRawCollection readOnly array
  · intro count
    rw [← selects_iff]
    constructor
    · intro selected
      cases selected with
      | constantTuple readOnly => exact ⟨readOnly, Nat.le_add_left .., rfl⟩
    · rintro ⟨readOnly, several, rfl⟩
      match outputs, several with
      | first :: second :: others, _ => exact .constantTuple readOnly

end CallShape

/-! ## 2. What methods return -/

namespace FunctionBinding

variable {entry : Entry} {function : FunctionBinding}

/-- `function.Returns returned`: the method returns what its shape says, and the types in
there are the projections of its outputs, in order. -/
inductive Returns (function : FunctionBinding) : ReturnType → Prop
  | receipt : function.shape.isTransaction = true → Returns function .transactionReceipt
  | nothing : function.shape = .constantVoid → function.outputs = [] →
      Returns function .noReturnValue
  | native {output : Output} {type : NativeType} :
      function.shape = .constantSingle → function.outputs = [output] →
      (TypeNode.whole output.wire).project = .ok type → Returns function (.native type)
  | rawList {output : Output} :
      function.shape = .constantRawCollection → function.outputs = [output] →
      output.wire.isArray = true → Returns function .rawList
  | tuple {types : List NativeType} :
      function.shape = .constantTuple function.outputs.length →
      List.Forall₂ (fun output type => (TypeNode.whole output.wire).project = .ok type)
        function.outputs types →
      Returns function (.tuple types)

theorem returns_of_keeps (keeps : function.Keeps entry) :
    ∃ returned, function.returnType = .ok returned ∧ function.Returns returned := by
  have selected := CallShape.selects_iff.mpr keeps.shape.symm
  generalize shape : function.shape = selectedShape, listed : function.outputs.map Output.wire =
    outputs at selected
  unfold returnType
  rw [shape]
  cases selected with
  | transaction => exact ⟨_, rfl, .receipt (by rw [shape]; rfl)⟩
  | transactionPayable => exact ⟨_, rfl, .receipt (by rw [shape]; rfl)⟩
  | constantVoid => exact ⟨_, rfl, .nothing shape (List.map_eq_nil_iff.mp listed)⟩
  | constantSingle =>
    obtain ⟨output, only, _⟩ := List.map_eq_singleton_iff.mp listed
    refine ⟨.native output.native, ?_, .native shape only output.projects⟩
    rw [singleOutput, only]
    rfl
  | constantRawCollection _ array =>
    obtain ⟨output, only, rfl⟩ := List.map_eq_singleton_iff.mp listed
    exact ⟨_, rfl, .rawList shape only array⟩
  | constantTuple =>
    have count := congrArg List.length listed
    simp only [List.length_map, List.length_cons] at count
    refine ⟨_, rfl, .tuple (by rw [shape, count]) ?_⟩
    exact List.forall₂_map_right_iff.mpr (List.forall₂_same.mpr fun output _ => output.projects)

end FunctionBinding

/-! ## 3. Rendering -/

/-- Names are refused only if one of them is no identifier. -/
theorem requireIdentifiers_cases (names : List String) :
    (∀ name ∈ names, Code.isPlain name = true) ∨
      ∃ name ∈ names, Code.isPlain name = false ∧
        requireIdentifiers names = .error (.illegalName name) := by
  cases found : names.find? fun name => !Code.isPlain name with
  | none =>
    refine .inl fun name listed => ?_
    simpa using List.find?_eq_none.mp found name listed
  | some name =>
    have illegal := List.find?_some found
    refine .inr ⟨name, List.mem_of_find?_eq_some found, by simpa using illegal, ?_⟩
    rw [requireIdentifiers, found]

namespace Renderer

variable {entry : Entry} {function : FunctionBinding}

theorem remoteCall_of_keeps (r : Renderer) (keeps : function.Keeps entry) :
    ∃ remote, r.remoteCall function = .ok remote := by
  by_cases void : function.shape = .constantVoid
  · unfold remoteCall
    rw [void]
    exact ⟨none, rfl⟩
  · obtain ⟨returned, call, called, _⟩ := r.calls_of_keeps keeps void
    exact ⟨_, called⟩

/-- A method is rendered, or it has a name that is no identifier, at which rendering ends
at once. -/
theorem renderFunction_of_keeps (r : Renderer) (keeps : function.Keeps entry) :
    (∃ tokens, r.renderFunction function = .ok tokens) ∨
      ∃ name ∈ function.identifiers, Code.isPlain name = false ∧
        r.renderFunction function = .error (.illegalName name) := by
  rcases requireIdentifiers_cases function.identifiers with plain | ⟨name, listed, illegal, refused⟩
  · obtain ⟨remote, called⟩ := r.remoteCall_of_keeps keeps
    exact .inl ⟨_, r.renderFunction_of_remoteCall plain called⟩
  · refine .inr ⟨name, listed, illegal, ?_⟩
    rw [renderFunction, refused]
    rfl

end Renderer

/-! ## 4. Entries -/

/-- What a method is made of goes together, and with the function that it is made for. -/
structure FunctionBinding.Consistent (entry : Entry) (function : FunctionBinding) : Prop where
  mutability : function.mutability = entry.mutability
  outputs : resolveTypes entry.outputs = .ok (function.outputs.map Output.wire)
  shape : CallShape.Fits function.mutability (function.outputs.map Output.wire) function.shape
  /-- There is a value to transfer exactly if the shape transfers one. -/
  value : function.valueParam.isSome = true ↔ function.shape = .transactionPayable
  returned : ∃ returned, function.returnType = .ok returned ∧ function.Returns returned
  /-- Under any generated names it is rendered, if all names are identifiers. -/
  rendered : ∀ (r : Renderer) (named : FunctionBinding), function.Renamed named →
    (∃ tokens, r.renderFunction named = .ok tokens) ∨
      ∃ name ∈ named.identifiers, Code.isPlain name = false ∧
        r.renderFunction named = .error (.illegalName name)

theorem FunctionBinding.consistent_of_synthesize {entry : Entry} {function : FunctionBinding}
    (made : (FunctionBinding.synthesize entry).outcome = .ok function) :
    function.Consistent entry := by
  have keeps := keeps_of_synthesize made
  have fits := CallShape.fits_select function.mutability (function.outputs.map Output.wire)
  rw [keeps.mutability, ← keeps.shape] at fits
  exact
    { mutability := keeps.mutability
      outputs := keeps.outputs
      shape := keeps.mutability ▸ fits
      value := keeps.value.trans fits.transactionPayable.symm
      returned := returns_of_keeps keeps
      rendered := fun r named renamed => r.renderFunction_of_keeps (keeps.renamed renamed) }

/-- No binding contradicts itself. The shape of a method that is made for a function fits its
mutability and its outputs, it has a value to transfer exactly if it is payable, what it
returns is defined and is what its shape and its outputs say, and it can be rendered. So
making a binding can only fail for a declared type that does not resolve, and a type that
resolves has a caller's type, as a field of an event, too. -/
theorem no_binding_contradicts_itself (entry : Entry) :
    (∀ function, (FunctionBinding.synthesize entry).outcome = .ok function →
      function.Consistent entry) ∧
    (∀ fault, (FunctionBinding.synthesize entry).outcome = .error fault ∨
        (EventBinding.synthesize entry).outcome = .error fault →
      ∃ declared cause, fault = .invalidType declared cause) ∧
    ∀ declared wire, BindingFault.resolve declared = .ok wire →
      (TypeNode.whole wire).project = .ok wire.native ∧
      (TypeNode.whole wire).projectIndexed = .ok wire.indexedNative := by
  refine ⟨fun _ => FunctionBinding.consistent_of_synthesize, ?_, fun _ _ _ => ⟨rfl, rfl⟩⟩
  rintro fault (failed | failed)
  · rw [FunctionBinding.synthesize_outcome] at failed
    exact FunctionBinding.ofEntry_eq_error failed
  · rw [EventBinding.synthesize_outcome] at failed
    exact EventBinding.ofEntry_eq_error failed

/-- Three outputs are returned as a tuple of their projections. One that does not resolve
would have been the fault of the function. -/
theorem no_binding_contradicts_itself_tuple :
    let reading (outputs : List String) : Entry :=
      ⟨.function, "read", [], outputs.map (⟨"", ·, false⟩), .pure⟩
    let three := reading ["uint8[2][]", "string", "bytes4 storage"]
    (∃ function, (FunctionBinding.synthesize three).outcome = .ok function ∧
      function.shape = .constantTuple 3 ∧
      function.returnType.toOption = some (.tuple [.list (.list .integer), .text, .bytes]) ∧
      function.Consistent three) ∧
    (∃ fault, (FunctionBinding.synthesize (reading ["string", "uint7"])).outcome = .error fault ∧
      ∃ declared cause, fault = .invalidType declared cause) ∧
    ∃ wire, BindingFault.resolve "bytes[]" = .ok wire ∧
      (TypeNode.whole wire).project = .ok wire.native ∧
      (TypeNode.whole wire).projectIndexed = .ok wire.indexedNative := by
  intro reading three
  have made : (FunctionBinding.synthesize three).outcome.toOption.map
      (fun function => (function.shape, function.returnType.toOption)) =
        some (.constantTuple 3, some (.tuple [.list (.list .integer), .text, .bytes])) := by
    decide +kernel
  have refused : (FunctionBinding.synthesize (reading ["string", "uint7"])).outcome.toOption =
      none := by
    decide +kernel
  have resolved : (BindingFault.resolve "bytes[]").toOption.isSome = true := by decide +kernel
  refine ⟨?_, ?_, ?_⟩
  · obtain ⟨function, made, same⟩ := Option.map_eq_some_iff.mp made
    rw [Outcome.toOption_eq_some_iff] at made
    obtain ⟨shape, returned⟩ := Prod.mk.inj same
    exact ⟨function, made, shape, returned, (no_binding_contradicts_itself three).1 function made⟩
  · obtain ⟨fault, failed⟩ := Outcome.toOption_eq_none_iff.mp refused
    exact ⟨fault, failed, (no_binding_contradicts_itself _).2.1 fault (.inl failed)⟩
  · obtain ⟨wire, resolved⟩ := Option.isSome_iff_exists.mp resolved
    rw [Outcome.toOption_eq_some_iff] at resolved
    exact ⟨wire, resolved, (no_binding_contradicts_itself three).2.2 _ wire resolved⟩

end ContractBinder
