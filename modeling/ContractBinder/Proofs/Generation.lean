import ContractBinder.Generate
import ContractBinder.Proofs.Render.Rendering

/-!
# Generation of emitted ABIs

If the names of an ABI are such as compilers of contracts emit, and the runtime
path is made of identifiers, then generation ends with a module, or with a fault
for which the ABI's text or one of its types is to blame (`generate_total`).
Types and everything else in the text are arbitrary.
-/

namespace ContractBinder

open Abi (Entry Parameter WireType)
open Code (IsIdentifier)
open Naming (IsEmitted)

/-! ## 1. Faults of an ABI -/

/-- The faults for which the text of an ABI, or a type in it, is to blame. -/
inductive BindingFault.BlamesAbi : BindingFault → Prop
  | json (cause : JsonCause) : BlamesAbi (.json cause)
  | notEntries : BlamesAbi .notEntries
  | unknownMutability (word : String) : BlamesAbi (.unknownMutability word)
  | invalidType (entry declared : String) (cause : Abi.TypeFault) :
      BlamesAbi (.inEntry entry (.invalidType declared cause))

theorem blamesAbi_of_readAbi {abi : String} {fault : BindingFault}
    (failed : readAbi abi = .error fault) : fault.BlamesAbi := by
  rcases Outcome.bind_eq_error_iff.mp failed with malformed | ⟨document, _, shape⟩
  · obtain ⟨cause, _, rfl⟩ := Outcome.mapError_eq_error_iff.mp malformed
    exact .json (.malformed cause)
  · obtain ⟨cause, _, rfl⟩ := Outcome.mapError_eq_error_iff.mp shape
    cases cause with
    | notEntries => exact .notEntries
    | unknownMutability word => exact .unknownMutability word
    | shape fault => exact .json (.shape fault)

theorem resolveTypes_eq_error {parameters : List Parameter} {fault : BindingFault}
    (failed : resolveTypes parameters = .error fault) :
    ∃ declared cause, fault = .invalidType declared cause := by
  obtain ⟨parameter, _, invalid⟩ := Outcome.exists_of_mapM_eq_error failed
  obtain ⟨cause, _, rfl⟩ := Outcome.mapError_eq_error_iff.mp invalid
  exact ⟨parameter.declaredType, cause, rfl⟩

theorem FunctionBinding.ofEntry_eq_error {entry : Entry} {fault : BindingFault}
    (failed : FunctionBinding.ofEntry entry = .error fault) :
    ∃ declared cause, fault = .invalidType declared cause :=
  resolveTypes_eq_error (FunctionBinding.ofEntry_eq_error_iff.mp failed)

theorem EventBinding.ofEntry_eq_error {entry : Entry} {fault : BindingFault}
    (failed : EventBinding.ofEntry entry = .error fault) :
    ∃ declared cause, fault = .invalidType declared cause :=
  resolveTypes_eq_error (EventBinding.ofEntry_eq_error_iff.mp failed)

theorem blamesAbi_of_compile {config : Config} {entries : List Entry} {fault : BindingFault}
    (failed : (compile config entries).outcome = .error fault) : fault.BlamesAbi := by
  obtain ⟨entry, _, source, rfl, synthesized⟩ := compile_outcome_eq_error failed
  obtain ⟨declared, cause, rfl⟩ := synthesized.elim FunctionBinding.ofEntry_eq_error
    EventBinding.ofEntry_eq_error
  exact .invalidType entry.name declared cause

/-! ## 2. Generation -/

theorem generate_outcome (abi : String) (config : Config) :
    (generate abi config).outcome = (do
      let entries ← readAbi abi
      let bindings ← (compile config entries).outcome
      let manifest := Manifest.ofBindings bindings abi
      let body ← renderSource config bindings
      return { bindings, source := sourceOf manifest.abiHash body, manifest }) := by
  simp only [generate, Logged.bind_outcome]
  rfl

/-- Generation neither breaks off nor fails to render when the names of the ABI
and of the contract are emitted ones and the runtime path is plain. It ends with
a module or with a fault of the ABI, and every name that is rendered, whether it
comes from the ABI, is fixed or names a runtime type, is an identifier. -/
theorem generate_total {abi : String} {config : Config} (runtime : config.HasPlainRuntime)
    (contract : IsEmitted config.contractName)
    (emitted : ∀ entries, readAbi abi = .ok entries → ∀ entry ∈ entries, entry.Emitted) :
    ((∃ generated, (generate abi config).outcome = .ok generated) ∨
      ∃ fault, (generate abi config).outcome = .error fault ∧ fault.BlamesAbi) ∧
    (∀ entries bindings, readAbi abi = .ok entries →
      (compile config entries).outcome = .ok bindings → bindings.Renderable) ∧
    ∀ wire : WireType, ∀ name ∈ logField :: valueParamName :: wire.runtimeNames,
      IsIdentifier name := by
  have renderable : ∀ entries bindings, readAbi abi = .ok entries →
      (compile config entries).outcome = .ok bindings → bindings.Renderable :=
    fun entries _ read compiled => compile_renderable contract (emitted entries read) compiled
  refine ⟨?_, renderable, fun wire name member => isIdentifier_of_mem_fixedNames member⟩
  rw [generate_outcome]
  cases read : readAbi abi with
  | error fault => exact .inr ⟨fault, rfl, blamesAbi_of_readAbi read⟩
  | ok entries =>
    simp only [bind, Except.bind]
    cases compiled : (compile config entries).outcome with
    | error fault => exact .inr ⟨fault, rfl, blamesAbi_of_compile compiled⟩
    | ok bindings =>
      obtain ⟨source, rendered⟩ :=
        renderSource_eq_ok runtime (renderable entries bindings read compiled)
      let manifest := Manifest.ofBindings bindings abi
      refine .inl ⟨⟨bindings, sourceOf manifest.abiHash source, manifest⟩, ?_⟩
      simp only [rendered, pure, Except.pure, manifest]

/-- A function whose name has nothing left when it is converted, with a parameter
that is called like a reserved word. -/
theorem generate_total_dollar :
    ∃ abi, readAbi abi = .ok [⟨.function, "$", [⟨"self", "bool", false⟩], [], .normal⟩] ∧
      Config.default.validate = .ok () ∧
      ((∃ generated, (generate abi Config.default).outcome = .ok generated) ∨
        ∃ fault, (generate abi Config.default).outcome = .error fault ∧ fault.BlamesAbi) := by
  have read : readAbi ("[\x7b\"type\":\"function\",\"name\":\"$\"," ++
      "\"inputs\":[\x7b\"name\":\"self\",\"type\":\"bool\"\x7d]\x7d]") =
      .ok [⟨.function, "$", [⟨"self", "bool", false⟩], [], .normal⟩] :=
    Outcome.toOption_eq_some_iff.mp (by decide +kernel)
  have runtime : Config.default.HasPlainRuntime :=
    ⟨true, ["contract_runtime"], by decide, fun name member => by
      cases List.mem_singleton.mp member
      exact ⟨by decide, by decide⟩, rfl⟩
  refine ⟨_, read, validate_eq_ok runtime (by decide), (generate_total runtime (by decide) ?_).1⟩
  intro entries found entry member
  cases read.symm.trans found
  cases List.mem_singleton.mp member
  exact ⟨by decide, by decide⟩

end ContractBinder
