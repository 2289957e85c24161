import ContractBinder.Proofs.Binding.Identifiers
import ContractBinder.Proofs.Code.PathReading
import ContractBinder.Render.Module

/-!
# Rendering succeeds

Bindings that can be rendered are rendered (`render_eq_ok`), and their module is
code if the path of the runtime library is made of identifiers, as this path can
stand wherever it is used (`renderSource_eq_ok`).
-/

namespace ContractBinder

open Abi (Container WireKind WireType)
open Code (IsIdentifier pathText)

/-! ## 1. Runtime names -/

/-- The names of the runtime types that a type is rendered with. -/
def Abi.WireType.runtimeNames : WireType → List String
  | .primitive kind => [kind.wireName]
  | .fixedArray element length => (Container.fixed length).wireName :: element.runtimeNames
  | .dynamicArray element => Container.dynamic.wireName :: element.runtimeNames

theorem isIdentifier_kindName (kind : WireKind) : IsIdentifier kind.wireName := by
  cases kind with
  | uint bits => exact Naming.isIdentifier_withNumber (by decide) bits
  | int bits => exact Naming.isIdentifier_withNumber (by decide) bits
  | fixedBytes count => exact Naming.isIdentifier_withNumber (by decide) count
  | bool | address | bytes | string => exact ⟨by decide, by decide⟩

theorem isIdentifier_containerName (container : Container) : IsIdentifier container.wireName := by
  cases container with
  | static length => exact Naming.isIdentifier_withNumber (by decide) length
  | bounded length =>
    change IsIdentifier "StaticArray"
    exact ⟨by decide, by decide⟩
  | dynamic => exact ⟨by decide, by decide⟩

theorem isIdentifier_of_mem_runtimeNames {wire : WireType} {name : String}
    (member : name ∈ wire.runtimeNames) : IsIdentifier name := by
  induction wire with
  | primitive kind => exact List.mem_singleton.mp member ▸ isIdentifier_kindName kind
  | fixedArray element length ih =>
    rcases List.mem_cons.mp member with rfl | inner
    · exact isIdentifier_containerName _
    · exact ih inner
  | dynamicArray element ih =>
    rcases List.mem_cons.mp member with rfl | inner
    · exact isIdentifier_containerName _
    · exact ih inner

theorem isIdentifier_of_mem_fixedNames {wire : WireType} {name : String}
    (member : name ∈ logField :: valueParamName :: wire.runtimeNames) : IsIdentifier name := by
  rcases List.mem_cons.mp member with rfl | member
  · exact ⟨by decide, by decide⟩
  rcases List.mem_cons.mp member with rfl | member
  · exact ⟨by decide, by decide⟩
  · exact isIdentifier_of_mem_runtimeNames member

/-! ## 2. Items and methods -/

theorem requireIdentifiers_eq_ok {names : List String}
    (plain : ∀ name ∈ names, Code.isPlain name = true) : requireIdentifiers names = .ok () := by
  have none : names.find? (fun name => !Code.isPlain name) = none :=
    List.find?_eq_none.mpr fun name member => by simp [plain name member]
  rw [requireIdentifiers, none]

namespace Renderer

variable (r : Renderer)

theorem remoteCall_eq_ok {function : FunctionBinding} (renderable : function.Renderable) :
    ∃ remote, r.remoteCall function = .ok remote := by
  unfold remoteCall
  split
  · exact ⟨_, rfl⟩
  · exact ⟨_, rfl⟩
  · exact ⟨_, rfl⟩
  · exact ⟨_, rfl⟩
  · next shape =>
    obtain ⟨output, only⟩ := renderable.single shape
    simp only [FunctionBinding.singleOutput, only]
    exact ⟨_, rfl⟩
  · exact ⟨_, rfl⟩

theorem renderFunction_of_remoteCall {function : FunctionBinding}
    {remote : Option (List Code.Token × List Code.Token)}
    (plain : ∀ name ∈ function.identifiers, Code.isPlain name = true)
    (called : r.remoteCall function = .ok remote) :
    r.renderFunction function = .ok (r.methodTokens function remote) := by
  rw [renderFunction, requireIdentifiers_eq_ok plain, called]
  rfl

theorem renderFunction_eq_ok {function : FunctionBinding} (renderable : function.Renderable) :
    ∃ tokens, r.renderFunction function = .ok tokens := by
  obtain ⟨_, called⟩ := r.remoteCall_eq_ok renderable
  exact ⟨_, r.renderFunction_of_remoteCall
    (fun name member => (renderable.names name member).plain) called⟩

theorem renderEventItems_eq_ok {event : EventBinding}
    (plain : ∀ name ∈ event.methodIdentifiers, Code.isPlain name = true) :
    r.renderEventItems event = .ok (r.eventItems event) := by
  have items : ∀ name ∈ event.itemIdentifiers, Code.isPlain name = true := fun name member =>
    plain name (by simp [EventBinding.methodIdentifiers, member])
  rw [renderEventItems, requireIdentifiers_eq_ok items]
  rfl

theorem renderEventMethods_eq_ok {event : EventBinding}
    (plain : ∀ name ∈ event.methodIdentifiers, Code.isPlain name = true) :
    r.renderEventMethods event = .ok (r.eventMethods event) := by
  rw [renderEventMethods, requireIdentifiers_eq_ok plain]
  rfl

/-- Bindings that can be rendered are rendered. -/
theorem render_eq_ok {bindings : ContractBindings} (renderable : bindings.Renderable) :
    ∃ tokens, r.render bindings = .ok tokens := by
  have names : ∀ name ∈ bindings.contractName :: bindings.nameConstants.map NameConstant.name,
      IsIdentifier name := by
    intro name member
    rcases List.mem_cons.mp member with rfl | listed
    · exact renderable.contractName
    · obtain ⟨constant, present, rfl⟩ := List.mem_map.mp listed
      exact renderable.constants constant present
  obtain ⟨functions, made⟩ := Outcome.exists_mapM_eq_ok fun function member =>
    r.renderFunction_eq_ok (renderable.functions function member)
  have plain : ∀ event ∈ bindings.events, ∀ name ∈ event.methodIdentifiers,
      Code.isPlain name = true := fun event member name listed =>
    (renderable.events event member name listed).plain
  obtain ⟨items, madeItems⟩ := Outcome.exists_mapM_eq_ok fun event member =>
    ⟨_, r.renderEventItems_eq_ok (plain event member)⟩
  obtain ⟨methods, madeMethods⟩ := Outcome.exists_mapM_eq_ok fun event member =>
    ⟨_, r.renderEventMethods_eq_ok (plain event member)⟩
  rw [render, requireIdentifiers_eq_ok fun name member => (names name member).plain, made,
    madeItems, madeMethods]
  exact ⟨_, rfl⟩

end Renderer

/-! ## 3. Modules -/

/-- The path of the runtime library is made of identifiers. It may be absolute. -/
def Config.HasPlainRuntime (config : Config) : Prop :=
  ∃ absolute names, names ≠ [] ∧ (∀ name ∈ names, IsIdentifier name) ∧
    config.runtimePath = pathText absolute names

theorem fitsEverywhere_of_identifiers {absolute : Bool} {names : List String}
    (identifiers : ∀ name ∈ names, IsIdentifier name) :
    Code.Path.fitsEverywhere ⟨absolute, names.map Code.plainSegment⟩ = true := by
  have noArguments : Code.Path.isPlain ⟨absolute, names.map Code.plainSegment⟩ = true := by
    refine List.all_eq_true.mpr fun segment member => ?_
    obtain ⟨name, _, rfl⟩ := List.mem_map.mp member
    rfl
  -- A path that begins with this word could be a value but no type. The word is reserved.
  have noTry : (names.map Code.plainSegment).head?.map Code.Segment.name ≠ some "try" := by
    cases names with
    | nil => exact fun h => nomatch h
    | cons first others =>
      rintro ⟨⟩
      exact absurd (identifiers "try" List.mem_cons_self).free (by decide)
  rw [Code.Path.fitsEverywhere, noArguments, Bool.true_and, Bool.or_eq_true, decide_eq_true_eq]
  exact .inr noTry

theorem parse_runtimePath {config : Config} (runtime : config.HasPlainRuntime) :
    ∃ path, Code.Path.parse config.runtimePath = .ok path ∧ path.fitsEverywhere = true := by
  obtain ⟨absolute, names, nonempty, identifiers, spelled⟩ := runtime
  rw [spelled]
  exact ⟨_, Code.parse_pathText nonempty identifiers, fitsEverywhere_of_identifiers identifiers⟩

/-- Settings with a plain runtime path make sense if the contract has a name. -/
theorem validate_eq_ok {config : Config} (runtime : config.HasPlainRuntime)
    (named : (Text.trim config.contractName.toList).isEmpty = false) :
    config.validate = .ok () := by
  obtain ⟨path, parsed, _⟩ := parse_runtimePath runtime
  rw [Config.validate, named, parsed]
  rfl

/-- Bindings that can be rendered give a module if the runtime path is plain. -/
theorem renderSource_eq_ok {config : Config} {bindings : ContractBindings}
    (runtime : config.HasPlainRuntime) (renderable : bindings.Renderable) :
    ∃ source, renderSource config bindings = .ok source := by
  obtain ⟨path, parsed, fits⟩ := parse_runtimePath runtime
  let r : Renderer := ⟨path, config.nativeTypes, config.emitDocs⟩
  have made : Renderer.ofConfig config = .ok r := by
    rw [Renderer.ofConfig, parsed]
  obtain ⟨tokens, rendered⟩ := r.render_eq_ok renderable
  have reread : r.reread tokens = .ok (spreadBars tokens) := by
    rw [Renderer.reread, if_pos fits]
  refine ⟨Code.print (spreadBars tokens), ?_⟩
  rw [renderSource, made]
  simp only [bind, Except.bind, rendered, reread]
  rfl

end ContractBinder
