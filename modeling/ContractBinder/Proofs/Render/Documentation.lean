import ContractBinder.Proofs.Render.Composition
import ContractBinder.Proofs.Render.Records
import ContractBinder.Proofs.Render.TypeReferences

/-!
# Code with and without documentation

Documentation is put in front of items only: the type of a contract, its methods, and the
items and methods of its events. Everything else is rendered in the same way by renderers that
differ in documentation only.

Results:

1. `Renderer.undocumented_of_isPlain`: the path of the runtime library holds no attribute for
   documentation unless it has arguments.
2. `docs_never_change_code`: what is rendered with and without documentation is the same once
   the attributes for documentation are deleted.
3. `runtime_path_documents_code`: if the path of the runtime library holds such an attribute,
   it is there without documentation, too.
-/

namespace ContractBinder

open Code (Composed Inserted Token deleteDocs holdsDoc itemBeginnings spellDocs)
open Abi (NativeType WireType)

namespace Renderer

/-! ## 1. Renderers that differ in documentation only -/

/-- The renderer with documentation, or else without. -/
def documenting (r : Renderer) (emitDocs : Bool) : Renderer :=
  { r with emitDocs }

section

variable (r : Renderer) (emitDocs : Bool)

theorem runtime_documenting : (r.documenting emitDocs).runtime = r.runtime :=
  rfl

theorem item_documenting (names : List String) :
    (r.documenting emitDocs).item names = r.item names :=
  rfl

theorem abiItem_documenting (names : List String) :
    (r.documenting emitDocs).abiItem names = r.abiItem names :=
  rfl

theorem wireType_documenting (wire : WireType) :
    (r.documenting emitDocs).wireType wire = r.wireType wire :=
  wireType_congr (runtime_documenting r emitDocs) wire

theorem nativeType_documenting (type : NativeType) :
    (r.documenting emitDocs).nativeType type = r.nativeType type :=
  nativeType_congr (runtime_documenting r emitDocs) type

theorem typeReference_documenting (wire : WireType) (indexed : Bool) :
    (r.documenting emitDocs).typeReference wire indexed = r.typeReference wire indexed :=
  typeReference_congr (runtime_documenting r emitDocs) wire indexed

theorem callerType_documenting :
    (r.documenting emitDocs).callerType = r.callerType := by
  funext wire native
  simp only [callerType, wireType_documenting, nativeType_documenting]
  rfl

theorem fieldType_documenting :
    (r.documenting emitDocs).fieldType = r.fieldType := by
  funext wire indexed native
  simp only [fieldType, callerType_documenting]

theorem parameters_documenting (function : FunctionBinding) :
    (r.documenting emitDocs).parameters function = r.parameters function := by
  simp only [parameters, callerType_documenting]
  rfl

theorem functionValue_documenting (function : FunctionBinding) :
    (r.documenting emitDocs).functionValue function = r.functionValue function := by
  simp only [functionValue, encodedInputs, outputReferences, wireValue, wireType_documenting,
    typeReference_documenting]
  rfl

theorem remoteCall_documenting (function : FunctionBinding) :
    (r.documenting emitDocs).remoteCall function = r.remoteCall function := by
  simp only [remoteCall, callerType_documenting, wireType_documenting]
  rfl

theorem fieldReferences_documenting (event : EventBinding) :
    (r.documenting emitDocs).fieldReferences event = r.fieldReferences event := by
  simp only [fieldReferences, typeReference_documenting]

theorem recordFields_documenting (event : EventBinding) :
    (r.documenting emitDocs).recordFields event = r.recordFields event := by
  simp only [recordFields, fieldType_documenting]

theorem recordValues_documenting (event : EventBinding) :
    (r.documenting emitDocs).recordValues event = r.recordValues event := by
  simp only [recordValues, fieldType_documenting]

end

/-! ## 2. Code that holds no documentation -/

/-- The path of the runtime library holds no attribute for documentation. -/
def Undocumented (r : Renderer) : Prop :=
  holdsDoc (spellDocs r.runtime.tokens) = false

theorem undocumented_of_isPlain {r : Renderer} (plain : r.runtime.isPlain = true) :
    r.Undocumented := by
  have separator : Composed [] false (if r.runtime.absolute then Code.pathSep else []) := by
    split
    · exact .pathSep
    · exact .nil
  have segments : ∀ segment ∈ r.runtime.segments.map fun segment =>
      Token.name segment.name :: segment.arguments, Composed [] false segment := by
    refine List.forall_mem_map.mpr fun segment member => .name _ ?_
    rw [List.isEmpty_iff.mp (List.all_eq_true.mp plain segment member)]
    exact .nil
  have composed := separator.append (intercalate_closed .nil .append .pathSep segments)
  exact (composed.clear rfl).holdsDoc_eq_false

/-! ## 3. Documented code -/

/-- The tokens differ in attributes for documentation in front of items. -/
def Documents (documented plain : List Token) : Prop :=
  Inserted (spellDocs documented) (spellDocs plain)

variable {r : Renderer} {documented plain moreDocumented morePlain : List Token}

namespace Documents

theorem same (tokens : List Token) : Documents tokens tokens :=
  Inserted.same _

theorem append (first : Documents documented plain) (second : Documents moreDocumented morePlain) :
    Documents (documented ++ moreDocumented) (plain ++ morePlain) := by
  unfold Documents
  rw [Code.spellDocs_append, Code.spellDocs_append]
  exact Inserted.append first second

theorem enclosed (inside : Documents documented plain) (delimiter : Code.Delimiter) :
    Documents (Code.enclose delimiter documented) (Code.enclose delimiter plain) :=
  ((same [.opening delimiter]).append inside).append (same [.closing delimiter])

theorem flatten {documented plain : List (List Token)}
    (each : List.Forall₂ Documents documented plain) :
    Documents documented.flatten plain.flatten := by
  induction each with
  | nil => exact same []
  | cons first _ ih => exact first.append ih

/-- An item is documented in front. -/
theorem ofItem (r : Renderer) (text : String) {item : List Token}
    (begins : ∃ first ∈ itemBeginnings, item.head? = some first) :
    Documents ((r.documenting true).doc text ++ item) ((r.documenting false).doc text ++ item) := by
  obtain ⟨first, listed, head⟩ := begins
  obtain ⟨rest, rfl⟩ := List.head?_eq_some_iff.mp head
  have noDoc : first.isDoc = false := by
    rcases List.mem_pair.mp listed with rfl | rfl
    · rfl
    · rfl
  change Inserted (Code.docAttribute (" " ++ text) ++ spellDocs (first :: rest))
    (spellDocs (first :: rest))
  rw [Code.spellDocs_of_not_isDoc noDoc]
  exact .doc _ listed (.same _)

end Documents

theorem head?_methodOf (name : String) (parameters returned body : List Token) :
    ∃ first ∈ itemBeginnings,
      (Code.methodOf name parameters returned body).head? = some first :=
  ⟨.name "pub", by decide, rfl⟩

theorem documents_methodTokens (r : Renderer) (function : FunctionBinding)
    (remote : Option (List Token × List Token)) :
    Documents ((r.documenting true).methodTokens function remote)
      ((r.documenting false).methodTokens function remote) := by
  simp only [methodTokens, parameters_documenting, functionValue_documenting, item_documenting]
  cases remote with
  | none => exact .ofItem r _ ⟨Code.mark '#', by decide, rfl⟩
  | some remote => exact .ofItem r _ (head?_methodOf _ _ _ _)

theorem paired_renderFunction (r : Renderer) (function : FunctionBinding) :
    Outcome.Paired Documents ((r.documenting true).renderFunction function)
      ((r.documenting false).renderFunction function) := by
  unfold renderFunction
  rw [remoteCall_documenting, remoteCall_documenting]
  cases requireIdentifiers function.identifiers with
  | error fault => exact .error fault
  | ok _ =>
    cases found : r.remoteCall function with
    | error fault => exact .error fault
    | ok remote => exact .ok (r.documents_methodTokens function remote)

theorem documents_eventItems (r : Renderer) (event : EventBinding) :
    Documents ((r.documenting true).eventItems event) ((r.documenting false).eventItems event) := by
  have descriptor : Documents ((r.documenting true).descriptorItem event)
      ((r.documenting false).descriptorItem event) := by
    simp only [descriptorItem, fieldReferences_documenting, abiItem_documenting, List.append_assoc]
    exact .ofItem r _ ⟨.name "pub", by decide, rfl⟩
  have topic : Documents ((r.documenting true).topicItem event)
      ((r.documenting false).topicItem event) := by
    simp only [topicItem, List.append_assoc]
    exact .ofItem r _ ⟨.name "pub", by decide, rfl⟩
  have response : Documents ((r.documenting true).responseItem event)
      ((r.documenting false).responseItem event) := by
    simp only [responseItem, recordFields_documenting, item_documenting, List.append_assoc]
    exact .ofItem r _ ⟨Code.mark '#', by decide, rfl⟩
  exact (descriptor.append topic).append response

theorem documents_eventMethods (r : Renderer) (event : EventBinding) :
    Documents ((r.documenting true).eventMethods event)
      ((r.documenting false).eventMethods event) := by
  have extract : Documents ((r.documenting true).extractMethod event)
      ((r.documenting false).extractMethod event) := by
    simp only [extractMethod, recordValues_documenting, item_documenting]
    exact .ofItem r _ (head?_methodOf _ _ _ _)
  have stream : Documents ((r.documenting true).streamMethod event)
      ((r.documenting false).streamMethod event) := by
    simp only [streamMethod, recordValues_documenting, item_documenting]
    exact .ofItem r _ (head?_methodOf _ _ _ _)
  have rangeStream : Documents ((r.documenting true).rangeStreamMethod event)
      ((r.documenting false).rangeStreamMethod event) := by
    simp only [rangeStreamMethod, item_documenting]
    exact .ofItem r _ (head?_methodOf _ _ _ _)
  exact (extract.append stream).append rangeStream

theorem paired_renderEventItems (r : Renderer) (event : EventBinding) :
    Outcome.Paired Documents ((r.documenting true).renderEventItems event)
      ((r.documenting false).renderEventItems event) := by
  unfold renderEventItems
  cases requireIdentifiers event.itemIdentifiers with
  | error fault => exact .error fault
  | ok _ => exact .ok (r.documents_eventItems event)

theorem paired_renderEventMethods (r : Renderer) (event : EventBinding) :
    Outcome.Paired Documents ((r.documenting true).renderEventMethods event)
      ((r.documenting false).renderEventMethods event) := by
  unfold renderEventMethods
  cases requireIdentifiers event.methodIdentifiers with
  | error fault => exact .error fault
  | ok _ => exact .ok (r.documents_eventMethods event)

theorem documents_contractItem (r : Renderer) (contractName : String) :
    Documents ((r.documenting true).contractItem contractName)
      ((r.documenting false).contractItem contractName) := by
  simp only [contractItem, item_documenting, List.append_assoc]
  exact .ofItem r _ ⟨Code.mark '#', by decide, rfl⟩

theorem paired_render (r : Renderer) (bindings : ContractBindings) :
    Outcome.Paired Documents ((r.documenting true).render bindings)
      ((r.documenting false).render bindings) := by
  unfold render
  cases requireIdentifiers
    (bindings.contractName :: bindings.nameConstants.map NameConstant.name) with
  | error fault => exact .error fault
  | ok _ =>
    refine (Outcome.Paired.mapM r.paired_renderFunction).bind fun _ _ functions => ?_
    refine (Outcome.Paired.mapM r.paired_renderEventItems).bind fun _ _ items => ?_
    refine (Outcome.Paired.mapM r.paired_renderEventMethods).bind fun _ _ methods => ?_
    have common : Documents (r.documenting true).commonMethods
        (r.documenting false).commonMethods :=
      .same r.commonMethods
    have inside := ((common.append (.flatten functions)).append (.flatten methods)).enclosed .brace
    exact .ok ((((Documents.same _).append (.flatten items)).append
      (r.documents_contractItem bindings.contractName)).append ((Documents.same _).append inside))

/-- `r.DocsApart documented plain`: the tokens are the same once the attributes for documentation
are deleted, and none is deleted from the plain ones if the path of the runtime library holds
none. -/
structure DocsApart (r : Renderer) (documented plain : List Token) : Prop where
  same : deleteDocs (spellDocs documented) = deleteDocs (spellDocs plain)
  exact : r.Undocumented → deleteDocs (spellDocs documented) = spellDocs plain

/-- Renderings that differ in documentation only, of which the plain one holds none but that in
the path. -/
theorem docsApart_of_documents {x y : Except BindingFault (List Token)}
    (paired : Outcome.Paired Documents x y)
    (composes : ∀ tokens, y = .ok tokens → (r.documenting false).Composes tokens) :
    Outcome.Paired r.DocsApart x y := by
  cases paired with
  | error fault => exact .error fault
  | ok documents =>
    have same := Inserted.deleteDocs_eq documents
    refine .ok ⟨same, fun clean => same.trans ?_⟩
    exact Code.deleteDocs_of_holdsDoc_eq_false ((composes _ rfl).clear clean).holdsDoc_eq_false

end Renderer

/-- Documentation never changes code. Two renderers that differ in documentation only render
the same module, the same method for every function, and the same items and methods for every
event, once the attributes for documentation are deleted, or fail with the same fault. Code
that is rendered without documentation holds such attributes only where the path of the
runtime library does. -/
theorem docs_never_change_code (r : Renderer) :
    (∀ bindings : ContractBindings, Outcome.Paired r.DocsApart
      ((r.documenting true).render bindings) ((r.documenting false).render bindings)) ∧
    (∀ function : FunctionBinding, Outcome.Paired r.DocsApart
      ((r.documenting true).renderFunction function)
      ((r.documenting false).renderFunction function)) ∧
    ∀ event : EventBinding,
      Outcome.Paired r.DocsApart ((r.documenting true).renderEventItems event)
        ((r.documenting false).renderEventItems event) ∧
      Outcome.Paired r.DocsApart ((r.documenting true).renderEventMethods event)
        ((r.documenting false).renderEventMethods event) := by
  refine ⟨fun bindings => ?_, fun function => ?_, fun event => ⟨?_, ?_⟩⟩
  · exact Renderer.docsApart_of_documents (r.paired_render bindings) fun _ =>
      Renderer.composes_render
  · exact Renderer.docsApart_of_documents (r.paired_renderFunction function) fun _ =>
      Renderer.composes_renderFunction
  · exact Renderer.docsApart_of_documents (r.paired_renderEventItems event) fun _ =>
      Renderer.composes_renderEventItems
  · exact Renderer.docsApart_of_documents (r.paired_renderEventMethods event) fun _ =>
      Renderer.composes_renderEventMethods

/-- A parameter within the path of the runtime library may be documented. This stays in code
that is rendered without documentation. -/
theorem runtime_path_documents_code :
    ¬ ∀ (config : Config) (bindings : ContractBindings) (r : Renderer)
        (documented plain : List Token),
      (compile config []).outcome = .ok bindings → Renderer.ofConfig config = .ok r →
      (r.documenting true).render bindings = .ok documented →
      (r.documenting false).render bindings = .ok plain →
      deleteDocs (spellDocs documented) = spellDocs plain := by
  intro exact
  let config : Config :=
    { Config.default with contractName := "C", runtimePath := "rt<fn(#[doc = \"a\"] u8)>" }
  let renderings : Except BindingFault (List Token × List Token) := do
    let bindings ← (compile config []).outcome
    let r ← Renderer.ofConfig config
    let documented ← (r.documenting true).render bindings
    let plain ← (r.documenting false).render bindings
    return (documented, plain)
  have differ : renderings.toOption.any (fun (documented, plain) =>
      deleteDocs (spellDocs documented) != spellDocs plain) = true := by decide +kernel
  obtain ⟨⟨documented, plain⟩, found, unequal⟩ := (Option.any_eq_true _ _).mp differ
  obtain ⟨bindings, compiled, found⟩ :=
    Outcome.bind_eq_ok_iff.mp (Outcome.toOption_eq_some_iff.mp found)
  obtain ⟨r, made, found⟩ := Outcome.bind_eq_ok_iff.mp found
  obtain ⟨_, inDocs, found⟩ := Outcome.bind_eq_ok_iff.mp found
  obtain ⟨_, inPlain, same⟩ := Outcome.bind_eq_ok_iff.mp found
  cases same
  exact bne_iff_ne.mp unequal (exact config bindings r _ _ compiled made inDocs inPlain)

end ContractBinder
