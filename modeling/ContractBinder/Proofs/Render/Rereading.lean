import ContractBinder.Proofs.Code.Reading.ModuleItems
import ContractBinder.Proofs.Render.Composition
import ContractBinder.Proofs.Render.Items

/-!
# Rendered modules that are read again

A path of the runtime library that does not fit everywhere makes a rendered module be read and
written again, and this can respell what the path is a part of. Constants and documentation stay:
nothing of the path is in them, and its brackets match, so that no part of the module is read as
something else than it was rendered as.

Results:

1. `Renderer.printed_constant`: constants are printed as they were rendered.
2. `Renderer.printed_method`: methods are printed behind their documentation.
3. `Renderer.matched_of_reread`: the brackets of a printed module match.
-/

namespace ContractBinder

open Code (Matched Token Whole isReserved printChars spellDocs)

namespace Renderer

variable {r : Renderer} {bindings : ContractBindings} {tokens final : List Token}
  {methods eventMethods : List (List Token)}

/-! ## 1. Rendered parts -/

theorem matched_runtime {config : Config} (configured : ofConfig config = .ok r) :
    Matched true r.runtime.tokens := by
  unfold ofConfig at configured
  split at configured
  · rename_i runtime parsed
    cases configured
    exact Code.matched_of_parse parsed
  · cases configured

theorem composes_moduleItems
    (madeMethods : bindings.functions.mapM r.renderFunction = .ok methods)
    (madeEvents : bindings.events.mapM r.renderEventMethods = .ok eventMethods) :
    ∀ item ∈ r.moduleItems bindings methods eventMethods, r.Composes (r.itemTokens item) := by
  refine List.forall_mem_append.mpr ⟨List.forall_mem_append.mpr ⟨?_, ?_⟩, ?_⟩
  · exact List.forall_mem_map.mpr fun constant _ => constant.composes_tokens
  · refine List.forall_mem_flatMap.mpr fun event _ => ?_
    exact List.forall_mem_cons.mpr ⟨descriptorItem_eq event ▸ composes_descriptorItem event,
      List.forall_mem_cons.mpr ⟨topicItem_eq event ▸ composes_topicItem event,
        List.forall_mem_singleton.mpr (recordItem_eq .. ▸ composes_responseItem event)⟩⟩
  · refine List.forall_mem_cons.mpr ⟨recordItem_eq .. ▸ composes_contractItem _,
      List.forall_mem_singleton.mpr ?_⟩
    exact methodsItem_eq .. ▸ composes_contractMethods _
      (.flatten (composes_functions madeMethods)) (.flatten (composes_events madeEvents))

/-- The method of a function is a part of the module. -/
theorem infix_of_mem_methods {method : List Token} (member : method ∈ methods) :
    method <:+: (r.moduleItems bindings methods eventMethods).flatMap r.itemTokens := by
  have item : ModuleItem.methods bindings.contractName
      (r.commonMethods ++ methods.flatten ++ eventMethods.flatten) ∈
        r.moduleItems bindings methods eventMethods :=
    List.mem_append_right _ (List.mem_cons_of_mem _ List.mem_cons_self)
  have body : method <:+: r.commonMethods ++ methods.flatten ++ eventMethods.flatten :=
    (List.infix_of_mem_flatten member).trans
      ((List.suffix_append _ _).isInfix.trans (List.prefix_append _ _).isInfix)
  rw [List.flatMap_def]
  exact (body.trans (List.infix_append _ _ [.closing .brace])).trans
    (List.infix_of_mem_flatten (List.mem_map_of_mem item))

/-- A documented method up to its name. -/
def documentedHead (documentation : Token) (name : String) : List Token :=
  [documentation, .name "pub", .name "fn", .name name]

/-- The method of a function that returns something is public behind its documentation. -/
theorem renderFunction_eq_documented (documented : r.emitDocs = true) {function : FunctionBinding}
    {method : List Token} (returns : function.shape ≠ .constantVoid)
    (rendered : r.renderFunction function = .ok method) :
    ∃ rest, method =
      documentedHead (.doc (" " ++ function.docText)) function.methodName ++ rest := by
  obtain ⟨_, _, rendered⟩ := Outcome.bind_eq_ok_iff.mp rendered
  obtain ⟨remote, called, same⟩ := Outcome.bind_eq_ok_iff.mp rendered
  cases same
  cases remote with
  | some remote =>
    rw [methodTokens, doc, if_pos documented]
    exact ⟨_, rfl⟩
  | none =>
    unfold remoteCall at called
    split at called
    · contradiction
    · cases called
    · cases called
    · cases called
    · obtain ⟨_, _, same⟩ := Outcome.bind_eq_ok_iff.mp called
      cases same
    · cases called

/-- All methods of a contract. -/
theorem composes_heldMethods
    (madeMethods : bindings.functions.mapM r.renderFunction = .ok methods)
    (madeEvents : bindings.events.mapM r.renderEventMethods = .ok eventMethods) :
    r.Composes (r.commonMethods ++ methods.flatten ++ eventMethods.flatten) :=
  .append (.append composes_commonMethods (.flatten (composes_functions madeMethods)))
    (.flatten (composes_events madeEvents))

/-- A module ends with the contract's type and the methods. -/
theorem exists_contract_parts
    (madeMethods : bindings.functions.mapM r.renderFunction = .ok methods)
    (madeEvents : bindings.events.mapM r.renderEventMethods = .ok eventMethods) :
    ∃ front fields allowed, r.Composes front ∧ r.Composes fields ∧ r.Composes allowed ∧
      spellDocs ((r.moduleItems bindings methods eventMethods).flatMap r.itemTokens) =
        spellDocs front ++ .name "pub" :: (.name "struct" :: .name bindings.contractName ::
          .opening .brace :: spellDocs fields ++ .closing .brace ::
            (.mark '#' false :: Code.enclose .bracket (spellDocs allowed) ++ .name "impl" ::
              .name bindings.contractName :: Code.enclose .brace
                (spellDocs (r.commonMethods ++ methods.flatten ++ eventMethods.flatten)))) := by
  have composes := composes_moduleItems madeMethods madeEvents
  have front : r.Composes ((bindings.nameConstants.map NameConstant.item ++
      bindings.events.flatMap r.eventModuleItems).flatMap r.itemTokens ++
        (r.doc ("Typed bindings for the `" ++ bindings.contractName ++ "` contract.") ++
          recordAttribute)) :=
    .append (.flatMap fun item member => composes item (List.mem_append_left _ member))
      (.append (composes_doc _) composes_recordAttribute)
  have fields : r.Composes (Code.commaTerminated [Code.typed "contract" (r.item ["Contract"])]) :=
    .commaTerminated (.single (.typed _ (composes_item _)))
  have allowed : r.Composes (Code.call (Code.word "allow")
      [Code.word "non_snake_case", Code.pathOf false ["clippy", "too_many_arguments"]]) :=
    .call (.word _) (.pair (.word _) (.pathOf _ _))
  refine ⟨_, _, _, front, fields, allowed, ?_⟩
  simp [moduleItems, contractModuleItems, itemTokens, Code.enclose, Code.word, Code.attributeOf,
    Code.commaTerminated, Code.mark, spellDocs]

/-- Methods stand in front of a documented method, and behind it. -/
theorem exists_method_parts {method rest : List Token} {content name : String}
    (madeMethods : bindings.functions.mapM r.renderFunction = .ok methods)
    (eventMethods : List (List Token))
    (same : method = documentedHead (.doc content) name ++ rest) (member : method ∈ methods) :
    ∃ front back, r.Composes front ∧
      spellDocs (r.commonMethods ++ methods.flatten ++ eventMethods.flatten) =
        spellDocs front ++ Code.documentedMethod content name ++ back := by
  obtain ⟨before, behind, rfl⟩ := List.mem_iff_append.mp member
  refine ⟨r.commonMethods ++ before.flatten,
    spellDocs (rest ++ (behind.flatten ++ eventMethods.flatten)), ?_, ?_⟩
  · have composes := composes_functions madeMethods
    exact .append composes_commonMethods (.flatten fun item inside =>
      composes item (List.mem_append_left _ inside))
  · have parts : r.commonMethods ++ (before ++ method :: behind).flatten ++ eventMethods.flatten =
        r.commonMethods ++ before.flatten ++
          (documentedHead (.doc content) name ++
            (rest ++ (behind.flatten ++ eventMethods.flatten))) := by
      simp [same]
    rw [parts, Code.spellDocs_append, List.append_assoc]
    rfl

/-! ## 2. Printed parts -/

/-- What is rendered is printed, if reading the module again writes it again. It must not have two
joint bars, which are written apart. -/
theorem printed_of_reread {part : List Token} (reread : r.reread tokens = .ok final)
    (same : spreadBars part = part) (inside : part <:+: tokens)
    (written : Code.Grammar.readModule tokens = .ok final → printChars part <:+: printChars final) :
    printChars part <:+: printChars final := by
  unfold Renderer.reread at reread
  split at reread
  · cases reread
    rw [← same]
    exact Code.printChars_infix (inside.map _)
  · exact written (Outcome.mapError_eq_ok_iff.mp reread)

theorem matched_spreadBars {pubs : Bool} (matched : Matched pubs tokens) :
    Matched pubs (spreadBars tokens) := by
  unfold spreadBars
  induction matched with
  | nil => exact .nil
  | @cons _ token _ tame _ ih =>
    refine .cons ?_ ih
    dsimp only
    split
    · rfl
    · exact tame
  | lifetime name _ ih => exact .lifetime name ih
  | group delimiter _ _ first second =>
    rw [List.cons_append, List.map_cons, List.map_append, List.map_cons]
    exact .group delimiter first second

/-- The brackets of a module match, read again or not. -/
theorem matched_of_reread (path : Matched true r.runtime.tokens)
    (rendered : r.render bindings = .ok tokens) (reread : r.reread tokens = .ok final) :
    Matched true final := by
  have matched := (composes_render rendered).matched path
  unfold Renderer.reread at reread
  split at reread
  · cases reread
    exact matched_spreadBars matched
  · exact Code.matched_of_readModule (Outcome.mapError_eq_ok_iff.mp reread) matched.spellDocs

section

variable (path : Matched true r.runtime.tokens)
  (madeMethods : bindings.functions.mapM r.renderFunction = .ok methods)
  (madeEvents : bindings.events.mapM r.renderEventMethods = .ok eventMethods)
  (reread : r.reread ((r.moduleItems bindings methods eventMethods).flatMap r.itemTokens) =
    .ok final)

include path madeMethods madeEvents reread

/-- A constant of a module is printed as it was rendered. -/
theorem printed_constant {doc : Option String} {name text : String}
    (member : .constant doc name text ∈ r.moduleItems bindings methods eventMethods)
    (free : isReserved name = false) :
    printChars (constantTokens name text) <:+: printChars final := by
  have composes := composes_moduleItems madeMethods madeEvents
  have all := ((Code.Composed.flatMap composes).matched path).spellDocs
  obtain ⟨before, behind, split⟩ := List.mem_iff_append.mp member
  have front : r.Composes (before.flatMap r.itemTokens ++ (doc.map r.doc).getD []) := by
    refine .append (.flatMap fun item inside => ?_) ?_
    · exact composes item (split ▸ List.mem_append_left _ inside)
    · cases doc with
      | none => exact .nil
      | some text => exact composes_doc text
  have parts : (r.moduleItems bindings methods eventMethods).flatMap r.itemTokens =
      before.flatMap r.itemTokens ++ (doc.map r.doc).getD [] ++
        (constantTokens name text ++ behind.flatMap r.itemTokens) := by
    rw [split, List.flatMap_append, List.flatMap_cons, itemTokens]
    simp only [List.append_assoc]
  refine printed_of_reread reread rfl ?_ fun read => ?_
  · rw [parts, ← List.append_assoc]
    exact List.infix_append _ _ _
  · have next : spellDocs ((r.moduleItems bindings methods eventMethods).flatMap r.itemTokens) =
        spellDocs (before.flatMap r.itemTokens ++ (doc.map r.doc).getD []) ++ .name "pub" ::
          (Code.textConstant name text ++ spellDocs (behind.flatMap r.itemTokens)) := by
      rw [parts, Code.spellDocs_append]
      rfl
    exact Code.printChars_infix (Code.constant_infix_of_readModule read all
      (front.matched path).spellDocs front.whole free next)

/-- A method that returns something is printed behind its documentation. -/
theorem printed_method (documented : r.emitDocs = true) {function : FunctionBinding}
    {method : List Token} (returns : function.shape ≠ .constantVoid)
    (rendered : r.renderFunction function = .ok method) (member : method ∈ methods) :
    printChars (documentedHead (.doc (" " ++ function.docText)) function.methodName) <:+:
      printChars final := by
  have composes := composes_moduleItems madeMethods madeEvents
  have all := ((Code.Composed.flatMap composes).matched path).spellDocs
  obtain ⟨rest, same⟩ := renderFunction_eq_documented documented returns rendered
  have inMethod : documentedHead (.doc (" " ++ function.docText)) function.methodName <+: method :=
    same ▸ List.prefix_append _ _
  refine printed_of_reread reread rfl (inMethod.isInfix.trans (infix_of_mem_methods member))
    fun read => ?_
  obtain ⟨front, fields, allowed, composesFront, composesFields, composesAllowed, next⟩ :=
    exists_contract_parts madeMethods madeEvents
  obtain ⟨frontMethods, back, composesMethods, inside⟩ :=
    exists_method_parts madeMethods eventMethods same member
  have held := composes_heldMethods madeMethods madeEvents
  have written := Code.method_infix_of_readModule read all (composesFront.matched path).spellDocs
    composesFront.whole (composesFields.matched path).spellDocs
    (composesAllowed.matched path).spellDocs (held.matched path).spellDocs
    (composesMethods.matched path).spellDocs composesMethods.whole rfl inside next
  have printed := Code.printChars_infix written
  rwa [← Code.printChars_spellDocs]

end

end Renderer

end ContractBinder
