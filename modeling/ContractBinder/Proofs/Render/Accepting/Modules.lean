import ContractBinder.Proofs.Binding.Identifiers
import ContractBinder.Proofs.Render.Accepting.Events

/-!
# Rendered modules are read as they are rendered

If the path of the runtime library fits everywhere, a module that is rendered around it is read as
code, and written as it is up to how its bars stand. So nothing is lost if it is not read.

Results:

1. `Renderer.readModule_of_render`: the module of a contract is read.
2. `renderSource_eq_read`: a module is rendered as if it was always read and written again.
-/

namespace ContractBinder

open Code
open Code.Grammar (implementationMember readModule)

/-! ## 1. The contract -/

namespace Renderer

variable {r : Renderer} {absolute : Bool} {around : List String} {bindings : ContractBindings}
  {tokens functions events : List Token} {contractName : String}

section

variable (path : r.HasPath absolute around)

include path

theorem areParts_nameConstant {constant : NameConstant} (free : isReserved constant.name = false) :
    AreParts Grammar.item constant.tokens := by
  have composes := constant.composes_tokens (r := r.documenting false)
  exact .single (composes.spellDocs_eq path.spelled)
    (isItem_constant free isType_str (isValue_text constant.value).isExpression)

theorem areParts_contractItem (free : isReserved contractName = false) :
    AreParts Grammar.item (r.contractItem contractName) := by
  have held := isFieldItem_typed "contract" (by decide) (isType_item path ["Contract"] (by decide))
  have record := isItem_record free (List.forall_mem_singleton.mpr held)
  exact areParts_documented path (fun r => r.contractItem contractName)
    (record.cons isAttribute_recordAttribute) (composes_contractItem contractName) ⟨_, fun _ => by
      simp only [contractItem, item_documenting, List.append_assoc]
      rfl⟩

theorem areParts_commonMethods : AreParts implementationMember r.commonMethods := by
  have isPath := isPath_word (.inr (by decide)) (by decide : "Self" ≠ "try")
  have made := isValue_record isPath (List.cons_ne_nil _ _)
    (List.forall_mem_singleton.mpr (isField_name "contract" (by decide))) (.inl rfl)
  have loaded := IsStatements.last (made.isExpression.value fun _ =>
    beginsExpression_word isPath rfl rfl fun _ _ _ => rfl)
  have held := IsParameters.last (by decide : isReserved "contract" = false)
    (isType_item path ["Contract"] (by decide))
  have load := isMember_function (by decide : isReserved "load" = false) held.areParameters
    (isType_path isPath (List.cons_ne_nil _ _)) loaded
  have address := isMember_function (by decide : isReserved "contract_address" = false)
    areParameters_self isType_str
    (isStatements_selfCall (isValue_methodCall isValue_contract "address" (by decide)) rfl)
  have spelled : spellDocs r.commonMethods = r.commonMethods :=
    (composes_commonMethods (r := r.documenting false)).spellDocs_eq path.spelled
  refine ⟨[_, _], ?_, List.forall_mem_cons.mpr ⟨load [] (List.forall_mem_nil _),
    List.forall_mem_singleton.mpr (address [] (List.forall_mem_nil _))⟩⟩
  exact spelled.trans rfl

theorem areParts_contractMethods (free : isReserved contractName = false)
    (madeFunctions : AreParts implementationMember functions)
    (madeEvents : AreParts implementationMember events) :
    AreParts Grammar.item (r.contractMethods contractName functions events) := by
  have composed : ∀ item ∈ [word "non_snake_case", pathOf false ["clippy", "too_many_arguments"]],
      Composed [] false item := .pair (.word _) (.pathOf _ _)
  have allowing := isAttribute_allowing (by decide : isReserved "allow" = false)
    ((Composed.commaSeparated composed).matched .nil) rfl
  have members := ((areParts_commonMethods path).append madeFunctions).append madeEvents
  have implemented := AreParts.implementation free allowing rfl members
  simpa only [contractMethods, List.append_assoc] using implemented

/-! ## 2. Modules -/

theorem areParts_render (named : bindings.Named IsUnreserved)
    (rendered : r.render bindings = .ok tokens) : AreParts Grammar.item tokens := by
  obtain ⟨_, _, rendered⟩ := Outcome.bind_eq_ok_iff.mp rendered
  obtain ⟨functions, madeFunctions, rendered⟩ := Outcome.bind_eq_ok_iff.mp rendered
  obtain ⟨items, madeItems, rendered⟩ := Outcome.bind_eq_ok_iff.mp rendered
  obtain ⟨methods, madeMethods, same⟩ := Outcome.bind_eq_ok_iff.mp rendered
  cases same
  have constants : AreParts Grammar.item (bindings.nameConstants.flatMap NameConstant.tokens) :=
    .flatten (List.forall_mem_map.mpr fun constant listed =>
      areParts_nameConstant path (named.constants constant listed))
  have eventItems := AreParts.flatten (Outcome.forall_mem_of_mapM madeItems
    fun event listed tokens rendered => by
      obtain ⟨_, _, same⟩ := Outcome.bind_eq_ok_iff.mp rendered
      cases same
      exact areParts_eventItems path (named.events event listed))
  have functionMethods := AreParts.flatten (Outcome.forall_mem_of_mapM madeFunctions
    fun function listed tokens rendered => by
      obtain ⟨_, _, rendered⟩ := Outcome.bind_eq_ok_iff.mp rendered
      obtain ⟨remote, found, same⟩ := Outcome.bind_eq_ok_iff.mp rendered
      cases same
      exact areParts_methodTokens path (named.functions function listed) found)
  have eventMethods := AreParts.flatten (Outcome.forall_mem_of_mapM madeMethods
    fun event listed tokens rendered => by
      obtain ⟨_, _, same⟩ := Outcome.bind_eq_ok_iff.mp rendered
      cases same
      exact areParts_eventMethods path (named.events event listed))
  have contract := areParts_contractItem path named.contractName
  exact ((constants.append eventItems).append contract).append
    (areParts_contractMethods path named.contractName functionMethods eventMethods)

/-- If the path of the runtime library fits everywhere, the module is read as it is rendered, with
its documentation spelled and no joint bars. -/
theorem readModule_of_render (named : bindings.Named IsUnreserved)
    (rendered : r.render bindings = .ok tokens) :
    readModule tokens = .ok (apart (spellDocs tokens)) :=
  readModule_of_areParts (areParts_render path named rendered)

end

end Renderer

/-! ## 3. Sources -/

theorem spellDocs_apart (tokens : List Token) :
    spellDocs (apart tokens) = apart (spellDocs tokens) := by
  induction tokens with
  | nil => rfl
  | cons token rest ih =>
    cases documented : token.isDoc with
    | true =>
      cases token with
      | doc content =>
        rw [spellDocs_doc, apart_append, ← ih]
        rfl
      | _ => cases documented
    | false =>
      have kept : token.apart.isDoc = false := by
        unfold Token.apart
        split
        · rfl
        · exact documented
      rw [apart_cons, spellDocs_of_not_isDoc kept, spellDocs_of_not_isDoc documented, apart_cons,
        ih]

/-- Code is printed alike as it is rendered and as it is read, but for joint bars. -/
theorem print_spreadBars (tokens : List Token) :
    Code.print (spreadBars tokens) = Code.print (apart (spellDocs tokens)) := by
  rw [← spellDocs_apart, Code.print, Code.print, printChars_spellDocs]
  rfl

/-- Every module of a contract is rendered as if it was read and written again. -/
theorem renderSource_eq_read {config : Config} {entries : List Abi.Entry}
    {bindings : ContractBindings} (compiled : (compile config entries).outcome = .ok bindings)
    (rendering : Config) :
    renderSource rendering bindings = do
      let r ← Renderer.ofConfig rendering
      let tokens ← r.render bindings
      let read ← (readModule tokens).mapError fun fault => .render (.unparsable fault.message)
      return Code.print read := by
  unfold renderSource
  cases configured : Renderer.ofConfig rendering with
  | error fault => rfl
  | ok r =>
    cases rendered : r.render bindings with
    | error fault => simp only [bind, Except.bind, rendered]
    | ok tokens =>
      by_cases fits : r.runtime.fitsEverywhere = true
      · obtain ⟨absolute, around, path⟩ := Renderer.exists_hasPath configured fits
        have read := Renderer.readModule_of_render path (compile_unreserved compiled) rendered
        simp only [bind, Except.bind, rendered, Renderer.reread, if_pos fits, read, Except.mapError,
          print_spreadBars]
      · simp only [bind, Except.bind, rendered, Renderer.reread, if_neg fits]

end ContractBinder
