import ContractBinder.Proofs.Binding.Constants
import ContractBinder.Proofs.Render.Rendering

/-!
# Items of a rendered module

A module is a list of items, and declares each item name of its contract once.
All that a method says about its function is in its body, where the function is
made from its constant and passed on. The tokens of constants, methods and calls
are written out, so that what is said of them does not follow how they are put
together.

Results:

1. `Renderer.items_of_render`: a rendered module consists of its items.
2. `Renderer.filter_declared`: of these, one declares the constant of a name.
3. `Renderer.wraps_of_renderFunction`: a method calls its function by its constant.
4. `compile_binds_names`: so it calls the function it was made for.
-/

namespace ContractBinder

open Abi (Entry)
open Code (Token)

/-! ## 1. Items -/

inductive ModuleItem where
  /-- A public constant that holds a text. -/
  | constant (doc : Option String) (name text : String)
  /-- A public static value. -/
  | static (doc name : String) (type value : List Token)
  /-- A public record type. -/
  | record (doc name : String) (fields : List (List Token))
  /-- The methods of a type. -/
  | methods (type : String) (body : List Token)
  deriving DecidableEq

/-- The name that an item declares in its module. -/
def ModuleItem.declared? : ModuleItem → Option String
  | .constant _ name _ | .static _ name _ _ | .record _ name _ => some name
  | .methods _ _ => none

/-- The constant for a function's literal name. It is not documented. -/
def NameConstant.item (constant : NameConstant) : ModuleItem :=
  .constant none constant.name constant.value

/-- The tokens of `pub const name: &str = "text";`. -/
def constantTokens (name text : String) : List Token :=
  [Token.name "pub", .name "const", .name name, .mark ':' false, .mark '&' false, .name "str",
    .mark '=' false, .text text, .mark ';' false]

/-- The tokens of `pub fn name(parameters) -> returns { body }`. -/
def publicMethod (name : String) (parameters returns body : List Token) : List Token :=
  [Token.name "pub", .name "fn", .name name, .opening .paren] ++ parameters ++
    [Token.closing .paren, .mark '-' true, .mark '>' false] ++ returns ++
    [Token.opening .brace] ++ body ++ [Token.closing .brace]

/-- The tokens of `self.contract.method(arguments)`. -/
def callOnContract (method arguments : List Token) : List Token :=
  [Token.name "self", .mark '.' false, .name "contract", .mark '.' false] ++ method ++
    [Token.opening .paren] ++ arguments ++ [Token.closing .paren]

theorem methodOf_eq_publicMethod (name : String) (parameters returns body : List Token) :
    Code.methodOf name parameters returns body = publicMethod name parameters returns body := by
  simp [Code.methodOf, publicMethod, Code.word, Code.enclose, Code.arrow, Code.block]

namespace Renderer

theorem contractCall_eq_callOnContract (method : List Token) (arguments : List (List Token)) :
    contractCall method arguments =
      callOnContract method ([Token.mark ',' false].intercalate arguments) := by
  simp [contractCall, callOnContract, Code.call, Code.dot, Code.word, Code.mark, Code.enclose,
    Code.commaSeparated]

def itemTokens (r : Renderer) : ModuleItem → List Token
  | .constant doc name text => (doc.map r.doc).getD [] ++ constantTokens name text
  | .static doc name type value =>
    r.doc doc ++ [Token.name "pub", .name "static", .name name, .mark ':' false] ++ type ++
      [Token.mark '=' false] ++ value ++ [Token.mark ';' false]
  | .record doc name fields =>
    r.doc doc ++ recordAttribute ++
      [Token.name "pub", .name "struct", .name name, .opening .brace] ++
      fields.flatMap (· ++ [Token.mark ',' false]) ++ [Token.closing .brace]
  | .methods type body =>
    Code.attributeOf (Code.call (Code.word "allow")
        [Code.word "non_snake_case", Code.pathOf false ["clippy", "too_many_arguments"]]) ++
      [Token.name "impl", .name type, .opening .brace] ++ body ++ [Token.closing .brace]

def eventModuleItems (r : Renderer) (event : EventBinding) : List ModuleItem :=
  let lazyLock := ["std", "sync", "LazyLock"]
  [.static ("Descriptor of `" ++ event.signature ++ "`.") event.names.constant
      (Code.applied (Code.absolute lazyLock) [r.abiItem ["Event"]])
      (Code.call (Code.absolute (lazyLock ++ ["new"]))
        [Code.thunk (Code.call (r.abiItem ["Event", "new"])
          [Code.textOf event.name, Code.listOf (r.fieldReferences event)])]),
    .constant (some ("Topic of `" ++ event.signature ++ "`.")) event.names.topicConstant
      (Hash.prefixedHex event.topic),
    .record ("Decoded `" ++ event.name ++ "` log.") event.names.response
      ((Code.word "pub" ++ Code.typed logField (r.item ["Log"])) :: r.recordFields event)]

/-- The contract's type and its methods. -/
def contractModuleItems (r : Renderer) (contractName : String)
    (functions events : List (List Token)) : List ModuleItem :=
  [.record ("Typed bindings for the `" ++ contractName ++ "` contract.") contractName
      [Code.typed "contract" (r.item ["Contract"])],
    .methods contractName (r.commonMethods ++ functions.flatten ++ events.flatten)]

/-- The items of a module with methods for its functions and events. -/
def moduleItems (r : Renderer) (bindings : ContractBindings)
    (functions events : List (List Token)) : List ModuleItem :=
  bindings.nameConstants.map NameConstant.item ++ bindings.events.flatMap r.eventModuleItems ++
    r.contractModuleItems bindings.contractName functions events

variable {r : Renderer} {bindings : ContractBindings} {functions events : List (List Token)}

theorem descriptorItem_eq (event : EventBinding) :
    r.descriptorItem event = r.itemTokens (.static ("Descriptor of `" ++ event.signature ++ "`.")
      event.names.constant
      (Code.applied (Code.absolute ["std", "sync", "LazyLock"]) [r.abiItem ["Event"]])
      (Code.call (Code.absolute ["std", "sync", "LazyLock", "new"])
        [Code.thunk (Code.call (r.abiItem ["Event", "new"])
          [Code.textOf event.name, Code.listOf (r.fieldReferences event)])])) := by
  simp [descriptorItem, itemTokens, Code.statement, Code.typed, Code.word, Code.mark]

theorem topicItem_eq (event : EventBinding) :
    r.topicItem event = r.itemTokens (.constant
      (some ("Topic of `" ++ event.signature ++ "`.")) event.names.topicConstant
        (Hash.prefixedHex event.topic)) :=
  List.append_assoc _ _ _

theorem recordItem_eq (text name : String) (fields : List (List Token)) :
    r.doc text ++ recordAttribute ++ Code.word "pub" ++ Code.word "struct" ++ Code.word name ++
        Code.block (Code.commaTerminated fields) =
      r.itemTokens (.record text name fields) := by
  simp [itemTokens, Code.block, Code.enclose, Code.commaTerminated, Code.word, Code.mark]

theorem eventItems_eq (event : EventBinding) :
    r.eventItems event = (r.eventModuleItems event).flatMap r.itemTokens := by
  rw [eventItems, descriptorItem_eq, topicItem_eq, responseItem, recordItem_eq, List.append_assoc]
  simp only [eventModuleItems, List.flatMap_cons, List.flatMap_nil, List.append_nil]
  rfl

theorem methodsItem_eq (contractName : String) (functions events : List Token) :
    r.contractMethods contractName functions events =
      r.itemTokens (.methods contractName (r.commonMethods ++ functions ++ events)) := by
  simp [contractMethods, itemTokens, Code.block, Code.enclose, Code.word]

theorem contractItems_eq (contractName : String) (functions events : List (List Token)) :
    r.contractItem contractName ++
        r.contractMethods contractName functions.flatten events.flatten =
      (r.contractModuleItems contractName functions events).flatMap r.itemTokens := by
  rw [contractItem, recordItem_eq, methodsItem_eq]
  simp only [contractModuleItems, List.flatMap_cons, List.flatMap_nil, List.append_nil]

/-- The items of all events. -/
theorem flatten_of_renderEventItems {rendered : List EventBinding} {tokens : List (List Token)}
    (made : rendered.mapM r.renderEventItems = .ok tokens) :
    tokens.flatten = (rendered.flatMap r.eventModuleItems).flatMap r.itemTokens := by
  rw [List.flatMap_assoc]
  have each := Outcome.mapM_eq_ok_iff.mp made
  clear made
  induction each with
  | nil => rfl
  | @cons event _ _ _ first _ ih =>
    obtain ⟨_, _, itself⟩ := Outcome.bind_eq_ok_iff.mp first
    cases itself
    rw [List.flatten_cons, List.flatMap_cons, ih, eventItems_eq]

/-- A rendered module consists of its items, with the methods that are rendered. -/
theorem items_of_render {tokens : List Token} (rendered : r.render bindings = .ok tokens) :
    ∃ functions events, bindings.functions.mapM r.renderFunction = .ok functions ∧
      bindings.events.mapM r.renderEventMethods = .ok events ∧
      tokens = (r.moduleItems bindings functions events).flatMap r.itemTokens := by
  unfold render at rendered
  obtain ⟨_, _, rendered⟩ := Outcome.bind_eq_ok_iff.mp rendered
  obtain ⟨functions, madeFunctions, rendered⟩ := Outcome.bind_eq_ok_iff.mp rendered
  obtain ⟨items, madeItems, rendered⟩ := Outcome.bind_eq_ok_iff.mp rendered
  obtain ⟨events, madeEvents, rendered⟩ := Outcome.bind_eq_ok_iff.mp rendered
  cases rendered
  refine ⟨functions, events, madeFunctions, madeEvents, ?_⟩
  have constants : bindings.nameConstants.flatMap NameConstant.tokens =
      (bindings.nameConstants.map NameConstant.item).flatMap r.itemTokens := by
    rw [List.flatMap_map]
    rfl
  rw [constants, flatten_of_renderEventItems madeItems, List.append_assoc, contractItems_eq]
  simp only [moduleItems, List.flatMap_append]

/-! ## 2. Declarations -/

/-- The items of a module declare the contract's item names. -/
theorem declared_perm (bindings : ContractBindings) (functions events : List (List Token)) :
    ((r.moduleItems bindings functions events).filterMap ModuleItem.declared?).Perm
      bindings.itemNames := by
  have constants : (bindings.nameConstants.map NameConstant.item).filterMap
      ModuleItem.declared? = bindings.nameConstants.map NameConstant.name := by
    rw [List.filterMap_map, ← List.filterMap_eq_map]
    rfl
  have records : (bindings.events.flatMap r.eventModuleItems).filterMap ModuleItem.declared? =
      bindings.events.flatMap fun event => event.names.items := by
    rw [List.filterMap_flatMap]
    rfl
  -- The contract's type is the last item, but the first name.
  rw [moduleItems, List.filterMap_append, List.filterMap_append, constants, records]
  exact List.perm_append_singleton _ _

/-- If all item names differ, only its constant is declared under a constant's name. -/
theorem filter_declared {constant : NameConstant} (distinct : bindings.itemNames.Nodup)
    (present : constant ∈ bindings.nameConstants) (functions events : List (List Token)) :
    (r.moduleItems bindings functions events).filter
        (fun item => item.declared? = some constant.name) = [constant.item] := by
  refine filter_eq_singleton_of_nodup ((declared_perm bindings functions events).nodup_iff.mpr
    distinct) ?_ rfl
  exact List.mem_append_left _ (List.mem_append_left _ (List.mem_map_of_mem present))

/-! ## 3. Bodies -/

/-- `r.CallsBy constant body`: the body calls the function whose literal name the
constant holds, or fails and says so. -/
inductive CallsBy (r : Renderer) (constant : String) : List Token → Prop
  | remote (inputs outputs method others : List Token) :
      CallsBy r constant
        ([Token.name "let", .name "function", .mark '=' false] ++ r.abiItem ["Function", "new"] ++
          [Token.opening .paren, .name constant, .mark ',' false] ++ inputs ++
          [Token.mark ',' false] ++ outputs ++ [Token.closing .paren, .mark ';' false] ++
          callOnContract method (.name "function" :: others))
  | refused :
      CallsBy r constant
        (Code.absolute ["core", "result", "Result", "Err"] ++ [Token.opening .paren] ++
          r.item ["ContractError", "NoReturnValue"] ++
          [Token.opening .brace, .name "function", .mark ':' false, .name constant, .closing .brace,
            .closing .paren])

/-- The tokens are a method for the function, which calls it by its constant. -/
def Wraps (r : Renderer) (function : FunctionBinding) (tokens : List Token) : Prop :=
  ∃ attributes parameters returns body,
    tokens = attributes ++ publicMethod function.methodName parameters returns body ∧
    r.CallsBy function.constantName body

/-- A call that gets the function first passes it on. -/
theorem exists_callOnContract (method : List Token) (arguments : List (List Token)) :
    ∃ others, contractCall method (functionLocal :: arguments) =
      callOnContract method (.name "function" :: others) := by
  rw [contractCall_eq_callOnContract]
  cases arguments with
  | nil => exact ⟨[], rfl⟩
  | cons first others =>
    rw [List.intercalate_cons_cons]
    exact ⟨_, rfl⟩

/-- Every call that is rendered passes the function on. -/
theorem remoteCall_call {function : FunctionBinding} {returned call : List Token}
    (remote : r.remoteCall function = .ok (some (returned, call))) :
    ∃ method others, call = callOnContract method (.name "function" :: others) := by
  unfold remoteCall at remote
  split at remote
  · cases remote
  · cases remote
    exact ⟨_, exists_callOnContract _ _⟩
  · cases remote
    exact ⟨_, exists_callOnContract _ _⟩
  · cases remote
    exact ⟨_, exists_callOnContract _ _⟩
  · obtain ⟨output, _, rest⟩ := Outcome.bind_eq_ok_iff.mp remote
    cases rest
    exact ⟨_, exists_callOnContract _ _⟩
  · cases remote
    exact ⟨_, exists_callOnContract _ _⟩

theorem wraps_of_renderFunction {function : FunctionBinding} {tokens : List Token}
    (rendered : r.renderFunction function = .ok tokens) : r.Wraps function tokens := by
  unfold renderFunction at rendered
  obtain ⟨_, _, rendered⟩ := Outcome.bind_eq_ok_iff.mp rendered
  obtain ⟨remote, called, rendered⟩ := Outcome.bind_eq_ok_iff.mp rendered
  cases rendered
  unfold methodTokens
  cases remote with
  | none =>
    have body : errOf (r.item ["ContractError", "NoReturnValue"] ++
        Code.block (Code.typed "function" (Code.word function.constantName))) =
        Code.absolute ["core", "result", "Result", "Err"] ++ [Token.opening .paren] ++
          r.item ["ContractError", "NoReturnValue"] ++
          [Token.opening .brace, .name "function", .mark ':' false, .name function.constantName,
            .closing .brace, .closing .paren] := by
      simp [errOf, Code.call, Code.block, Code.typed, Code.word, Code.mark, Code.enclose,
        Code.commaSeparated]
    simp only [methodOf_eq_publicMethod, ← List.append_assoc]
    exact ⟨_, _, _, _, rfl, body ▸ .refused⟩
  | some pair =>
    obtain ⟨returned, call⟩ := pair
    obtain ⟨method, others, rfl⟩ := remoteCall_call called
    have body : Code.binding functionLocal (r.functionValue function) ++
          callOnContract method (.name "function" :: others) =
        [Token.name "let", .name "function", .mark '=' false] ++ r.abiItem ["Function", "new"] ++
          [Token.opening .paren, .name function.constantName, .mark ',' false] ++
          Code.listOf (r.encodedInputs function) ++ [Token.mark ',' false] ++
          Code.listOf (r.outputReferences function) ++ [Token.closing .paren, .mark ';' false] ++
          callOnContract method (.name "function" :: others) := by
      simp [Code.binding, functionLocal, functionValue, Code.statement, Code.call, Code.word,
        Code.mark, Code.enclose, Code.commaSeparated, List.intercalate_cons_cons]
    simp only [methodOf_eq_publicMethod]
    exact ⟨_, _, _, _, rfl, body ▸ .remote _ _ _ _⟩

end Renderer

/-! ## 4. Whole contracts -/

/-- There is one constant for every literal name of a function, in order of their
first occurrences, under names that differ. A function's constant holds its
literal name, so functions share one exactly if they have the same name. In the
rendered module every function has a method that calls it by its constant, and
the constant is declared once, as its literal name. -/
theorem compile_binds_names {config : Config} {entries : List Entry} {bindings : ContractBindings}
    (compiled : (compile config entries).outcome = .ok bindings) :
    bindings.nameConstants.map NameConstant.value =
      ((entries.filter fun entry => entry.kind = .function).map Entry.name).eraseDups ∧
    (bindings.nameConstants.map NameConstant.name).Nodup ∧
    (∀ function ∈ bindings.functions,
      bindings.nameConstants.filter (fun constant => constant.name = function.constantName) =
        [⟨function.constantName, function.name⟩]) ∧
    (∀ function ∈ bindings.functions, ∀ other ∈ bindings.functions,
      (function.constantName = other.constantName ↔ function.name = other.name)) ∧
    ∀ (r : Renderer) (tokens : List Token), r.render bindings = .ok tokens →
      ∃ functions events,
        tokens = (r.moduleItems bindings functions events).flatMap r.itemTokens ∧
        List.Forall₂ r.Wraps bindings.functions functions ∧
        ∀ function ∈ bindings.functions,
          (r.moduleItems bindings functions events).filter
              (fun item => item.declared? = some function.constantName) =
            [.constant none function.constantName function.name] := by
  have binds := bindsNames_of_compile compiled
  refine ⟨?_, constantNames_nodup_of_compile compiled, filter_constantName compiled,
    constantName_eq_iff compiled, fun r tokens rendered => ?_⟩
  · rw [binds.values, functionNames_of_compile compiled]
  · obtain ⟨functions, events, methods, _, split⟩ := Renderer.items_of_render rendered
    refine ⟨functions, events, split, ?_, fun function member => ?_⟩
    · exact (Outcome.mapM_eq_ok_iff.mp methods).imp fun _ _ => Renderer.wraps_of_renderFunction
    · exact Renderer.filter_declared (itemNames_nodup_of_compile compiled)
        (binds.held function member) functions events

/-- An overload finds the constant of its name again, behind an event and behind a
function whose name differs in case only. -/
theorem compile_binds_names_overload :
    ∃ (r : Renderer) (bindings : ContractBindings) (tokens : List Token)
      (functions events : List (List Token)),
      r = ⟨⟨false, [⟨"runtime", []⟩]⟩, true, false⟩ ∧
      (compile { Config.default with contractName := "C" }
        [⟨.function, "Ab", [], [], .view⟩, ⟨.event, "A", [], [], .normal⟩,
          ⟨.function, "aB", [], [], .normal⟩,
          ⟨.function, "Ab", [⟨"", "bool", false⟩], [], .payable⟩]).outcome = .ok bindings ∧
      bindings.nameConstants = [⟨"FUNC_AB", "Ab"⟩, ⟨"FUNC_AB_1", "aB"⟩] ∧
      bindings.functions.map FunctionBinding.constantName = ["FUNC_AB", "FUNC_AB_1", "FUNC_AB"] ∧
      r.render bindings = .ok tokens ∧
      tokens = (r.moduleItems bindings functions events).flatMap r.itemTokens ∧
      List.Forall₂ r.Wraps bindings.functions functions := by
  have made :
      (compile { Config.default with contractName := "C" }
        [⟨.function, "Ab", [], [], .view⟩, ⟨.event, "A", [], [], .normal⟩,
          ⟨.function, "aB", [], [], .normal⟩,
          ⟨.function, "Ab", [⟨"", "bool", false⟩], [],
            .payable⟩]).outcome.toOption.map (fun bindings =>
              (bindings.nameConstants, bindings.functions.map FunctionBinding.constantName,
                (Renderer.render ⟨⟨false, [⟨"runtime", []⟩]⟩, true, false⟩
                  bindings).toOption.isSome)) =
        some ([⟨"FUNC_AB", "Ab"⟩, ⟨"FUNC_AB_1", "aB"⟩], ["FUNC_AB", "FUNC_AB_1", "FUNC_AB"],
          true) := by
    decide +kernel
  obtain ⟨bindings, found, seen⟩ := Option.map_eq_some_iff.mp made
  obtain ⟨constants, others⟩ := Prod.ext_iff.mp seen
  obtain ⟨functionConstants, isRendered⟩ := Prod.ext_iff.mp others
  obtain ⟨tokens, rendered⟩ := Option.isSome_iff_exists.mp isRendered
  have compiled := Outcome.toOption_eq_some_iff.mp found
  have renderedModule := Outcome.toOption_eq_some_iff.mp rendered
  obtain ⟨_, _, _, _, modules⟩ := compile_binds_names compiled
  obtain ⟨functions, events, split, methods, _⟩ := modules _ tokens renderedModule
  exact ⟨_, bindings, tokens, functions, events, rfl, compiled, constants, functionConstants,
    renderedModule, split, methods⟩

end ContractBinder
