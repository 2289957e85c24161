import ContractBinder.Proofs.Code.Accepting.Items
import ContractBinder.Proofs.Render.Composition
import ContractBinder.Proofs.Render.Documentation
import ContractBinder.Proofs.Render.Rendering

/-!
# Rendered types and methods are read as they are rendered

If the path of the runtime library fits everywhere, every type that is rendered around it is read as
a type, every value as a value, and every method of a function as one.

Results:

1. `Renderer.exists_hasPath`: a path that fits everywhere consists of names.
2. `isType_wireType` and `isType_callerType`: rendered types are read as types.
3. `areParts_methodTokens`: the method of a function is read as a member of an implementation.
-/

namespace ContractBinder

open Abi (Container NativeType WireKind WireType)
open Code
open Code.Grammar (implementationMember)

/-! ## 1. The path of the runtime library -/

namespace Code

variable {tokens : List Token} {items : List (List Token)}

theorem pathOf_append {absolute : Bool} {front back : List String} (some : front ≠ [])
    (more : back ≠ []) :
    pathOf absolute front ++ pathSep ++ pathOf false back = pathOf absolute (front ++ back) := by
  cases front with
  | nil => exact absurd rfl some
  | cons first front =>
    cases back with
    | nil => exact absurd rfl more
    | cons second back => simp [pathOf_cons, separatedTokens]

theorem apart_commaSeparated (items : List (List Token)) :
    apart (commaSeparated items) = commaSeparated (items.map apart) := by
  induction items with
  | nil => rfl
  | cons first others ih =>
    cases others with
    | nil => rw [commaSeparated_singleton, List.map_singleton, commaSeparated_singleton]
    | cons second others =>
      rw [commaSeparated_cons_cons, apart_append, apart_cons, ih]
      exact (commaSeparated_cons_cons _ _ _).symm

theorem apart_applied (constructor : List Token) (items : List (List Token)) :
    apart (applied constructor items) = applied (apart constructor) (items.map apart) := by
  rw [applied, apart_append, apart_append, apart_cons, apart_commaSeparated]
  rfl

theorem apart_call (function : List Token) (items : List (List Token)) :
    apart (call function items) = call (apart function) (items.map apart) := by
  rw [call, apart_append, enclose, apart_append, apart_cons, apart_commaSeparated]
  rfl

end Code

namespace Renderer

/-- The path of the runtime library consists of names, and can begin wherever a path can stand. -/
structure HasPath (r : Renderer) (absolute : Bool) (around : List String) : Prop where
  runtime : r.runtime = ⟨absolute, around.map plainSegment⟩
  nonempty : around ≠ []
  isPath : IsPath absolute around

theorem exists_hasPath {config : Config} {r : Renderer} (configured : ofConfig config = .ok r)
    (fits : r.runtime.fitsEverywhere = true) : ∃ absolute around, r.HasPath absolute around := by
  unfold ofConfig at configured
  split at configured
  · rename_i runtime parsed
    cases configured
    obtain ⟨around, nonempty, same, isPath⟩ := exists_isPath_of_parse parsed fits
    exact ⟨_, around, same, nonempty, isPath⟩
  · cases configured

/-- Names behind the path of the runtime library. -/
abbrev Known (names : List String) : Prop :=
  names ≠ [] ∧ ∀ name ∈ names, isReserved name = false

theorem isPath_absolute {names : List String} (known : Known names) : IsPath true names :=
  ⟨fun name listed => .inl (known.2 name listed), .inl rfl⟩

theorem isValue_absolute {names : List String} (known : Known names) :
    IsValue (Code.absolute names) :=
  isValue_path (isPath_absolute known) known.1

variable {r : Renderer} {absolute : Bool} {around : List String}

section

variable (path : r.HasPath absolute around)

include path

theorem HasPath.tokens : r.runtime.tokens = pathOf absolute around := by
  rw [path.runtime, tokens_plainPath path.nonempty]

theorem HasPath.item {names : List String} (known : Known names) :
    r.item names = pathOf absolute (around ++ names) := by
  rw [Renderer.item, path.tokens, pathOf_append path.nonempty known.1]

theorem HasPath.spelled : spellDocs r.runtime.tokens = r.runtime.tokens := by
  rw [path.tokens]
  obtain ⟨first, others, rfl⟩ := List.exists_cons_of_ne_nil path.nonempty
  exact spellDocs_pathOf absolute first others

theorem HasPath.matched : Matched true r.runtime.tokens := by
  rw [path.tokens]
  have composed : Composed [] false (pathOf absolute around) := .pathOf absolute around
  exact composed.matched .nil

theorem isPath_item {names : List String} (known : Known names) :
    IsPath absolute (around ++ names) where
  fits := List.forall_mem_append.mpr
    ⟨path.isPath.fits, fun name listed => .inl (known.2 name listed)⟩
  start := by
    rw [List.head?_append_of_ne_nil _ path.nonempty]
    exact path.isPath.start

theorem isType_item (names : List String) (known : Known names) : IsType (r.item names) := by
  rw [path.item known]
  exact isType_path (isPath_item path known) (List.append_ne_nil_of_left_ne_nil path.nonempty _)

theorem isValue_item (names : List String) (known : Known names) : IsValue (r.item names) := by
  rw [path.item known]
  exact isValue_path (isPath_item path known) (List.append_ne_nil_of_left_ne_nil path.nonempty _)

/-- A type of the runtime library with types as its arguments. -/
theorem isType_appliedItem (front : List String) (last : String) {types : List (List Token)}
    (known : Known (front ++ [last])) (each : ∀ type ∈ types, IsType type) :
    IsType (applied (r.item (front ++ [last])) types) := by
  have isPath := isPath_item path known
  rw [path.item known]
  rw [← List.append_assoc] at isPath ⊢
  exact isType_applied isPath (known.2 last List.mem_concat_self) each

/-- A record of the runtime library. -/
theorem isValue_itemRecord (names : List String) {items : List (List Token)} (known : Known names)
    (each : ∀ item ∈ items, IsField item) :
    IsValue (r.item names ++ block (commaSeparated items)) := by
  rw [path.item known]
  exact isValue_record (isPath_item path known)
    (List.append_ne_nil_of_left_ne_nil path.nonempty _) each (.inl rfl)

theorem apart_item {names : List String} (known : Known names) :
    apart (r.item names) = r.item names := by
  rw [path.item known, apart_pathOf]

end

/-! ## 2. Types -/

section

variable {type value : List Token} {items : List (List Token)}

theorem isType_str : IsType (referenceTo (word "str")) :=
  isType_reference (isType_name (by decide))

theorem isType_absolute (front : List String) (last : String) (known : Known (front ++ [last]))
    (each : ∀ type ∈ items, IsType type) :
    IsType (applied (Code.absolute (front ++ [last])) items) :=
  isType_applied (isPath_absolute known) (known.2 last List.mem_concat_self) each

theorem isType_vecOf (isType : IsType type) : IsType (vecOf type) :=
  isType_absolute ["std", "vec"] "Vec" (by decide) (List.forall_mem_singleton.mpr isType)

theorem isType_resultOf (isValue : IsType value) (isFault : IsType type) :
    IsType (resultOf value type) :=
  isType_absolute ["core", "result"] "Result" (by decide)
    (List.forall_mem_cons.mpr ⟨isValue, List.forall_mem_singleton.mpr isFault⟩)

end

theorem known_abi {name : String} (identifier : IsIdentifier name) : Known ["abi", name] :=
  ⟨List.cons_ne_nil _ _,
    List.forall_mem_cons.mpr ⟨by decide, List.forall_mem_singleton.mpr identifier.free⟩⟩

section

variable (path : r.HasPath absolute around)

include path

theorem isType_wireType (wire : WireType) : IsType (r.wireType wire) := by
  induction wire with
  | primitive kind => exact isType_item path _ (known_abi (isIdentifier_kindName kind))
  | fixedArray element length ih =>
    exact isType_appliedItem path ["abi"] _ (known_abi (isIdentifier_containerName _))
      (List.forall_mem_singleton.mpr ih)
  | dynamicArray element ih =>
    exact isType_appliedItem path ["abi"] _ (known_abi (isIdentifier_containerName _))
      (List.forall_mem_singleton.mpr ih)

theorem isType_nativeType (native : NativeType) : IsType (r.nativeType native) := by
  induction native with
  | text => exact isType_path (isPath_absolute (by decide)) (List.cons_ne_nil _ _)
  | bool => exact isType_name (by decide)
  | integer => exact isType_item path ["BigInt"] (by decide)
  | bytes => exact isType_vecOf (isType_name (by decide))
  | list element ih => exact isType_vecOf ih

theorem isType_callerType (wire : WireType) (native : NativeType) :
    IsType (r.callerType wire native) := by
  unfold callerType
  split
  · exact isType_nativeType path native
  · exact isType_wireType path wire

theorem isType_fieldType (wire : WireType) (indexed : Bool) (native : NativeType) :
    IsType (r.fieldType wire indexed native) :=
  isType_callerType path (loggedWire wire indexed) native

end

/-! ## 3. Values -/

section

variable {value method : List Token} {arguments types : List (List Token)}

/-- A call of a function of the standard library ends a body. -/
theorem isStatements_absoluteCall {names : List String} (known : Known names)
    (each : ∀ argument ∈ arguments, IsExpression argument) :
    IsStatements (call (Code.absolute names) arguments) := by
  refine .last (((isValue_absolute known).call each).isExpression.value fun rest => ?_)
  rw [call, List.append_assoc]
  exact beginsExpression_path (isPath_absolute known) known.1 rfl rfl
    fun _ _ _ => rfl

/-- A call of a function of the runtime library ends a body. -/
theorem isStatements_itemCall (path : r.HasPath absolute around) (names : List String)
    (known : Known names) (each : ∀ argument ∈ arguments, IsExpression argument) :
    IsStatements (call (r.item names) arguments) := by
  refine .last (((isValue_item path names known).call each).isExpression.value fun rest => ?_)
  have isPath := isPath_item path known
  rw [call, List.append_assoc, path.item known]
  -- The path has a second name, from the library's own path or behind it, so it begins no item.
  obtain ⟨first, others, rfl⟩ := List.exists_cons_of_ne_nil path.nonempty
  cases others with
  | nil =>
    obtain ⟨second, later, rfl⟩ := List.exists_cons_of_ne_nil known.1
    exact beginsExpression_path isPath (List.cons_ne_nil _ _) rfl rfl
      fun _ _ _ => comesItem_of_path isPath
  | cons second others =>
    exact beginsExpression_path isPath (List.cons_ne_nil _ _) rfl rfl
      fun _ _ _ => comesItem_of_path isPath

theorem isStatements_okOf (isExpression : IsExpression value) : IsStatements (okOf value) :=
  isStatements_absoluteCall (by decide) (List.forall_mem_singleton.mpr isExpression)

theorem isStatements_errOf (isExpression : IsExpression value) : IsStatements (errOf value) :=
  isStatements_absoluteCall (by decide) (List.forall_mem_singleton.mpr isExpression)

theorem isValue_self : IsValue (word "self") :=
  isValue_word (.inr (by decide)) (by decide)

theorem isValue_contract : IsValue (dot (word "self") "contract") :=
  isValue_self.dot _ (by decide)

/-- A call of a method without arguments. -/
theorem isValue_methodCall (isValue : IsValue value) (name : String)
    (free : isReserved name = false) : IsValue (call (dot value name) []) :=
  (isValue.dot name free).call (List.forall_mem_nil _)

/-- A call of a method of a local value is a statement. -/
theorem isStatement_methodCall (name : String) (free : isReserved name = false) (called : String)
    (freeCalled : isReserved called = false)
    (each : ∀ argument ∈ arguments, IsExpression argument) :
    IsStatement (statement (call (dot (word name) called) arguments)) false fun _ => True :=
  (((isValue_name name free).dot called freeCalled).call each).isExpression.statement fun _ =>
    beginsExpression_word (isPath_name free) rfl rfl fun _ _ _ => comesItem_of_mark free _ _

/-- A call of one of the contract's own methods ends a body. -/
theorem isStatements_selfCall {tokens rest : List Token} (isValue : IsValue tokens)
    (same : tokens = word "self" ++ mark '.' :: rest) : IsStatements tokens := by
  subst same
  exact .last (isValue.isExpression.value fun _ =>
    beginsExpression_word (isPath_word (.inr (by decide)) (by decide)) rfl rfl fun _ _ _ => rfl)

theorem isStatements_callByName {name : String} (free : isReserved name = false)
    (each : ∀ argument ∈ arguments, IsExpression argument) :
    IsStatements (contractCall (word name) arguments) :=
  isStatements_selfCall ((isValue_contract.dot name free).call each) rfl

theorem isStatements_callWith {name : String} (free : isReserved name = false)
    (eachType : ∀ type ∈ types, IsType type)
    (each : ∀ argument ∈ arguments, IsExpression argument) :
    IsStatements (contractCall (instantiated (word name) types) arguments) := by
  have same : contractCall (instantiated (word name) types) arguments =
      call (instantiated (dot (dot (word "self") "contract") name) types) arguments := by
    simp [contractCall, instantiated, applied, dot, word]
  exact isStatements_selfCall (same ▸ isValue_contract.callWith free eachType each) rfl

end

/-! ## 4. Functions as values -/

section

variable (path : r.HasPath absolute around)

include path

theorem apart_wireType (wire : WireType) : apart (r.wireType wire) = r.wireType wire := by
  induction wire with
  | primitive kind => exact apart_item path (known_abi (isIdentifier_kindName kind))
  | fixedArray element length ih =>
    have container := apart_item path (known_abi (isIdentifier_containerName (.fixed length)))
    rw [wireType, apart_applied, abiItem, container, List.map_singleton, ih]
  | dynamicArray element ih =>
    have container := apart_item path (known_abi (isIdentifier_containerName .dynamic))
    rw [wireType, apart_applied, abiItem, container, List.map_singleton, ih]

theorem apart_typeReference (wire : WireType) (indexed : Bool) :
    apart (r.typeReference wire indexed) = r.typeReference wire indexed := by
  have made (name : String) (free : isReserved name = false) (arguments : List (List Token))
      (same : arguments.map apart = arguments) :
      apart (call (instantiated (r.abiItem ["TypeReference", name]) [r.wireType wire]) arguments) =
        call (instantiated (r.abiItem ["TypeReference", name]) [r.wireType wire]) arguments := by
    have known : Known ["abi", "TypeReference", name] := ⟨List.cons_ne_nil _ _,
      List.forall_mem_cons.mpr ⟨by decide, List.forall_mem_cons.mpr
        ⟨by decide, List.forall_mem_singleton.mpr free⟩⟩⟩
    rw [apart_call, instantiated, apart_applied, apart_append, abiItem, apart_item path known, same,
      List.map_singleton, apart_wireType path]
    rfl
  unfold typeReference
  split
  · exact made "bounded" (by decide) _ rfl
  · exact made "new" (by decide) _ rfl

theorem apart_wireValue (wire : WireType) (name : String) :
    apart (r.wireValue wire name) = r.wireValue wire name := by
  have type : apart (mark '<' :: r.wireType wire ++ mark '>' :: pathSep) =
      mark '<' :: r.wireType wire ++ mark '>' :: pathSep := by
    rw [apart_append, apart_cons, apart_wireType path]
    rfl
  unfold wireValue
  split
  · simp only
    split
    · rw [apart_call, apart_append, type]
      rfl
    · rw [apart_call, apart_append, type]
      rfl
  · rfl

/-- A list is read with its brackets, whatever is rendered inside them. -/
theorem isValue_listOf_composed {items : List (List Token)}
    (composed : ∀ item ∈ items, r.Composes item) (same : ∀ item ∈ items, apart item = item) :
    IsValue (listOf items) := by
  refine isValue_listOf ((Composed.commaSeparated composed).matched path.matched) ?_
  rw [apart_commaSeparated, List.map_congr_left same]
  exact congrArg commaSeparated (List.map_id items)

theorem isValue_encodedInputs (function : FunctionBinding) :
    IsValue (listOf (r.encodedInputs function)) := by
  refine isValue_listOf_composed path (composes_encodedInputs function) ?_
  refine List.forall_mem_map.mpr fun input _ => ?_
  rw [apart_call, abiItem, apart_item path (by decide), List.map_singleton, apart_wireValue path]

theorem isValue_outputReferences (function : FunctionBinding) :
    IsValue (listOf (r.outputReferences function)) :=
  isValue_listOf_composed path (composes_outputReferences function)
    (List.forall_mem_map.mpr fun _ _ => apart_typeReference path _ _)

theorem isValue_fieldReferences (event : EventBinding) :
    IsValue (listOf (r.fieldReferences event)) :=
  isValue_listOf_composed path (composes_fieldReferences event)
    (List.forall_mem_map.mpr fun _ _ => apart_typeReference path _ _)

theorem isExpression_functionValue {function : FunctionBinding}
    (free : isReserved function.constantName = false) :
    IsExpression (r.functionValue function) := by
  refine ((isValue_item path ["abi", "Function", "new"] (by decide)).call ?_).isExpression
  exact List.forall_mem_cons.mpr ⟨isExpression_name _ free, List.forall_mem_cons.mpr
    ⟨(isValue_encodedInputs path function).isExpression, List.forall_mem_singleton.mpr
      (isValue_outputReferences path function).isExpression⟩⟩

end

/-! ## 5. Methods of functions -/

theorem isExpression_functionLocal : IsExpression functionLocal :=
  isExpression_name _ (by decide)

/-- Values that are read by their positions. -/
theorem isExpression_tupleValues {types : List (List Token)} (each : ∀ type ∈ types, IsType type) :
    ∀ item ∈ tupleValues types, IsExpression item := by
  intro item member
  obtain ⟨position, inside, rfl⟩ := List.mem_mapIdx.mp member
  exact ((isValue_name _ (by decide)).callWith (by decide)
    (List.forall_mem_singleton.mpr (each _ (List.getElem_mem inside)))
    (List.forall_mem_singleton.mpr (isValue_number position).isExpression)).attempted.isExpression

section

variable (path : r.HasPath absolute around) {function : FunctionBinding}

include path

theorem isType_remoteCall {returned call : List Token} (named : function.Named IsUnreserved)
    (found : r.remoteCall function = .ok (some (returned, call))) :
    IsType returned ∧ IsStatements call := by
  have passed := isExpression_functionLocal
  have alone := List.forall_mem_singleton.mpr passed
  unfold remoteCall at found
  split at found
  · cases found
  · cases found
    exact ⟨isType_item path ["TransactionReceipt"] (by decide),
      isStatements_callByName (by decide) alone⟩
  · cases found
    have free : isReserved (function.valueParam.getD valueParamName) = false := by
      cases given : function.valueParam with
      | none => show isReserved valueParamName = false; decide
      | some name =>
        refine named.names name ?_
        simp [FunctionBinding.identifiers, given]
    exact ⟨isType_item path ["TransactionReceipt"] (by decide), isStatements_callByName (by decide)
      (List.forall_mem_cons.mpr
        ⟨passed, List.forall_mem_singleton.mpr (isExpression_name _ free)⟩)⟩
  · cases found
    exact ⟨isType_vecOf (isType_item path ["NativeValue"] (by decide)),
      isStatements_callByName (by decide) alone⟩
  · obtain ⟨output, _, same⟩ := Outcome.bind_eq_ok_iff.mp found
    cases same
    have exposed := isType_callerType path output.wire output.native
    exact ⟨exposed, isStatements_callWith (by decide)
      (List.forall_mem_cons.mpr
        ⟨isType_wireType path output.wire, List.forall_mem_singleton.mpr exposed⟩) alone⟩
  · cases found
    have types : ∀ type ∈ function.outputs.map fun output =>
        r.callerType output.wire output.native, IsType type :=
      List.forall_mem_map.mpr fun _ _ => isType_callerType path _ _
    have values := isValue_tuple (isExpression_tupleValues types)
    have closure := isExpression_closure (isParameter_name "results" (by decide))
      (isStatements_okOf values.isExpression)
    exact ⟨isType_tuple types, isStatements_callByName (by decide)
      (List.forall_mem_cons.mpr ⟨passed, List.forall_mem_singleton.mpr closure⟩)⟩

theorem areParameters_function (named : function.Named IsUnreserved) :
    AreParameters (receiver ++ commaSeparated (r.parameters function)) := by
  refine areParameters_receiver (isParameters_commaSeparated ?_)
  refine List.forall_mem_append.mpr ⟨?_, ?_⟩
  · refine List.forall_mem_map.mpr fun input listed => ?_
    refine isTyped _ (named.names _ ?_) (isType_callerType path _ _)
    simp only [FunctionBinding.identifiers, List.mem_cons, List.mem_append]
    exact .inr (.inr (.inl (List.mem_map_of_mem listed)))
  · refine List.forall_mem_map.mpr fun name listed => ?_
    refine isTyped _ (named.names _ ?_) (isType_item path ["BigInt"] (by decide))
    simp only [FunctionBinding.identifiers, List.mem_cons, List.mem_append]
    exact .inr (.inr (.inr listed))

/-- What is rendered behind its documentation is read as a part if it is read as one behind whatever
attributes. Without documentation it is rendered in the same way. -/
theorem areParts_documented {reader : Nested → Reader Unit} (render : Renderer → List Token)
    {core : List Token} (isAttributable : IsAttributable reader core)
    (composes : (r.documenting false).Composes (render (r.documenting false)))
    (behind : ∃ text, ∀ emitDocs,
      render (r.documenting emitDocs) = (r.documenting emitDocs).doc text ++ core) :
    AreParts reader (render r) := by
  obtain ⟨text, behind⟩ := behind
  have spelled : spellDocs core = core := by
    rw [behind false] at composes
    exact composes.spellDocs_eq path.spelled
  have same : render r = r.doc text ++ core := behind r.emitDocs
  rw [same, doc]
  split
  · exact .documented _ spelled isAttributable
  · exact .single spelled isAttributable

theorem areParts_methodTokens {remote : Option (List Token × List Token)}
    (named : function.Named IsUnreserved) (found : r.remoteCall function = .ok remote) :
    AreParts implementationMember (r.methodTokens function remote) := by
  have free := named.names function.methodName List.mem_cons_self
  have constant := named.names function.constantName (List.mem_cons_of_mem _ List.mem_cons_self)
  have composes := composes_methodTokens (r := r.documenting false)
    ((remoteCall_documenting r false function).trans found)
  cases remote with
  | none =>
    have held := List.forall_mem_singleton.mpr (isField_typed "function" (by decide)
      (isExpression_name _ constant))
    have fault := isValue_itemRecord path ["ContractError", "NoReturnValue"] (by decide) held
    rw [commaSeparated_singleton] at fault
    have unused : IsAttribute (attributeOf (call (word "allow") [word "unused_variables"])) :=
      isAttribute_allowing (by decide) (.single (Token.isTame_name _)) rfl
    refine areParts_documented path (fun r => r.methodTokens function none) (.cons
      (isMember_function free (areParameters_function path named)
        (isType_resultOf (isType_tuple (List.forall_mem_nil _))
          (isType_item path ["ContractError"] (by decide)))
        (isStatements_errOf fault.isExpression)) unused) composes ⟨function.docText, fun _ => ?_⟩
    simp only [methodTokens, parameters_documenting, item_documenting]
    rfl
  | some remote =>
    obtain ⟨returned, call⟩ := remote
    obtain ⟨isType, isStatements⟩ := isType_remoteCall path named found
    refine areParts_documented path (fun r => r.methodTokens function (some (returned, call)))
      (isMember_function free (areParameters_function path named)
        (isType_appliedItem path [] "RemoteCall" (by decide) (List.forall_mem_singleton.mpr isType))
        (.followed (isStatement_local "function" (by decide)
          (isExpression_functionValue path constant)) isStatements)) composes
      ⟨function.docText, fun _ => ?_⟩
    simp only [methodTokens, parameters_documenting, functionValue_documenting, item_documenting]
    rfl

end

end Renderer

end ContractBinder
