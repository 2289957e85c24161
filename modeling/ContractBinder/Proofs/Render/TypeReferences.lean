import ContractBinder.Proofs.Render.Rendering

/-!
# Type references

The runtime type of a long fixed array does not say the length, so a reference to a
type says it as a value. Only the outermost array has such a value.

Results:

1. `Renderer.wireType_eq_iff`: runtime types tell types apart up to the lengths that
   they do not say.
2. `Renderer.typeReference_congr`: the path of the runtime library decides how types
   and references to them are rendered.
3. `Renderer.callerType_argument`, `Renderer.callerType_output`, `Renderer.fieldType_field`:
   what callers see of a binding's types, given that the bindings hold projections.
4. `Renderer.refers_iff`: what a reference consists of.
5. `typeReference_eq_iff`: references tell the lengths of outermost arrays apart as
   well.
6. `typeReference_not_injective`: they do not tell long arrays in other arrays apart.
-/

namespace ContractBinder

open Abi (Container NativeType TypeNode WireKind WireType maxStaticLength)
open Code (Token)

/-! ## 1. Names of runtime types -/

namespace Abi

theorem WireKind.wireName_inj {first second : WireKind} :
    first.wireName = second.wireName ↔ first = second := by
  -- The leads of two kinds differ in one of their first two letters.
  cases first <;> cases second <;> simp [wireName, ← String.toList_inj, Text.toDigits_inj]

theorem Container.wireName_eq_iff {first second : Container} :
    first.wireName = second.wireName ↔
      first = second ∨ ∃ length other, first = .bounded length ∧ second = .bounded other := by
  cases first <;> cases second <;> simp [wireName, ← String.toList_inj, Text.toDigits_inj]

/-- A length as far as a runtime type says it. All that are too long for one count as
the least of them. -/
def erasedLength (length : Nat) : Nat :=
  min length (maxStaticLength + 1)

/-- A type without the lengths that its runtime type does not say. -/
def WireType.erased : WireType → WireType
  | .primitive kind => .primitive kind
  | .fixedArray element length => .fixedArray element.erased (erasedLength length)
  | .dynamicArray element => .dynamicArray element.erased

theorem Container.wireName_fixed_eq_iff {first second : Nat} :
    (fixed first).wireName = (fixed second).wireName ↔
      erasedLength first = erasedLength second := by
  rw [wireName_eq_iff]
  unfold fixed erasedLength
  split <;> split <;> simp <;> omega

theorem Container.wireName_fixed_ne_dynamic (length : Nat) :
    (fixed length).wireName ≠ dynamic.wireName := by
  rw [ne_eq, wireName_eq_iff]
  unfold fixed
  split <;> simp

theorem WireType.runtimeNames_ne_nil (wire : WireType) : wire.runtimeNames ≠ [] := by
  cases wire <;> simp [runtimeNames]

/-- The names of the runtime types say everything but the long lengths. -/
theorem WireType.runtimeNames_eq_iff {first second : WireType} :
    first.runtimeNames = second.runtimeNames ↔ first.erased = second.erased := by
  -- A kind has one name, and an array has at least two, the first of which says the container.
  induction first generalizing second with
  | primitive kind =>
    cases second <;> simp [runtimeNames, erased, WireKind.wireName_inj,
      (runtimeNames_ne_nil _).symm]
  | fixedArray element length ih =>
    cases second <;> simp [runtimeNames, erased, ih, Container.wireName_fixed_eq_iff,
      Container.wireName_fixed_ne_dynamic, runtimeNames_ne_nil, and_comm]
  | dynamicArray element ih =>
    cases second <;> simp [runtimeNames, erased, ih,
      (Container.wireName_fixed_ne_dynamic _).symm, runtimeNames_ne_nil]

end Abi

/-! ## 2. Runtime types -/

namespace Renderer

variable (r : Renderer) {wire wire' : WireType} {name name' : String} {inner inner' : List Token}

theorem abiItem_eq (names : List String) :
    r.abiItem names = r.item ["abi"] ++ Code.separatedTokens names := by
  simp [abiItem, item, Code.pathOf_cons, Code.separatedTokens]

theorem abiItem_inj : r.abiItem [name] = r.abiItem [name'] ↔ name = name' := by
  simp [abiItem_eq, Code.separatedTokens]

theorem applied_inj : Code.applied (r.abiItem [name]) [inner] =
    Code.applied (r.abiItem [name']) [inner'] ↔ name = name' ∧ inner = inner' := by
  simp [abiItem_eq, Code.separatedTokens, Code.applied]

theorem abiItem_ne_applied : r.abiItem [name] ≠ Code.applied (r.abiItem [name']) [inner] := by
  simp [abiItem_eq, Code.separatedTokens, Code.applied]

theorem wireType_eq_iff_names :
    r.wireType wire = r.wireType wire' ↔ wire.runtimeNames = wire'.runtimeNames := by
  induction wire generalizing wire' with
  | primitive kind =>
    cases wire' <;> simp [wireType, Abi.WireType.runtimeNames, abiItem_inj, abiItem_ne_applied,
      (Abi.WireType.runtimeNames_ne_nil _).symm]
  | fixedArray element length ih =>
    cases wire' <;> simp [wireType, Abi.WireType.runtimeNames, applied_inj, ih,
      (abiItem_ne_applied r).symm, Abi.WireType.runtimeNames_ne_nil]
  | dynamicArray element ih =>
    cases wire' <;> simp [wireType, Abi.WireType.runtimeNames, applied_inj, ih,
      (abiItem_ne_applied r).symm, Abi.WireType.runtimeNames_ne_nil]

theorem wireType_eq_iff : r.wireType wire = r.wireType wire' ↔ wire.erased = wire'.erased :=
  (wireType_eq_iff_names r).trans Abi.WireType.runtimeNames_eq_iff

section

variable {r other : Renderer} (same : r.runtime = other.runtime)

include same

theorem item_congr (names : List String) : r.item names = other.item names := by
  rw [item, item, same]

theorem wireType_congr (wire : WireType) : r.wireType wire = other.wireType wire := by
  have abiItem (names : List String) : r.abiItem names = other.abiItem names :=
    item_congr same _
  induction wire with
  | primitive kind => exact abiItem _
  | fixedArray element length ih => rw [wireType, wireType, abiItem, ih]
  | dynamicArray element ih => rw [wireType, wireType, abiItem, ih]

theorem nativeType_congr (type : NativeType) :
    r.nativeType type = other.nativeType type := by
  induction type with
  | list element ih => rw [nativeType, nativeType, ih]
  | text | bool | bytes => rfl
  | integer => exact item_congr same _

theorem typeReference_congr (wire : WireType) (indexed : Bool) :
    r.typeReference wire indexed = other.typeReference wire indexed := by
  simp only [typeReference, abiItem, item_congr same, wireType_congr same]

end

/-! ## 3. Types that callers see -/

/-- The type that callers see of a wire type: in native mode its projection, and else the type
itself. -/
def exposedType (r : Renderer) (wire : WireType) : List Token :=
  if r.nativeTypes then r.nativeType wire.native else r.wireType wire

/-- Where the caller's type of a wire type is its projection, it is what callers see. -/
theorem callerType_eq_exposedType {native : NativeType}
    (projects : (TypeNode.whole wire).project = .ok native) :
    r.callerType wire native = r.exposedType wire := by
  cases projects
  rfl

@[simp]
theorem callerType_argument (input : Argument) :
    r.callerType input.wire input.native = r.exposedType input.wire :=
  r.callerType_eq_exposedType input.projects

@[simp]
theorem callerType_output (output : Output) :
    r.callerType output.wire output.native = r.exposedType output.wire :=
  r.callerType_eq_exposedType output.projects

/-- The projection of a field is that of the value that is in the log: a digest of 32
bytes projects to bytes like every other digest of a dynamic value. -/
theorem projectField_eq (wire : WireType) (indexed : Bool) :
    (TypeNode.whole wire).projectField indexed = .ok (loggedWire wire indexed).native := by
  cases indexed with
  | false => rfl
  | true =>
    cases dynamic : wire.isDynamic <;>
      simp [TypeNode.projectField, TypeNode.projectIndexed, WireType.indexedNative, loggedWire,
        dynamic, WireType.native, Abi.WireKind.native]

@[simp]
theorem fieldType_field (field : EventField) :
    r.fieldType field.wire field.indexed field.native =
      r.exposedType (loggedWire field.wire field.indexed) := by
  have projects := field.projects
  rw [projectField_eq, Except.ok.injEq] at projects
  rw [← projects]
  rfl

/-! ## 4. References -/

theorem boundedLength?_of_long {element : WireType} {length : Nat}
    (long : maxStaticLength < length) :
    boundedLength? (.fixedArray element length) = some length := by
  simp [boundedLength?, WireType.container?, Container.fixed, Nat.not_le.mpr long]

theorem boundedLength?_of_short {wire : WireType}
    (short : ∀ element length, wire = .fixedArray element length → length ≤ maxStaticLength) :
    boundedLength? wire = none := by
  cases wire with
  | primitive kind => rfl
  | fixedArray element length =>
    simp [boundedLength?, WireType.container?, Container.fixed, short element length rfl]
  | dynamicArray element => rfl

/-- `r.Refers flag wire reference`: the reference is to the wire type, with the flag. It is
told the length if the type is an array that is too long for its runtime type to say it. -/
inductive Refers (r : Renderer) (flag : Bool) : WireType → List Token → Prop
  | bounded {element : WireType} {length : Nat} :
      maxStaticLength < length →
      r.Refers flag (.fixedArray element length)
        (r.abiItem ["TypeReference", "bounded"] ++
          [Token.mark ':' true, .mark ':' false, .mark '<' false] ++
          r.wireType (.fixedArray element length) ++
          [Token.mark '>' false, .opening .paren, .number length, .mark ',' false,
            .name (toString flag), .closing .paren])
  | plain {wire : WireType} :
      (∀ element length, wire = .fixedArray element length → length ≤ maxStaticLength) →
      r.Refers flag wire
        (r.abiItem ["TypeReference", "new"] ++
          [Token.mark ':' true, .mark ':' false, .mark '<' false] ++ r.wireType wire ++
          [Token.mark '>' false, .opening .paren, .name (toString flag), .closing .paren])

theorem refers_iff {r : Renderer} {flag : Bool} {wire : WireType} {reference : List Token} :
    r.Refers flag wire reference ↔ reference = r.typeReference wire flag := by
  have flagged : flagOf flag = [Token.name (toString flag)] := by cases flag <;> rfl
  unfold typeReference
  rw [flagged]
  constructor
  · rintro (long | short)
    · rw [boundedLength?_of_long long]
      simp [Code.call, Code.instantiated, Code.applied, Code.numberOf, Code.mark, Code.pathSep,
        Code.enclose]
    · rw [boundedLength?_of_short short]
      simp [Code.call, Code.instantiated, Code.applied, Code.mark, Code.pathSep, Code.enclose]
  · rintro rfl
    by_cases short : ∀ element length, wire = .fixedArray element length →
        length ≤ maxStaticLength
    · rw [boundedLength?_of_short short]
      simpa [Code.call, Code.instantiated, Code.applied, Code.mark, Code.pathSep, Code.enclose]
        using Refers.plain short
    · simp only [not_forall, Nat.not_le] at short
      obtain ⟨element, length, rfl, long⟩ := short
      rw [boundedLength?_of_long long]
      simpa [Code.call, Code.instantiated, Code.applied, Code.numberOf, Code.mark, Code.pathSep,
        Code.enclose] using Refers.bounded long

theorem flagOf_inj {flag flag' : Bool} : flagOf flag = flagOf flag' ↔ flag = flag' := by
  cases flag <;> cases flag' <;> simp [flagOf, Code.word]

/-- The way a reference is made, its type and its values can be told from it, if
references that are made in one way have equally many tokens for the values. -/
theorem reference_inj {way way' : String} {values values' : List (List Token)}
    (sameLength : way = way' →
      (Code.commaSeparated values).length = (Code.commaSeparated values').length) :
    Code.call (Code.instantiated (r.abiItem ["TypeReference", way]) [inner]) values =
        Code.call (Code.instantiated (r.abiItem ["TypeReference", way']) [inner']) values' ↔
      way = way' ∧ inner = inner' ∧ Code.commaSeparated values = Code.commaSeparated values' := by
  simp only [Code.call, Code.instantiated, Code.applied, Code.commaSeparated_singleton,
    abiItem_eq, Code.separatedTokens, List.flatMap_cons, List.flatMap_nil, List.append_assoc,
    List.append_cancel_left_eq, List.cons_append, List.nil_append, List.cons.injEq,
    Token.name.injEq, true_and]
  -- As many tokens stand behind the one type as behind the other, so both end at the same place.
  refine and_congr_right fun same => ⟨fun tokens => ?_, ?_⟩
  · have behind : (Code.mark '>' :: Code.enclose .paren (Code.commaSeparated values)).length =
        (Code.mark '>' :: Code.enclose .paren (Code.commaSeparated values')).length := by
      simp [Code.enclose, sameLength same]
    obtain ⟨sameInner, sameValues⟩ := List.append_inj' tokens behind
    exact ⟨sameInner, by simpa [Code.enclose] using sameValues⟩
  · rintro ⟨rfl, sameValues⟩
    rw [sameValues]

theorem typeReference_eq_iff_wireType {indexed indexed' : Bool} :
    r.typeReference wire indexed = r.typeReference wire' indexed' ↔
      indexed = indexed' ∧ boundedLength? wire = boundedLength? wire' ∧
        r.wireType wire = r.wireType wire' := by
  unfold typeReference
  generalize boundedLength? wire = length?, boundedLength? wire' = length?'
  rcases length? with _ | length <;> rcases length?' with _ | length'
  · refine (reference_inj r fun _ => by simp [flagOf, Code.word]).trans ?_
    simp [flagOf_inj, and_comm]
  · exact (reference_inj r (by simp)).trans (by simp)
  · exact (reference_inj r (by simp)).trans (by simp)
  · refine (reference_inj r fun _ => by simp [Code.numberOf, flagOf, Code.word]).trans ?_
    simp [Code.numberOf, flagOf_inj]
    tauto

end Renderer

/-- References to types are the same exactly if they agree in the flag, in the length of
the outermost array if it is long, and in the types but for the long lengths. -/
theorem typeReference_eq_iff (r : Renderer) (wire wire' : WireType) (indexed indexed' : Bool) :
    r.typeReference wire indexed = r.typeReference wire' indexed' ↔
      indexed = indexed' ∧ Renderer.boundedLength? wire = Renderer.boundedLength? wire' ∧
        wire.erased = wire'.erased := by
  rw [Renderer.typeReference_eq_iff_wireType, Renderer.wireType_eq_iff]

/-- References do not say the length of a long array that is in another array. -/
theorem typeReference_not_injective :
    ¬ ∀ (r : Renderer) (declared declared' : String) (wire wire' : WireType) (indexed : Bool),
      BindingFault.resolve declared = .ok wire → BindingFault.resolve declared' = .ok wire' →
      r.typeReference wire indexed = r.typeReference wire' indexed → wire = wire' := by
  intro injective
  let nested (length : Nat) : WireType :=
    .dynamicArray (.fixedArray (.primitive (.uint 256)) length)
  have declared : BindingFault.resolve "uint256[33][]" = .ok (nested 33) :=
    Outcome.toOption_eq_some_iff.mp (by decide +kernel)
  have declared' : BindingFault.resolve "uint256[34][]" = .ok (nested 34) :=
    Outcome.toOption_eq_some_iff.mp (by decide +kernel)
  have same := injective ⟨⟨false, [⟨"contract_runtime", []⟩]⟩, false, false⟩ _ _ _ _ false
    declared declared' rfl
  exact absurd same (by decide)

end ContractBinder
