import ContractBinder.Proofs.Abi.Canonical
import ContractBinder.Proofs.Binding.Making
import ContractBinder.Proofs.Binding.Steps
import ContractBinder.Text.Split

/-!
# Signatures

A signature gives the name and the parameter types of its entry back, so
different functions or events never share one (`signature_lossless`). The name
may hold any characters, brackets and commas too: the types hold none of them,
so the last opening bracket is the one behind the name.
-/

namespace ContractBinder

open Abi (Entry Parameter WireType)

/-! ## 1. Signatures of entries -/

/-- `Signs entry signature`: something is generated for the entry, as a function
or as an event, and this is its signature. -/
inductive Signs (entry : Entry) : String → Prop
  | function {function : FunctionBinding} :
      (FunctionBinding.synthesize entry).outcome = .ok function → Signs entry function.signature
  | event {event : EventBinding} :
      (EventBinding.synthesize entry).outcome = .ok event → Signs entry event.signature

theorem wellFormed_of_resolveTypes {parameters : List Parameter} {types : List WireType}
    (resolved : resolveTypes parameters = .ok types) : ∀ type ∈ types, type.WellFormed := by
  have each := resolveTypes_eq_ok_iff.mp resolved
  induction each with
  | nil => exact fun _ member => absurd member List.not_mem_nil
  | cons first _ ih =>
    intro type member
    rcases List.mem_cons.mp member with rfl | later
    · exact Abi.wellFormed_of_resolve first
    · exact ih (resolveTypes_eq_ok_iff.mpr ‹_›) type later

theorem Signs.resolved {entry : Entry} {signature : String} (signs : Signs entry signature) :
    ∃ types, resolveTypes entry.inputs = .ok types ∧
      signature = canonicalSignature entry.name types := by
  cases signs with
  | function made =>
    rw [FunctionBinding.synthesize_outcome] at made
    obtain ⟨inputs, _, parts, rfl⟩ := FunctionBinding.parts_of_ofEntry made
    exact ⟨inputs.map Argument.wire, parts.inputs, rfl⟩
  | event made =>
    rw [EventBinding.synthesize_outcome] at made
    obtain ⟨fields, parts, rfl⟩ := EventBinding.parts_of_ofEntry made
    exact ⟨fields.map EventField.wire, parts.types, rfl⟩

/-! ## 2. Reading signatures -/

/-- The types that a list of types without spaces declares. An empty text lists
no types. -/
def listedTypes (listed : List Char) : Except BindingFault (List WireType) :=
  (if listed.isEmpty then [] else Text.splitOn ',' listed).mapM fun declared =>
    BindingFault.resolve (String.ofList declared)

/-- Canonical spellings with commas between them. -/
def joinedTypes (types : List WireType) : List Char :=
  [','].intercalate (types.map fun type => type.canonical.toList)

theorem toList_canonicalSignature (name : String) (types : List WireType) :
    (canonicalSignature name types).toList =
      name.toList ++ '(' :: (joinedTypes types ++ [')']) := by
  simp [canonicalSignature, joinedTypes, Function.comp_def]

theorem not_mem_joinedTypes (types : List WireType) : '(' ∉ joinedTypes types := by
  intro member
  rcases Text.mem_of_mem_intercalate member with comma | ⟨part, listed, inside⟩
  · exact absurd (List.mem_singleton.mp comma) (by decide)
  · obtain ⟨type, _, rfl⟩ := List.mem_map.mp listed
    exact WireType.not_mem_canonical rfl inside

theorem cutLast?_canonicalSignature (name : String) (types : List WireType) :
    Text.cutLast? '(' (canonicalSignature name types).toList =
      some (name.toList, joinedTypes types ++ [')']) := by
  rw [toList_canonicalSignature]
  refine Text.cutLast?_append name.toList ?_
  simpa using not_mem_joinedTypes types

theorem listedTypes_joinedTypes {types : List WireType}
    (wellFormed : ∀ type ∈ types, type.WellFormed) :
    listedTypes (joinedTypes types) = .ok types := by
  have resolved : List.Forall₂
      (fun declared type => BindingFault.resolve (String.ofList declared) = .ok type)
      (types.map fun type => type.canonical.toList) types := by
    rw [List.forall₂_map_left_iff, List.forall₂_same]
    intro type member
    rw [String.ofList_toList]
    exact Abi.resolve_canonical (wellFormed type member)
  refine Outcome.mapM_eq_ok_iff.mpr ?_
  cases types with
  | nil => exact .nil
  | cons first others =>
    have nonempty : (joinedTypes (first :: others)).isEmpty = false := by
      cases others <;> simp [joinedTypes, WireType.canonical_ne_empty]
    have parts : Text.splitOn ',' (joinedTypes (first :: others)) =
        (first :: others).map fun type => type.canonical.toList := by
      rw [Text.splitOn_eq]
      refine List.splitOn_intercalate ',' ?_ (by simp)
      intro part member
      obtain ⟨type, _, rfl⟩ := List.mem_map.mp member
      exact WireType.not_mem_canonical rfl
    rw [nonempty, if_neg Bool.false_ne_true, parts]
    exact resolved

/-- Equal signatures are cut into equal names and lists, and a list gives its types back. -/
theorem canonicalSignature_inj {name other : String} {types otherTypes : List WireType}
    (wellFormed : ∀ type ∈ types, type.WellFormed)
    (otherWellFormed : ∀ type ∈ otherTypes, type.WellFormed)
    (same : canonicalSignature name types = canonicalSignature other otherTypes) :
    name = other ∧ types = otherTypes := by
  have cuts := congrArg (fun text => Text.cutLast? '(' text.toList) same
  simp only [cutLast?_canonicalSignature, Option.some.injEq, Prod.mk.injEq,
    List.append_cancel_right_eq] at cuts
  have found := listedTypes_joinedTypes wellFormed
  rw [cuts.2, listedTypes_joinedTypes otherWellFormed] at found
  exact ⟨String.toList_inj.mp cuts.1, (Except.ok.inj found).symm⟩

/-- Signatures lose nothing. What stands before the last opening bracket is the
entry's name, and what stands between this bracket and the final one lists the
resolved types of its parameters. So two signatures are equal exactly if the
names and the resolved types are, however the types were spelled. -/
theorem signature_lossless {entry other : Entry} {signature otherSignature : String}
    (signs : Signs entry signature) (otherSigns : Signs other otherSignature) :
    (∃ types listed, resolveTypes entry.inputs = .ok types ∧
      Text.cutLast? '(' signature.toList = some (entry.name.toList, listed ++ [')']) ∧
      listedTypes listed = .ok types) ∧
    (signature = otherSignature ↔
      entry.name = other.name ∧ resolveTypes entry.inputs = resolveTypes other.inputs) := by
  obtain ⟨types, resolved, rfl⟩ := signs.resolved
  obtain ⟨otherTypes, otherResolved, rfl⟩ := otherSigns.resolved
  refine ⟨⟨types, joinedTypes types, resolved, cutLast?_canonicalSignature entry.name types,
    listedTypes_joinedTypes (wellFormed_of_resolveTypes resolved)⟩, ?_⟩
  rw [resolved, otherResolved]
  constructor
  · intro same
    obtain ⟨sameName, sameTypes⟩ := canonicalSignature_inj (wellFormed_of_resolveTypes resolved)
      (wellFormed_of_resolveTypes otherResolved) same
    exact ⟨sameName, congrArg Except.ok sameTypes⟩
  · rintro ⟨sameName, sameTypes⟩
    cases sameTypes
    rw [sameName]

/-- A function and an event whose name holds a bracket and a comma, with two
spellings of the same type. -/
theorem signature_lossless_spellings :
    ∃ signature listed,
      Signs ⟨.function, "f(,", [⟨"a", "uint", false⟩], [], .view⟩ signature ∧
      Signs ⟨.event, "f(,", [⟨"b", "uint256 memory", true⟩], [], .normal⟩ signature ∧
      Text.cutLast? '(' signature.toList = some ("f(,".toList, listed ++ [')']) ∧
      listedTypes listed = .ok [.primitive (.uint 256)] := by
  have spelled : Abi.KindSpelling "uint256".toList (.uint 256) :=
    @Abi.KindSpelling.uint 256 (by decide) (by decide) (by decide)
  have bare : resolveTypes [⟨"a", "uint", false⟩] = .ok [.primitive (.uint 256)] :=
    resolveTypes_eq_ok_iff.mpr (.cons (Abi.resolve_eq_ok_iff.mpr
      ⟨"uint".toList, [], Text.words_eq_iff.mp (by decide), .inl rfl, .base .bareUint, by decide⟩)
      .nil)
  have qualified : resolveTypes [⟨"b", "uint256 memory", true⟩] = .ok [.primitive (.uint 256)] :=
    resolveTypes_eq_ok_iff.mpr (.cons (Abi.resolve_eq_ok_iff.mpr
      ⟨"uint256".toList, ["memory".toList], Text.words_eq_iff.mp (by decide),
        .inr ⟨"memory", by decide, rfl⟩,
        .base spelled, by decide⟩)
      .nil)
  have made : (FunctionBinding.synthesize
      ⟨.function, "f(,", [⟨"a", "uint", false⟩], [], .view⟩).outcome.toOption.isSome = true := by
    decide +kernel
  have logged : (EventBinding.synthesize
      ⟨.event, "f(,", [⟨"b", "uint256 memory", true⟩], [], .normal⟩).outcome.toOption.isSome =
        true := by
    decide +kernel
  obtain ⟨function, called⟩ := Option.isSome_iff_exists.mp made
  obtain ⟨event, decoded⟩ := Option.isSome_iff_exists.mp logged
  have signs := Signs.function (Outcome.toOption_eq_some_iff.mp called)
  have otherSigns := Signs.event (Outcome.toOption_eq_some_iff.mp decoded)
  obtain ⟨⟨types, listed, resolved, cut, read⟩, same⟩ := signature_lossless signs otherSigns
  have equal := same.mpr ⟨rfl, bare.trans qualified.symm⟩
  cases bare.symm.trans resolved
  exact ⟨_, listed, signs, equal ▸ otherSigns, cut, read⟩

end ContractBinder
