import ContractBinder.Proofs.Abi.Grammar

/-!
# Canonical spellings

The types that can be declared are the well-formed ones
(`wellFormed_of_resolve`), and the canonical spelling of such a type declares it
(`resolve_canonical`). A canonical spelling is one word of letters, digits and
square brackets, so no mark that separates types in a list occurs in it. Resolving
and canonical spelling are inverse to each other (`resolve_inverts_canonical`).
-/

namespace ContractBinder.Abi

/-! ## 1. Declared types are well formed -/

theorem KindSpelling.wellFormed {text : List Char} {kind : WireKind}
    (spelled : KindSpelling text kind) : kind.WellFormed := by
  cases spelled with
  | bool | address | string | bytes => trivial
  | bareUint | bareInt => exact ⟨by decide, by decide, by decide⟩
  | uint whole low high | int whole low high => exact ⟨whole, low, high⟩
  | fixedBytes low high => exact ⟨low, high⟩

theorem TypeSpelling.bounded {text : List Char} {type : WireType}
    (spelled : TypeSpelling text type) : type.Bounded := by
  induction spelled with
  | base kind => exact kind.wellFormed
  | dynamicGroup _ ih => exact ih
  | fixedGroup _ positive bounded ih => exact ⟨ih, positive, bounded⟩

theorem wellFormed_of_resolve {declared : String} {type : WireType}
    (resolved : BindingFault.resolve declared = .ok type) : type.WellFormed := by
  obtain ⟨text, _, _, _, spelled, deep⟩ := resolve_eq_ok_iff.mp resolved
  rw [spelled.count_groups] at deep
  exact ⟨spelled.bounded, deep⟩

/-! ## 2. Canonical spellings declare their types -/

theorem kindSpelling_canonical {kind : WireKind} (possible : kind.WellFormed) :
    KindSpelling kind.canonical.toList kind := by
  cases kind with
  | bool => exact .bool
  | address => exact .address
  | bytes => exact .bytes
  | string => exact .string
  | uint bits =>
    rw [WireKind.canonical, String.toList_append]
    exact .uint possible.1 possible.2.1 possible.2.2
  | int bits =>
    rw [WireKind.canonical, String.toList_append]
    exact .int possible.1 possible.2.1 possible.2.2
  | fixedBytes count =>
    rw [WireKind.canonical, String.toList_append]
    exact .fixedBytes possible.1 possible.2

theorem typeSpelling_canonical {type : WireType} (bounded : type.Bounded) :
    TypeSpelling type.canonical.toList type := by
  induction type with
  | primitive kind => exact .base (kindSpelling_canonical bounded)
  | fixedArray element length ih =>
    simp only [WireType.canonical, String.toList_append]
    rw [List.append_assoc _ "[".toList]
    exact .fixedGroup (ih bounded.1) bounded.2.1 bounded.2.2
  | dynamicArray element ih =>
    rw [WireType.canonical, String.toList_append]
    exact .dynamicGroup (ih bounded)

/-! ## 3. The characters of canonical spellings -/

/-- Small letters, digits and square brackets. -/
def isSpellingChar (c : Char) : Bool :=
  c.isLower || c.isDigit || c == '[' || c == ']'

theorem isSpellingChar_repr {n : Nat} {c : Char} (member : c ∈ (Nat.repr n).toList) :
    isSpellingChar c = true := by
  rw [Nat.toList_repr] at member
  simp [isSpellingChar, (Text.isNumeral_toDigits n).digit c member]

theorem WireKind.isSpellingChar_canonical {kind : WireKind} {c : Char}
    (member : c ∈ kind.canonical.toList) : isSpellingChar c = true := by
  have leads : ∀ lead ∈ ["uint", "int", "bytes", "bool", "address", "string"],
      lead.toList.all isSpellingChar = true := by decide
  have letters := fun lead listed => List.all_eq_true.mp (leads lead listed)
  cases kind with
  | bool => exact letters "bool" (by decide) c member
  | address => exact letters "address" (by decide) c member
  | bytes => exact letters "bytes" (by decide) c member
  | string => exact letters "string" (by decide) c member
  | uint bits =>
    rw [WireKind.canonical, String.toList_append, List.mem_append] at member
    exact member.elim (letters "uint" (by decide) c) isSpellingChar_repr
  | int bits =>
    rw [WireKind.canonical, String.toList_append, List.mem_append] at member
    exact member.elim (letters "int" (by decide) c) isSpellingChar_repr
  | fixedBytes count =>
    rw [WireKind.canonical, String.toList_append, List.mem_append] at member
    exact member.elim (letters "bytes" (by decide) c) isSpellingChar_repr

theorem WireType.isSpellingChar_canonical {type : WireType} {c : Char}
    (member : c ∈ type.canonical.toList) : isSpellingChar c = true := by
  have groups : ∀ group ∈ ["[", "]", "[]"], group.toList.all isSpellingChar = true := by decide
  have brackets := fun group listed => List.all_eq_true.mp (groups group listed)
  induction type with
  | primitive kind => exact WireKind.isSpellingChar_canonical member
  | fixedArray element length ih =>
    simp only [WireType.canonical, String.toList_append, List.mem_append] at member
    rcases member with ((inside | opening) | digit) | closing
    · exact ih inside
    · exact brackets "[" (by decide) c opening
    · exact isSpellingChar_repr digit
    · exact brackets "]" (by decide) c closing
  | dynamicArray element ih =>
    rw [WireType.canonical, String.toList_append, List.mem_append] at member
    exact member.elim ih (brackets "[]" (by decide) c)

theorem WireType.not_mem_canonical {type : WireType} {c : Char}
    (foreign : isSpellingChar c = false) : c ∉ type.canonical.toList := by
  intro member
  rw [WireType.isSpellingChar_canonical member] at foreign
  cases foreign

theorem isBlank_of_isSpellingChar {c : Char} (spells : isSpellingChar c = true) :
    Text.isBlank c = false := by
  simp only [isSpellingChar, Bool.or_eq_true, Text.isLower_iff, Text.isDigit_iff,
    beq_iff_eq] at spells
  rcases spells with ((letter | digit) | rfl) | rfl
  · exact Text.isBlank_of_printable (by omega) (by omega)
  · exact Text.isBlank_of_printable (by omega) (by omega)
  · rfl
  · rfl

theorem WireType.canonical_ne_empty (type : WireType) : type.canonical ≠ "" := by
  cases type with
  | primitive kind => cases kind <;> simp [WireType.canonical, WireKind.canonical]
  | fixedArray element length => simp [WireType.canonical]
  | dynamicArray element => simp [WireType.canonical]

/-- The canonical spelling of a type that can be declared declares this type. -/
theorem resolve_canonical {type : WireType} (wellFormed : type.WellFormed) :
    BindingFault.resolve type.canonical = .ok type := by
  have spelled := typeSpelling_canonical wellFormed.1
  refine resolve_eq_ok_iff.mpr ⟨type.canonical.toList, [], ?_, .inl rfl, spelled, ?_⟩
  · refine Text.words_eq_iff.mp (Text.words_eq_singleton ?_ ?_)
    · simpa using type.canonical_ne_empty
    · exact fun c member => isBlank_of_isSpellingChar (WireType.isSpellingChar_canonical member)
  · rw [spelled.count_groups]
    exact wellFormed.2

/-! ## 4. Resolving and spelling are inverse -/

/-- The words of a spelling with a qualifier behind a blank. -/
theorem words_qualified (type : WireType) {qualifier : String}
    (known : qualifier ∈ storageQualifiers) :
    Text.words (type.canonical ++ " " ++ qualifier).toList =
      [type.canonical.toList, qualifier.toList] := by
  have solidType : ∀ c ∈ type.canonical.toList, Text.isBlank c = false :=
    fun c member => isBlank_of_isSpellingChar (WireType.isSpellingChar_canonical member)
  -- Deciding a statement about all characters of a word would try every character there is.
  have qualifiers : ∀ word ∈ storageQualifiers,
      word ≠ "" ∧ word.toList.all (fun c => !Text.isBlank c) = true := by decide
  obtain ⟨nonempty, solid⟩ := qualifiers qualifier known
  have solidQualifier : ∀ c ∈ qualifier.toList, Text.isBlank c = false :=
    fun c member => by simpa using List.all_eq_true.mp solid c member
  rw [String.toList_append, String.toList_append, List.append_assoc,
    Text.words_append (by simpa using type.canonical_ne_empty) solidType]
  · exact congrArg _ (Text.words_eq_singleton (by simpa using nonempty) solidQualifier)
  · rintro c ⟨⟩
    rfl

/-- A storage qualifier behind a canonical spelling changes nothing. -/
theorem resolve_qualified {type : WireType} (wellFormed : type.WellFormed) {qualifier : String}
    (known : qualifier ∈ storageQualifiers) :
    BindingFault.resolve (type.canonical ++ " " ++ qualifier) = .ok type := by
  have spelled := typeSpelling_canonical wellFormed.1
  refine resolve_eq_ok_iff.mpr ⟨type.canonical.toList, [qualifier.toList], ?_,
    .inr ⟨qualifier, known, rfl⟩, spelled, ?_⟩
  · exact Text.words_eq_iff.mp (words_qualified type known)
  · rw [spelled.count_groups]
    exact wellFormed.2

/-- The well-formed types are those that can be declared. -/
theorem wellFormed_iff_exists_resolve {type : WireType} :
    type.WellFormed ↔ ∃ declared, BindingFault.resolve declared = .ok type :=
  ⟨fun wellFormed => ⟨type.canonical, resolve_canonical wellFormed⟩,
    fun ⟨_, resolved⟩ => wellFormed_of_resolve resolved⟩

/-- Resolving undoes canonical spelling. A well-formed type is what its canonical
spelling declares, also with a storage qualifier behind it. Only well-formed types
are ever declared, so the spelling of a declared type declares the same type, and
is its own canonical spelling. -/
theorem resolve_inverts_canonical :
    (∀ type : WireType, type.WellFormed ↔
      ∃ declared, BindingFault.resolve declared = .ok type) ∧
    (∀ type : WireType, type.WellFormed →
      BindingFault.resolve type.canonical = .ok type ∧
      ∀ qualifier ∈ storageQualifiers,
        BindingFault.resolve (type.canonical ++ " " ++ qualifier) = .ok type) ∧
    ∀ declared type, BindingFault.resolve declared = .ok type →
      BindingFault.resolve type.canonical = .ok type ∧
      (BindingFault.resolve type.canonical).map WireType.canonical = .ok type.canonical := by
  refine ⟨fun type => wellFormed_iff_exists_resolve, fun type wellFormed => ?_,
    fun declared type resolved => ?_⟩
  · exact ⟨resolve_canonical wellFormed, fun qualifier known => resolve_qualified wellFormed known⟩
  · have again := resolve_canonical (wellFormed_of_resolve resolved)
    exact ⟨again, congrArg (Except.map WireType.canonical) again⟩

/-- A type with as many array levels as there can be, and the longest array in the
middle of them, is declared by its spelling with a qualifier. -/
theorem resolve_inverts_canonical_deepest :
    ∃ type : WireType, type.WellFormed ∧ type.depth = maxArrayDepth ∧
      BindingFault.resolve (type.canonical ++ " " ++ "calldata") = .ok type := by
  let type := Nat.repeat WireType.dynamicArray 32
    (.fixedArray (Nat.repeat WireType.dynamicArray 31 (.primitive (.fixedBytes 32)))
      maxArrayLength)
  have wellFormed : type.WellFormed :=
    ⟨⟨⟨by decide, by decide⟩, by decide, by decide⟩, by decide⟩
  obtain ⟨_, spelled, _⟩ := resolve_inverts_canonical
  exact ⟨type, wellFormed, by decide, (spelled type wellFormed).2 "calldata" (by decide)⟩

end ContractBinder.Abi
