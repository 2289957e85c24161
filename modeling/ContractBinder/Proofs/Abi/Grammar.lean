import ContractBinder.Fault
import ContractBinder.Proofs.Outcome
import ContractBinder.Proofs.Text.Decimal
import ContractBinder.Proofs.Text.Splitting

/-!
# The grammar of declared types

A grammar that says which texts declare which types, without saying how a text
is read: a base, a bracket group for each array from the innermost to the
outermost, and perhaps a storage qualifier. Reading accepts exactly the texts
of the grammar and gives the types that they denote (`resolve_iff_declares`).

The reader takes a text apart from its end, one group at a time, so the proofs
follow the grammar's derivations from the outermost array inwards.
-/

namespace ContractBinder.Abi

/-! ## 1. The grammar -/

/-- `KindSpelling base kind`: the base names the elementary kind. Numbers have
no needless zero in front, as `Nat.repr` writes them. -/
inductive KindSpelling : List Char → WireKind → Prop
  | bool : KindSpelling "bool".toList .bool
  | address : KindSpelling "address".toList .address
  | string : KindSpelling "string".toList .string
  | bytes : KindSpelling "bytes".toList .bytes
  | bareUint : KindSpelling "uint".toList (.uint 256)
  | bareInt : KindSpelling "int".toList (.int 256)
  | uint {bits : Nat} : bits % 8 = 0 → 8 ≤ bits → bits ≤ 256 →
      KindSpelling ("uint".toList ++ (Nat.repr bits).toList) (.uint bits)
  | int {bits : Nat} : bits % 8 = 0 → 8 ≤ bits → bits ≤ 256 →
      KindSpelling ("int".toList ++ (Nat.repr bits).toList) (.int bits)
  | fixedBytes {count : Nat} : 1 ≤ count → count ≤ 32 →
      KindSpelling ("bytes".toList ++ (Nat.repr count).toList) (.fixedBytes count)

/-- `TypeSpelling text type`: the text is a base with bracket groups behind it.
Each group makes an array of what stands in front of it, so the first group
belongs to the innermost array and the last one to the outermost. -/
inductive TypeSpelling : List Char → WireType → Prop
  | base {text : List Char} {kind : WireKind} :
      KindSpelling text kind → TypeSpelling text (.primitive kind)
  | dynamicGroup {text : List Char} {element : WireType} :
      TypeSpelling text element → TypeSpelling (text ++ ['[', ']']) (.dynamicArray element)
  | fixedGroup {text : List Char} {element : WireType} {length : Nat} :
      TypeSpelling text element → 1 ≤ length → length ≤ maxArrayLength →
      TypeSpelling (text ++ '[' :: (Nat.repr length).toList ++ [']']) (.fixedArray element length)

/-- `Declares declared type`: the words of the declared text are a spelling of
the type, with at most as many groups as a type may have, and perhaps a storage
qualifier behind it. -/
def Declares (declared : String) (type : WireType) : Prop :=
  ∃ text qualifiers, Text.WordsOf declared.toList (text :: qualifiers) ∧
    (qualifiers = [] ∨ ∃ qualifier ∈ storageQualifiers, qualifiers = [qualifier.toList]) ∧
    TypeSpelling text type ∧ text.count '[' ≤ maxArrayDepth

/-! ## 2. Numbers -/

theorem decimal?_eq_some_iff {digits : List Char} {value : Nat} :
    decimal? digits = some value ↔
      digits = (Nat.repr value).toList ∧ value ≤ maxArrayLength := by
  rw [Nat.toList_repr]
  constructor
  · intro h
    unfold decimal? at h
    split at h
    · next numeral =>
      simp only [Bool.and_eq_true, Bool.or_eq_true, decide_eq_true_eq, List.all_eq_true,
        Bool.not_eq_true', List.isEmpty_eq_false_iff] at numeral
      simp only at h
      split at h
      · next bounded =>
        cases h
        have plain : Text.IsNumeral digits := ⟨numeral.1.1, numeral.1.2, numeral.2⟩
        exact ⟨(Text.toDigits_decimalValue plain).symm, bounded⟩
      · cases h
    · cases h
  · rintro ⟨rfl, bounded⟩
    have numeral := Text.isNumeral_toDigits value
    unfold decimal?
    rw [if_pos]
    · simp [Text.decimalValue_toDigits, bounded]
    · simpa [numeral.start] using numeral.digit

theorem integerWidth_eq_ok_iff {digits : List Char} {bits : Nat} :
    integerWidth digits = .ok bits ↔
      digits = (Nat.repr bits).toList ∧ bits % 8 = 0 ∧ 8 ≤ bits ∧ bits ≤ 256 := by
  constructor
  · intro h
    unfold integerWidth at h
    split at h
    · next value found =>
      split at h
      · next fits =>
        cases h
        simp only [Bool.and_eq_true, decide_eq_true_eq] at fits
        exact ⟨(decimal?_eq_some_iff.mp found).1, fits.2, fits.1.1, fits.1.2⟩
      · cases h
    · cases h
  · rintro ⟨spelled, whole, low, high⟩
    have found : decimal? digits = some bits :=
      decimal?_eq_some_iff.mpr ⟨spelled, Nat.le_trans high (by decide)⟩
    simp [integerWidth, found, whole, low, high]

theorem byteLength_eq_ok_iff {digits : List Char} {count : Nat} :
    byteLength digits = .ok count ↔
      digits = (Nat.repr count).toList ∧ 1 ≤ count ∧ count ≤ 32 := by
  constructor
  · intro h
    unfold byteLength at h
    split at h
    · next value found =>
      split at h
      · next fits =>
        cases h
        simp only [Bool.and_eq_true, decide_eq_true_eq] at fits
        exact ⟨(decimal?_eq_some_iff.mp found).1, fits.1, fits.2⟩
      · cases h
    · cases h
  · rintro ⟨spelled, low, high⟩
    have found : decimal? digits = some count :=
      decimal?_eq_some_iff.mpr ⟨spelled, Nat.le_trans high (by decide)⟩
    simp [byteLength, found, low, high]

/-! ## 3. Bases -/

theorem stripLead?_eq_some_iff {lead : String} {text rest : List Char} :
    stripLead? lead text = some rest ↔ text = lead.toList ++ rest := by
  unfold stripLead?
  constructor
  · intro h
    split at h
    · next isLead =>
      cases h
      obtain ⟨tail, rfl⟩ := List.isPrefixOf_iff_prefix.mp isLead
      simp [← String.length_toList]
    · cases h
  · rintro rfl
    simp [← String.length_toList]

theorem repr_ne_nil (n : Nat) : (Nat.repr n).toList ≠ [] := by
  rw [Nat.toList_repr]
  exact Nat.toDigits_ne_nil

theorem stripLead?_append (lead : String) (rest : List Char) :
    stripLead? lead (lead.toList ++ rest) = some rest :=
  stripLead?_eq_some_iff.mpr rfl

theorem readKind_sound {base : List Char} {kind : WireKind} (h : readKind base = .ok kind) :
    KindSpelling base kind := by
  unfold readKind at h
  split at h
  · next word => cases h; subst word; exact .bool
  split at h
  · next word => cases h; subst word; exact .address
  split at h
  · next word => cases h; subst word; exact .string
  split at h
  · next word => cases h; subst word; exact .bytes
  split at h
  · next word => cases h; subst word; exact .bareUint
  split at h
  · next word => cases h; subst word; exact .bareInt
  split at h
  · next digits lead =>
    obtain ⟨bits, width, rfl⟩ := Outcome.map_eq_ok_iff.mp h
    obtain ⟨rfl, whole, low, high⟩ := integerWidth_eq_ok_iff.mp width
    rw [stripLead?_eq_some_iff.mp lead]
    exact .uint whole low high
  split at h
  · next digits lead =>
    obtain ⟨bits, width, rfl⟩ := Outcome.map_eq_ok_iff.mp h
    obtain ⟨rfl, whole, low, high⟩ := integerWidth_eq_ok_iff.mp width
    rw [stripLead?_eq_some_iff.mp lead]
    exact .int whole low high
  split at h
  · next digits lead =>
    obtain ⟨count, length, rfl⟩ := Outcome.map_eq_ok_iff.mp h
    obtain ⟨rfl, low, high⟩ := byteLength_eq_ok_iff.mp length
    rw [stripLead?_eq_some_iff.mp lead]
    exact .fixedBytes low high
  · cases h

theorem readKind_complete {base : List Char} {kind : WireKind} (h : KindSpelling base kind) :
    readKind base = .ok kind := by
  cases h with
  | bool | address | string | bytes | bareUint | bareInt => rfl
  | @uint bits whole low high =>
    have lead := stripLead?_append "uint" (Nat.repr bits).toList
    have width := integerWidth_eq_ok_iff.mpr ⟨rfl, whole, low, high⟩
    have nonempty := repr_ne_nil bits
    simp_all [readKind, Except.map]
  | @int bits whole low high =>
    -- The leads are tried in order, so the ones before this must not fit.
    have other : stripLead? "uint" ("int".toList ++ (Nat.repr bits).toList) = none := rfl
    have lead := stripLead?_append "int" (Nat.repr bits).toList
    have width := integerWidth_eq_ok_iff.mpr ⟨rfl, whole, low, high⟩
    have nonempty := repr_ne_nil bits
    simp_all [readKind, Except.map]
  | @fixedBytes count low high =>
    have otherUint : stripLead? "uint" ("bytes".toList ++ (Nat.repr count).toList) = none := rfl
    have otherInt : stripLead? "int" ("bytes".toList ++ (Nat.repr count).toList) = none := rfl
    have lead := stripLead?_append "bytes" (Nat.repr count).toList
    have length := byteLength_eq_ok_iff.mpr ⟨rfl, low, high⟩
    have nonempty := repr_ne_nil count
    simp_all [readKind, Except.map]

/-! ## 4. Groups -/

theorem lastGroup?_append {dimension : List Char} (clean : '[' ∉ dimension) (before : List Char) :
    lastGroup? (before ++ '[' :: dimension).reverse = some (before, dimension) := by
  have backwards : (before ++ '[' :: dimension).reverse =
      dimension.reverse ++ '[' :: before.reverse := by simp
  have cleanBack : '[' ∉ dimension.reverse := by simpa using clean
  rw [lastGroup?, backwards, Text.dropWhile_ne_append cleanBack,
    Text.takeWhile_ne_append cleanBack]
  simp

theorem eq_of_lastGroup? {backwards before dimension : List Char}
    (h : lastGroup? backwards = some (before, dimension)) :
    backwards.reverse = before ++ '[' :: dimension := by
  unfold lastGroup? at h
  split at h
  · cases h
  · next bracket rest found =>
    cases h
    have isBracket : bracket = '[' := by
      have first := List.head?_dropWhile_not (· != '[') backwards
      simpa [found] using first
    subst isBracket
    have whole := List.takeWhile_append_dropWhile (p := (· != '[')) (l := backwards)
    rw [found] at whole
    rw [← congrArg List.reverse whole]
    simp

theorem arrayOf_eq_ok_iff {element type : WireType} {dimension : List Char} :
    arrayOf element dimension = .ok type ↔
      (dimension = [] ∧ type = .dynamicArray element) ∨
      ∃ length, dimension = (Nat.repr length).toList ∧ 1 ≤ length ∧ length ≤ maxArrayLength ∧
        type = .fixedArray element length := by
  constructor
  · intro h
    unfold arrayOf at h
    split at h
    · next nothing =>
      cases h
      exact .inl ⟨List.isEmpty_iff.mp nothing, rfl⟩
    split at h
    · next length found =>
      split at h
      · next positive =>
        cases h
        obtain ⟨spelled, bounded⟩ := decimal?_eq_some_iff.mp found
        exact .inr ⟨length, spelled, positive, bounded, rfl⟩
      · cases h
    · cases h
  · rintro (⟨rfl, rfl⟩ | ⟨length, rfl, positive, bounded, rfl⟩)
    · rfl
    · have nonempty : (Nat.repr length).toList.isEmpty = false :=
        List.isEmpty_eq_false_iff.mpr (repr_ne_nil length)
      have found := decimal?_eq_some_iff.mpr ⟨rfl, bounded⟩
      unfold arrayOf
      rw [nonempty, found]
      exact if_pos positive

theorem readType_base {text : List Char} (noGroup : ∀ backwards, text.reverse ≠ ']' :: backwards)
    (outer : Nat) : readType outer text = (readKind text).map .primitive := by
  rw [readType]
  split
  · next backwards reversed => exact absurd reversed (noGroup backwards)
  · rfl

theorem readType_group {outer : Nat} {text backwards before dimension : List Char}
    (reversed : text.reverse = ']' :: backwards) (room : outer ≠ maxArrayDepth)
    (group : lastGroup? backwards = some (before, dimension)) :
    readType outer text = (do
      let element ← readType (outer + 1) before
      arrayOf element dimension) := by
  rw [readType]
  split
  · next backwards' reversed' =>
    cases reversed.symm.trans reversed'
    rw [if_neg room]
    split
    · next missing => cases missing.symm.trans group
    · next before' dimension' group' =>
      cases group'.symm.trans group
      rfl
  · next noGroup => exact absurd reversed (noGroup backwards)

theorem readType_sound {outer : Nat} {text : List Char} {type : WireType}
    (fits : outer ≤ maxArrayDepth) (h : readType outer text = .ok type) :
    TypeSpelling text type ∧ outer + type.depth ≤ maxArrayDepth := by
  -- The cases are those of the reader; `outer` counts the groups that it has taken off.
  induction outer, text using readType.induct generalizing type with
  | case1 text backwards reversed =>
    rw [readType] at h
    split at h
    · simp at h
    · next noGroup => exact absurd reversed (noGroup backwards)
  | case2 outer text backwards reversed room group =>
    rw [readType] at h
    split at h
    · next backwards' reversed' =>
      cases reversed.symm.trans reversed'
      rw [if_neg room] at h
      split at h
      · cases h
      · next group' => cases group'.symm.trans group
    · next noGroup => exact absurd reversed (noGroup backwards)
  | case3 outer text backwards reversed room before dimension group ih =>
    rw [readType_group reversed room group] at h
    obtain ⟨element, inner, made⟩ := Outcome.bind_eq_ok_iff.mp h
    obtain ⟨spelled, deep⟩ := ih (by omega) inner
    have whole : text = before ++ '[' :: dimension ++ [']'] := by
      have forwards := congrArg List.reverse reversed
      simpa [eq_of_lastGroup? group] using forwards
    subst whole
    rcases arrayOf_eq_ok_iff.mp made with ⟨rfl, rfl⟩ | ⟨length, rfl, positive, bounded, rfl⟩
    · refine ⟨?_, by simp only [WireType.depth]; omega⟩
      simpa using TypeSpelling.dynamicGroup spelled
    · exact ⟨.fixedGroup spelled positive bounded, by simp only [WireType.depth]; omega⟩
  | case4 outer text noGroup =>
    rw [readType_base noGroup] at h
    obtain ⟨kind, read, rfl⟩ := Outcome.map_eq_ok_iff.mp h
    exact ⟨.base (readKind_sound read), by simpa [WireType.depth] using fits⟩

theorem not_mem_repr {c : Char} (h : c.isDigit = false) (n : Nat) :
    c ∉ (Nat.repr n).toList := by
  intro present
  rw [Nat.toList_repr] at present
  rw [(Text.isNumeral_toDigits n).digit c present] at h
  cases h

theorem KindSpelling.not_mem {base : List Char} {kind : WireKind} (h : KindSpelling base kind) :
    '[' ∉ base ∧ ']' ∉ base := by
  cases h with
  | bool | address | string | bytes | bareUint | bareInt => decide
  | uint | int | fixedBytes =>
    have clean := fun n => And.intro (not_mem_repr (c := '[') rfl n) (not_mem_repr (c := ']') rfl n)
    simp [-Nat.toList_repr, clean]

/-- A spelling has one group for each array level. -/
theorem TypeSpelling.count_groups {text : List Char} {type : WireType}
    (h : TypeSpelling text type) : text.count '[' = type.depth := by
  induction h with
  | base spelled => exact List.count_eq_zero.mpr spelled.not_mem.1
  | dynamicGroup _ ih =>
    rw [List.count_append, ih]
    rfl
  | @fixedGroup _ _ length _ _ _ ih =>
    have clean := List.count_eq_zero.mpr (not_mem_repr (c := '[') rfl length)
    rw [List.append_assoc, List.cons_append, List.count_append, ih, List.count_cons_self,
      List.count_append, clean]
    rfl

theorem readType_complete {text : List Char} {type : WireType} (h : TypeSpelling text type)
    {outer : Nat} (fits : outer + type.depth ≤ maxArrayDepth) :
    readType outer text = .ok type := by
  -- A group less in the spelling is a level more around it, so the sum stays within bounds.
  induction h generalizing outer with
  | base spelled =>
    rw [readType_base, readKind_complete spelled]
    · rfl
    · intro backwards reversed
      exact spelled.not_mem.2 (List.mem_reverse.mp (reversed ▸ List.mem_cons_self))
  | @dynamicGroup text element spelled ih =>
    simp only [WireType.depth] at fits
    have reversed : (text ++ ['[', ']']).reverse = ']' :: '[' :: text.reverse := by simp
    have group : lastGroup? ('[' :: text.reverse) = some (text, []) := by
      simpa using lastGroup?_append List.not_mem_nil text
    rw [readType_group reversed (by omega) group, ih (by omega)]
    rfl
  | @fixedGroup text element length spelled positive bounded ih =>
    simp only [WireType.depth] at fits
    have reversed : (text ++ '[' :: (Nat.repr length).toList ++ [']']).reverse =
        ']' :: (text ++ '[' :: (Nat.repr length).toList).reverse := by simp
    rw [readType_group reversed (by omega) (lastGroup?_append (not_mem_repr rfl length) text),
      ih (by omega)]
    exact arrayOf_eq_ok_iff.mpr (.inr ⟨length, rfl, positive, bounded, rfl⟩)

/-! ## 5. Declared types -/

namespace GrammarLemmas

theorem qualified_iff {qualifiers : List (List Char)} :
    (qualifiers = [] ∨ ∃ qualifier ∈ storageQualifiers, qualifiers = [qualifier.toList]) ↔
      qualifiers = [] ∨
        ∃ word, qualifiers = [word] ∧ storageQualifiers.contains (String.ofList word) = true := by
  constructor
  · rintro (none | ⟨qualifier, known, rfl⟩)
    · exact .inl none
    · exact .inr ⟨_, rfl, by simpa using known⟩
  · rintro (none | ⟨word, rfl, known⟩)
    · exact .inl none
    · exact .inr ⟨String.ofList word, by simpa using known, by simp⟩

theorem parse_eq_ok_iff_words {declared : String} {type : WireType} :
    WireType.parse declared = .ok type ↔
      ∃ text qualifiers, Text.words declared.toList = text :: qualifiers ∧
        (qualifiers = [] ∨
          ∃ word, qualifiers = [word] ∧ storageQualifiers.contains (String.ofList word) = true) ∧
        readType 0 text = .ok type := by
  unfold WireType.parse
  split
  · next none => simp [none]
  · next text one => simp [one]
  · next text qualifier two =>
    split
    · next known => simp_all
    · next unknown => simp_all
  · next none one two =>
    refine ⟨fun h => by simp at h, ?_⟩
    rintro ⟨text, qualifiers, found, rfl | ⟨word, rfl, _⟩, _⟩
    · exact absurd found (one text)
    · exact absurd found (two text word)

end GrammarLemmas

open GrammarLemmas

theorem parse_eq_ok_iff {declared : String} {type : WireType} :
    WireType.parse declared = .ok type ↔ Declares declared type := by
  rw [parse_eq_ok_iff_words]
  constructor
  · rintro ⟨text, qualifiers, found, qualified, read⟩
    obtain ⟨spelled, deep⟩ := readType_sound (Nat.zero_le _) read
    refine ⟨text, qualifiers, Text.words_eq_iff.mp found, qualified_iff.mpr qualified, spelled, ?_⟩
    rw [spelled.count_groups]
    omega
  · rintro ⟨text, qualifiers, found, qualified, spelled, deep⟩
    refine ⟨text, qualifiers, Text.words_eq_iff.mpr found, qualified_iff.mp qualified, ?_⟩
    rw [spelled.count_groups] at deep
    exact readType_complete spelled (by omega)

theorem resolve_eq_ok_iff {declared : String} {type : WireType} :
    BindingFault.resolve declared = .ok type ↔ Declares declared type :=
  Outcome.mapError_eq_ok_iff.trans parse_eq_ok_iff

/-- Resolving accepts exactly the grammar: it gives a type if and only if the
text declares this type, and a text that declares no type is refused with a
fault that names the text. -/
theorem resolve_iff_declares (declared : String) :
    (∀ type, BindingFault.resolve declared = .ok type ↔ Declares declared type) ∧
    ((∃ type, Declares declared type) ∨
      ∃ cause, BindingFault.resolve declared = .error (.invalidType declared cause)) := by
  refine ⟨fun type => resolve_eq_ok_iff, ?_⟩
  cases outcome : BindingFault.resolve declared with
  | ok type => exact .inl ⟨type, resolve_eq_ok_iff.mp outcome⟩
  | error fault =>
    obtain ⟨cause, _, rfl⟩ := Outcome.mapError_eq_error_iff.mp outcome
    exact .inr ⟨cause, rfl⟩

end ContractBinder.Abi
