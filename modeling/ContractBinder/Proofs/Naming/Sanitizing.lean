import ContractBinder.Proofs.Naming.Legality

/-!
# Sanitized names

Sanitizing has a normal form: legal names without blanks around them. Every result of
sanitizing is such a name, and every such name is kept at every position. So one pass is
enough, whatever the name was made of.

Results:

1. `sanitize_of_isLegal`: a legal name without blanks around it is kept.
2. `isLegal_sanitize`, `trim_sanitize`: what sanitizing gives is such a name.
3. `Sanitizes.isReserved`: when a repaired name is not legal, a keyword is left.
4. `sanitizing_once_is_enough`: what sanitizing keeps, what it makes of other names, and that
   a second pass changes nothing.
-/

namespace ContractBinder.Naming

open Code (IsIdentifier)

variable {name result : String} {text : List Char} {index : Nat}

/-! ## 1. Names that are kept -/

theorem Sanitizes.eq_of_isLegal (way : Sanitizes index text result)
    (legal : isLegal (String.ofList text) = true) : result = String.ofList text := by
  cases way with
  | kept _ => rfl
  | numbered illegal _ => cases illegal.symm.trans legal
  | repaired illegal _ _ => cases illegal.symm.trans legal
  | marked illegal _ _ _ => cases illegal.symm.trans legal

/-- A legal name without blanks around it is kept at every position. -/
theorem sanitize_of_isLegal (trimmed : Text.trim name.toList = name.toList)
    (legal : isLegal name = true) (index : Nat) : sanitize name index = name := by
  have way := sanitizes name index
  rw [trimmed] at way
  rw [← String.ofList_toList (s := name)] at legal
  exact (way.eq_of_isLegal legal).trans String.ofList_toList

/-! ## 2. Results of sanitizing -/

theorem isLegal_sanitize (name : String) (index : Nat) :
    isLegal (sanitize name index) = true := by
  rcases sanitize_cases name index with ⟨legal, kept⟩ | identifier
  · rw [kept]
    exact legal
  · exact isLegal_of_isIdentifier identifier

theorem trim_sanitize (name : String) (index : Nat) :
    Text.trim (sanitize name index).toList = (sanitize name index).toList := by
  rcases sanitize_cases name index with ⟨_, kept⟩ | identifier
  · rw [kept, String.toList_ofList, Text.trim_trim]
  · exact trim_of_solid (isBlank_of_isName (.inl identifier.plain))

/-- Exactly the names that are legal without the blanks around them are kept. -/
theorem sanitize_eq_trim_iff : sanitize name index = String.ofList (Text.trim name.toList) ↔
    isLegal (String.ofList (Text.trim name.toList)) = true := by
  constructor
  · intro kept
    rw [← kept]
    exact isLegal_sanitize name index
  · exact (sanitizes name index).eq_of_isLegal

/-! ## 3. Names that are not kept -/

theorem isWordChar_of_mem_positional {c : Char} (member : c ∈ (positional index).toList) :
    isWordChar c = true := by
  have lead : ∀ c ∈ "param".toList, isWordChar c = true := List.all_eq_true.mp (by decide)
  rw [positional, String.toList_append] at member
  exact (List.mem_append.mp member).elim (lead c) isWordChar_of_mem_repr

/-- What takes the place of a name has only ASCII letters, digits and underscores. -/
theorem Sanitizes.isWordChar (way : Sanitizes index text result)
    (illegal : isLegal (String.ofList text) = false) :
    ∀ c ∈ result.toList, isWordChar c = true := by
  intro c member
  cases way with
  | kept legal => cases illegal.symm.trans legal
  | numbered _ _ => exact isWordChar_of_mem_positional member
  | repaired _ _ _ =>
    rw [String.toList_ofList] at member
    exact isWordChar_of_mem_repair c member
  | marked _ _ _ _ =>
    rw [String.toList_append, String.toList_ofList] at member
    rcases List.mem_append.mp member with inner | underscore
    · exact isWordChar_of_mem_repair c inner
    · exact List.mem_singleton.mp underscore ▸ rfl

theorem isIdentifier_sanitize
    (illegal : isLegal (String.ofList (Text.trim name.toList)) = false) (index : Nat) :
    IsIdentifier (sanitize name index) := by
  rcases sanitize_cases name index with ⟨legal, _⟩ | identifier
  · cases illegal.symm.trans legal
  · exact identifier

/-- A name that is still not legal when it is repaired, but has more than underscores, is
reserved, and an underscore is put behind it. -/
theorem Sanitizes.isReserved (way : Sanitizes index text result)
    (illegal : isLegal (String.ofList text) = false) (more : ∃ c ∈ repair text, c ≠ '_')
    (still : isLegal (String.ofList (repair text)) = false) :
    Code.isReserved (String.ofList (repair text)) = true ∧
      result = String.ofList (repair text) ++ "_" := by
  cases way with
  | kept legal => cases illegal.symm.trans legal
  | numbered _ underscores =>
    obtain ⟨c, member, other⟩ := more
    exact absurd (underscores c member) other
  | repaired _ _ identifier => cases still.symm.trans (isLegal_of_isIdentifier identifier)
  | marked _ _ _ reserved => exact ⟨reserved, rfl⟩

/-- Whatever a name is made of, sanitizing ends in a legal name, and sanitizing this again, at
any position, changes nothing. The trimmed name is kept exactly if it is legal. Otherwise an
identifier of ASCII letters, digits and underscores takes its place. Only keywords are left
when a repaired name has more than underscores and is not legal; these get one behind them. -/
theorem sanitizing_once_is_enough (name : String) (index : Nat) :
    isLegal (sanitize name index) = true ∧
    (sanitize name index = String.ofList (Text.trim name.toList) ↔
      isLegal (String.ofList (Text.trim name.toList)) = true) ∧
    (isLegal (String.ofList (Text.trim name.toList)) = false →
      (∀ c ∈ (sanitize name index).toList, isWordChar c = true) ∧
        IsIdentifier (sanitize name index)) ∧
    (isLegal (String.ofList (Text.trim name.toList)) = false →
      (∃ c ∈ repair (Text.trim name.toList), c ≠ '_') →
      isLegal (String.ofList (repair (Text.trim name.toList))) = false →
      Code.isReserved (String.ofList (repair (Text.trim name.toList))) = true ∧
        sanitize name index = String.ofList (repair (Text.trim name.toList)) ++ "_") ∧
    ∀ again, sanitize (sanitize name index) again = sanitize name index := by
  have way := sanitizes name index
  refine ⟨isLegal_sanitize name index, sanitize_eq_trim_iff, fun illegal => ?_,
    way.isReserved, fun again => ?_⟩
  · exact ⟨way.isWordChar illegal, isIdentifier_sanitize illegal index⟩
  · exact sanitize_of_isLegal (trim_sanitize name index) (isLegal_sanitize name index) again

theorem sanitizing_once_is_enough_keyword :
    isLegal "type" = false ∧ IsIdentifier (sanitize " type " 0) ∧
      sanitize " type " 0 = "type_" ∧ sanitize (sanitize " type " 0) 7 = "type_" := by
  have trimmed : Text.trim " type ".toList = "type".toList := by decide +kernel
  have repaired : repair "type".toList = "type".toList := by decide
  have reserved : Code.isReserved "type" = true := by decide
  have illegal : isLegal "type" = false := by
    have legality : isLegal (String.ofList (repair "type".toList)) = _ :=
      isLegal_repair (by decide)
    rw [repaired, String.ofList_toList, reserved] at legality
    exact legality
  obtain ⟨_, _, others, keywords, stays⟩ := sanitizing_once_is_enough " type " 0
  rw [trimmed, String.ofList_toList] at others
  rw [trimmed, repaired, String.ofList_toList] at keywords
  have marked := (keywords illegal ⟨'t', by decide, by decide⟩ illegal).2
  exact ⟨illegal, (others illegal).2, marked, (stays 7).trans marked⟩

end ContractBinder.Naming
