import ContractBinder.Code.Trivia
import ContractBinder.Code.Identifier
import ContractBinder.Proofs.Text.Characters

/-!
# Identifiers

Identifiers that generated code can be given: plain ones that are not reserved.
Reserved words other than the lone underscore consist of letters, so a longer
name with an underscore or a digit in it is never reserved.
-/

namespace ContractBinder.Code

/-! ## 1. Characters of identifiers -/

theorem isIdentContinue_of_isIdentStart {c : Char} (start : isIdentStart c = true) :
    isIdentContinue c = true := by
  unfold isIdentStart Text.isNameStart at start
  unfold isIdentContinue Text.isNameContinue
  rcases Bool.or_eq_true .. ▸ start with underscore | name
  · rw [eq_of_beq underscore]
    rfl
  · split at name
    · next ascii => simp [ascii, Char.isAlphanum, name]
    · next other => simp [other, name]

/-- The code points of the characters that separate tokens. -/
def spacingRanges : Text.CodeRanges :=
  (0x200e, 0x200f) :: Text.blankRanges

theorem isSpacing_eq_false_of_contains {c : Char} (outside : spacingRanges.contains c = false) :
    isSpacing c = false := by
  simp only [spacingRanges, Text.CodeRanges.contains, List.any_cons,
    Bool.or_eq_false_iff] at outside
  have notLeft : c ≠ '\u200e' := by
    rintro rfl
    cases outside.1
  have notRight : c ≠ '\u200f' := by
    rintro rfl
    cases outside.1
  simp only [isSpacing, Bool.or_eq_false_iff, beq_eq_false_iff_ne]
  exact ⟨⟨outside.2, notLeft⟩, notRight⟩

theorem isSpacing_of_printable {c : Char} (low : 0x20 < c.toNat) (high : c.toNat < 0x7f) :
    isSpacing c = false := by
  have solid := Text.isBlank_of_printable low high
  have notLeft : c ≠ '\u200e' := by
    rintro rfl
    exact absurd high (by decide)
  have notRight : c ≠ '\u200f' := by
    rintro rfl
    exact absurd high (by decide)
  simp [isSpacing, solid, notLeft, notRight]

theorem isSpacing_of_isIdentContinue {c : Char} (continues : isIdentContinue c = true) :
    isSpacing c = false := by
  unfold isIdentContinue Text.isNameContinue at continues
  split at continues
  · rw [Bool.or_eq_true, Text.isAlphanum_iff, beq_iff_eq] at continues
    rcases continues with bounds | rfl
    · exact isSpacing_of_printable (by omega) (by omega)
    · rfl
  · -- The tables above ASCII are compared range by range, not character by character.
    have apart : (Text.nameStartRanges.apart spacingRanges &&
        Text.nameExtraRanges.apart spacingRanges) = true := by decide +kernel
    rw [Bool.and_eq_true] at apart
    rcases Bool.or_eq_true .. ▸ continues with start | extra
    · exact isSpacing_eq_false_of_contains (Text.contains_eq_false_of_apart apart.1 start)
    · exact isSpacing_eq_false_of_contains (Text.contains_eq_false_of_apart apart.2 extra)

/-! ## 2. Plain names -/

theorem isPlain_iff {name : String} :
    isPlain name = true ↔ ∃ c rest, name.toList = c :: rest ∧ isIdentStart c = true ∧
      ∀ d ∈ rest, isIdentContinue d = true := by
  unfold isPlain
  cases name.toList with
  | nil => simp
  | cons c rest =>
    rw [Bool.and_eq_true, List.all_eq_true]
    constructor
    · rintro ⟨start, others⟩
      exact ⟨c, rest, rfl, start, others⟩
    · rintro ⟨_, _, ⟨⟩, start, others⟩
      exact ⟨start, others⟩

theorem isIdentContinue_of_isPlain {name : String} (plain : isPlain name = true) {c : Char}
    (member : c ∈ name.toList) : isIdentContinue c = true := by
  obtain ⟨first, rest, spelled, start, continues⟩ := isPlain_iff.mp plain
  rw [spelled] at member
  rcases List.mem_cons.mp member with rfl | later
  · exact isIdentContinue_of_isIdentStart start
  · exact continues c later

theorem isPlain_append {name suffix : String} (plain : isPlain name = true)
    (continues : ∀ c ∈ suffix.toList, isIdentContinue c = true) :
    isPlain (name ++ suffix) = true := by
  obtain ⟨first, rest, spelled, start, others⟩ := isPlain_iff.mp plain
  refine isPlain_iff.mpr ⟨first, rest ++ suffix.toList, ?_, start, ?_⟩
  · rw [String.toList_append, spelled, List.cons_append]
  · intro c member
    exact (List.mem_append.mp member).elim (others c) (continues c)

/-! ## 3. Reserved words -/

/-- Characters that no reserved word other than the lone underscore has. -/
def isUnreservedChar (c : Char) : Bool :=
  c == '_' || c.isDigit

theorem isReserved_eq_false {name : String} {c : Char} (member : c ∈ name.toList)
    (unreserved : isUnreservedChar c = true) (longer : name ≠ "_") : isReserved name = false := by
  have letters : ∀ word ∈ reservedWords,
      word = "_" ∨ word.toList.any isUnreservedChar = false := by decide +kernel
  refine Bool.eq_false_iff.mpr fun reserved => ?_
  rcases letters name (List.contains_iff_mem.mp reserved) with lone | clean
  · exact longer lone
  · exact List.any_eq_false.mp clean c member unreserved

/-- A name that can stand for something in generated code. -/
structure IsIdentifier (name : String) : Prop where
  plain : isPlain name = true
  free : isReserved name = false

/-- A plain name with an underscore behind it, and perhaps more, is never reserved. -/
theorem IsIdentifier.of_append {name suffix : String} (plain : isPlain name = true)
    (continues : ∀ c ∈ suffix.toList, isIdentContinue c = true)
    (unreserved : ∃ c ∈ suffix.toList, isUnreservedChar c = true) :
    IsIdentifier (name ++ suffix) := by
  obtain ⟨c, member, test⟩ := unreserved
  refine ⟨isPlain_append plain continues, isReserved_eq_false (c := c) ?_ test ?_⟩
  · rw [String.toList_append]
    exact List.mem_append_right _ member
  · intro lone
    have short := congrArg (fun text => text.toList.length) lone
    obtain ⟨first, rest, spelled, _, _⟩ := isPlain_iff.mp plain
    have some := List.length_pos_of_mem member
    simp only [String.toList_append, List.length_append, spelled, List.length_cons] at short
    simp at short
    omega

end ContractBinder.Code
