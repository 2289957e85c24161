import ContractBinder.Proofs.Code.Trivia
import ContractBinder.Proofs.Naming.Marks
import Mathlib.Data.List.DropRight

/-!
# Legal names

A name is legal if it reads as one identifier. What a reader of code skips around the
identifier is not held against the name, and a name that is kept is kept with it.

Results:

1. `isLegal_iff_skips`: a name is legal exactly if an identifier stands in it that is not
   reserved, and everything around this identifier is skipped.
2. `legal_names_hide_comments_and_marks`: only comments, marks of direction and the mark of the
   byte order can make something legal that is no identifier. A trimmed name without them is
   legal exactly if it is one, and sanitizing a name without them gives one.
3. `legal_name_with_comment`: a name that is trimmed and legal, but no identifier.
-/

namespace ContractBinder

namespace Text

/-! ## 1. Trimming -/

theorem trim_trim (text : List Char) : trim (trim text) = trim text := by
  have front : (trim text).dropWhile isBlank = trim text := by
    have first := List.head?_dropWhile_not isBlank text
    obtain ⟨behind, whole⟩ : trim text <+: text.dropWhile isBlank :=
      List.rdropWhile_prefix isBlank _
    cases spelled : trim text with
    | nil => rfl
    | cons c rest =>
      rw [← whole, spelled] at first
      exact List.dropWhile_cons_of_neg (Bool.not_eq_true _ ▸ first)
  have back : (trim text).rdropWhile isBlank = trim text := List.rdropWhile_idempotent isBlank _
  conv_lhs => rw [trim, front]
  exact back

end Text

namespace Naming

open Code (IsIdentifier IsName Skips isReserved)

/-! ## 2. What is skipped around a legal name -/

theorem isLegal_iff_skips {name : String} :
    isLegal name = true ↔ Code.startsWith name.toList "r#" = false ∧
      ∃ sole after, IsName sole ∧ isReserved sole = false ∧
        Skips (Code.dropByteOrderMark name.toList) (sole.toList ++ after) ∧ Skips after [] := by
  simp only [isLegal, Bool.and_eq_true, Bool.not_eq_eq_eq_not, Bool.not_true]
  refine and_congr_right fun _ => ⟨fun kept => ?_, ?_⟩
  · split at kept
    · next sole found =>
      obtain ⟨isName, after, before, behind⟩ := Code.soleName?_eq_some_iff.mp found
      exact ⟨sole, after, isName, by simpa using kept, before, behind⟩
    · cases kept
  · rintro ⟨sole, after, isName, free, before, behind⟩
    rw [Code.soleName?_eq_some_iff.mpr ⟨isName, after, before, behind⟩]
    simp [free]

/-- An identifier is legal, as nothing has to be skipped around it. -/
theorem isLegal_of_isIdentifier {name : String} (identifier : IsIdentifier name) :
    isLegal name = true := by
  have continues : ∀ c ∈ name.toList, Code.isIdentContinue c = true :=
    fun _ => Code.isIdentContinue_of_isPlain identifier.plain
  have notRaw : Code.startsWith name.toList "r#" = false := Bool.eq_false_iff.mpr fun raw =>
    nomatch continues '#' (Code.mem_of_startsWith raw (by decide))
  have noMark : Code.dropByteOrderMark name.toList = name.toList := by
    obtain ⟨c, others, spelled, _⟩ := Code.isPlain_iff.mp identifier.plain
    rw [spelled] at continues ⊢
    refine Code.dropByteOrderMark_cons ?_
    rintro rfl
    have continues := continues '\ufeff' List.mem_cons_self
    revert continues
    decide +kernel
  refine isLegal_iff_skips.mpr ⟨notRaw, name, [], .inl identifier.plain, identifier.free, ?_, ?_⟩
  · rw [noMark, List.append_nil]
    exact .done _
  · exact .done _

/-! ## 3. Names in which only blanks are skipped -/

/-- The characters behind which something can be hidden around a name: those at which comments
start, the marks of direction and the mark of the byte order. -/
def hidingChars : List Char :=
  ['/', '\u200e', '\u200f', '\ufeff']

/-- A text that has none of these characters. -/
def HidesNothing (text : List Char) : Prop :=
  ∀ c ∈ text, c ∉ hidingChars

instance (text : List Char) : Decidable (HidesNothing text) :=
  decidable_of_iff (text.all (!hidingChars.contains ·) = true) (by simp [HidesNothing])

theorem HidesNothing.of_sublist {text part : List Char} (plain : HidesNothing text)
    (smaller : part.Sublist text) : HidesNothing part :=
  fun c member => plain c (smaller.subset member)

theorem HidesNothing.exists_blanks {text rest : List Char} (plain : HidesNothing text)
    (skips : Skips text rest) :
    ∃ before, text = before ++ rest ∧ ∀ c ∈ before, Text.isBlank c = true := by
  have absent : ∀ c ∈ hidingChars, c ∉ text := fun c listed member => plain c member listed
  obtain ⟨before, rfl, separates⟩ := skips.exists_spacing (absent _ (by decide))
  refine ⟨before, rfl, fun c member => ?_⟩
  have space := separates c member
  have noMark : c ≠ '\u200e' ∧ c ≠ '\u200f' := by
    constructor
    · rintro rfl
      exact absent _ (by decide) (List.mem_append_left _ member)
    · rintro rfl
      exact absent _ (by decide) (List.mem_append_left _ member)
  simpa [Code.isSpacing, noMark.1, noMark.2] using space

theorem HidesNothing.dropByteOrderMark {text : List Char} (plain : HidesNothing text) :
    Code.dropByteOrderMark text = text := by
  cases text with
  | nil => rfl
  | cons c rest =>
    refine Code.dropByteOrderMark_cons ?_
    rintro rfl
    exact plain _ List.mem_cons_self (by decide)

theorem isBlank_of_isName {name : String} (isName : IsName name) :
    ∀ c ∈ name.toList, Text.isBlank c = false := by
  have solid {c : Char} (apart : Code.isSpacing c = false) : Text.isBlank c = false := by
    simp only [Code.isSpacing, Bool.or_eq_false_iff] at apart
    exact apart.1.1
  have continues {c : Char} {plain : String} (isPlain : Code.isPlain plain = true)
      (member : c ∈ plain.toList) : Text.isBlank c = false :=
    solid (Code.isSpacing_of_isIdentContinue (Code.isIdentContinue_of_isPlain isPlain member))
  intro c member
  rcases isName with isPlain | ⟨base, rfl, isPlain, _⟩
  · exact continues isPlain member
  · rw [String.toList_append] at member
    rcases List.mem_append.mp member with raw | inner
    · have marks : "r#".toList.all (fun c => !Text.isBlank c) = true := by decide
      simpa using List.all_eq_true.mp marks c raw
    · exact continues isPlain inner

/-- A legal name in which nothing is hidden is an identifier with blanks around it. -/
theorem isIdentifier_of_isLegal {name : String} (trimmed : Text.trim name.toList = name.toList)
    (plain : HidesNothing name.toList) (legal : isLegal name = true) : IsIdentifier name := by
  obtain ⟨notRaw, sole, after, isName, free, before, behind⟩ := isLegal_iff_skips.mp legal
  rw [plain.dropByteOrderMark] at before
  obtain ⟨front, whole, frontBlank⟩ := plain.exists_blanks before
  have plainAfter : HidesNothing after := by
    refine plain.of_sublist ?_
    rw [whole, ← List.append_assoc]
    exact List.sublist_append_right _ _
  obtain ⟨back, rfl, backBlank⟩ := plainAfter.exists_blanks behind
  have same : name = sole := by
    obtain ⟨c, others, spelled, _⟩ := isName.head
    have some : sole.toList ≠ [] := by simp [spelled]
    have alone := Text.trim_around front (back ++ []) some (isBlank_of_isName isName)
    have noFront := List.dropWhile_eq_nil_iff.mpr frontBlank
    have noBack : (back ++ []).reverse.dropWhile Text.isBlank = [] := by
      simpa using backBlank
    rw [← whole, trimmed, noFront, noBack, List.nil_append, List.reverse_nil,
      List.append_nil] at alone
    exact String.toList_inj.mp alone
  subst same
  rcases isName with isPlain | ⟨base, rfl, _⟩
  · exact ⟨isPlain, free⟩
  · rw [String.toList_append] at notRaw
    exact absurd (List.isPrefixOf_iff_prefix.mpr (List.prefix_append _ _))
      (Bool.eq_false_iff.mp notRaw)

/-- A name is legal exactly if it reads as one identifier that is not reserved, all around
which is skipped, and no identifier is repaired. Only comments, marks of direction and the mark
of the byte order are skipped around names that are trimmed: without these characters exactly
the identifiers are legal, and sanitizing gives identifiers. -/
theorem legal_names_hide_comments_and_marks (name : String) :
    (isLegal name = true ↔ Code.startsWith name.toList "r#" = false ∧
      ∃ sole after, IsName sole ∧ isReserved sole = false ∧
        Skips (Code.dropByteOrderMark name.toList) (sole.toList ++ after) ∧ Skips after []) ∧
    (IsIdentifier name → isLegal name = true) ∧
    (Text.trim name.toList = name.toList → HidesNothing name.toList →
      (isLegal name = true ↔ IsIdentifier name)) ∧
    (HidesNothing (Text.trim name.toList) → ∀ index, IsIdentifier (sanitize name index)) := by
  refine ⟨isLegal_iff_skips, isLegal_of_isIdentifier, fun trimmed plain => ?_,
    fun plain index => ?_⟩
  · exact ⟨isIdentifier_of_isLegal trimmed plain, isLegal_of_isIdentifier⟩
  · rcases sanitize_cases name index with ⟨legal, kept⟩ | identifier
    · rw [kept]
      refine isIdentifier_of_isLegal ?_ ?_ legal
      · rw [String.toList_ofList, Text.trim_trim]
      · rwa [String.toList_ofList]
    · exact identifier

theorem legal_names_hide_comments_and_marks_reserved :
    isLegal "größe" = true ∧ isLegal "self" = false ∧ IsIdentifier (sanitize " self " 0) := by
  have reserved : isReserved "self" = true := by decide
  refine ⟨?_, ?_, ?_⟩
  · exact (legal_names_hide_comments_and_marks "größe").2.1
      ⟨by decide +kernel, by decide⟩
  · have legal := (legal_names_hide_comments_and_marks "self").2.2.1
      (by decide +kernel) (by decide +kernel)
    refine Bool.eq_false_iff.mpr fun kept => ?_
    rw [(legal.mp kept).free] at reserved
    cases reserved
  · exact (legal_names_hide_comments_and_marks " self ").2.2.2 (by decide +kernel) 0

/-- A comment behind a name is legal. -/
theorem legal_name_with_comment :
    ¬ ∀ name : String, Text.trim name.toList = name.toList →
      (isLegal name = true ↔ IsIdentifier name) := by
  intro exact
  have legal : isLegal "a/**/" = true := by
    have block : Skips "/**/".toList [] :=
      .block (by decide) (.opens (.ends (by decide))) (.done [])
    exact isLegal_iff_skips.mpr
      ⟨by decide, "a", "/**/".toList, .inl (by decide), by decide, .done _, block⟩
  have identifier := (exact "a/**/" (by decide +kernel)).mp legal
  exact absurd identifier.plain (by decide)

end Naming

end ContractBinder
