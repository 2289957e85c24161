import ContractBinder.Proofs.Naming.Identifiers

/-!
# Marks of constants

A constant is named after a function or an event, in upper case and with a mark:
`FUNC_` in front for a function, `_EVENT` behind for an event. Neither repairing the
name nor making it distinct takes the mark away, as a mark has no blank at which the
name is trimmed and no character that is replaced.
-/

namespace ContractBinder

namespace Text

/-! ## 1. Trimming -/

theorem dropWhile_append_solid (before rest : List Char) {solid : List Char}
    (nonempty : solid ≠ []) (clean : ∀ c ∈ solid, isBlank c = false) :
    (before ++ (solid ++ rest)).dropWhile isBlank =
      before.dropWhile isBlank ++ (solid ++ rest) := by
  induction before with
  | nil =>
    cases solid with
    | nil => exact absurd rfl nonempty
    | cons c _ => simp [clean c List.mem_cons_self]
  | cons c before ih =>
    rw [List.cons_append, List.dropWhile_cons, List.dropWhile_cons, ih]
    split <;> rfl

/-- Only what is before and behind a part without blanks is trimmed. -/
theorem trim_around (before after : List Char) {solid : List Char} (nonempty : solid ≠ [])
    (clean : ∀ c ∈ solid, isBlank c = false) :
    trim (before ++ (solid ++ after)) =
      before.dropWhile isBlank ++ (solid ++ (after.reverse.dropWhile isBlank).reverse) := by
  have reversed : solid.reverse ≠ [] := mt List.reverse_eq_nil_iff.mp nonempty
  have back := dropWhile_append_solid after.reverse (before.dropWhile isBlank).reverse reversed
    fun c member => clean c (List.mem_reverse.mp member)
  rw [trim, dropWhile_append_solid before after nonempty clean, List.reverse_append,
    List.reverse_append, List.append_assoc, back]
  simp only [List.reverse_append, List.reverse_reverse, List.append_assoc]

end Text

namespace Naming

/-! ## 2. Sanitized names -/

theorem replaceForeign_of_word {text : List Char} (word : ∀ c ∈ text, isWordChar c = true) :
    replaceForeign text = text := by
  rw [replaceForeign]
  exact (List.map_congr_left fun c member => if_pos (word c member)).trans (List.map_id text)

theorem suffix_guardDigit (text : List Char) : text <:+ guardDigit text := by
  unfold guardDigit
  split
  · split
    · exact List.suffix_append _ _
    · exact List.suffix_rfl
  · exact List.suffix_rfl

theorem isBlank_of_word {text : List Char} (word : ∀ c ∈ text, isWordChar c = true) :
    ∀ c ∈ text, Text.isBlank c = false := by
  intro c member
  have printable := printable_of_isEmittedChar (c := c) (by simp [isEmittedChar, word c member])
  exact Text.isBlank_of_printable printable.1 printable.2

/-- What holds of a name that something is left of and of its repaired form, and goes on
to hold if an underscore is added, holds of the sanitized name. -/
theorem sanitize_keeps {name : String} {index : Nat} {motive : List Char → Prop}
    (left : ∃ c ∈ Text.trim name.toList, isWordChar c = true ∧ c ≠ '_')
    (kept : motive (Text.trim name.toList))
    (repaired : motive (guardDigit (replaceForeign (Text.trim name.toList))))
    (behind : ∀ text, motive text → motive (text ++ ['_'])) :
    motive (sanitize name index).toList := by
  obtain ⟨c, member, word, noUnderscore⟩ := left
  have way := sanitizes name index
  generalize sanitize name index = result at way ⊢
  cases way with
  | kept _ => rwa [String.toList_ofList]
  | numbered _ underscores =>
    have stays : c ∈ replaceForeign (Text.trim name.toList) :=
      List.mem_map.mpr ⟨c, member, if_pos word⟩
    exact absurd (underscores c ((suffix_guardDigit _).subset stays)) noUnderscore
  | repaired _ _ _ =>
    rw [String.toList_ofList]
    exact repaired
  | marked _ _ _ _ =>
    rw [String.toList_append, String.toList_ofList]
    exact behind _ repaired

/-! ## 3. Constants -/

/-- The mark of constants for functions. -/
def functionMark : List Char := ['F', 'U', 'N', 'C', '_']

def eventMark : List Char := ['_', 'E', 'V', 'E', 'N', 'T']

theorem functionMark_prefix (name : String) : functionMark <+: (functionConstant name).toList := by
  have word : ∀ c ∈ functionMark, isWordChar c = true := List.all_eq_true.mp (by decide)
  have trimmed := Text.trim_around [] (upperName name).toList (by decide)
    (isBlank_of_word word)
  have spelled : ("FUNC_" ++ upperName name).toList = functionMark ++ (upperName name).toList :=
    String.toList_append
  rw [List.nil_append, List.dropWhile_nil, List.nil_append, ← spelled] at trimmed
  have digitless : ∀ rest : List Char, guardDigit (functionMark ++ rest) = functionMark ++ rest :=
    fun _ => rfl
  refine sanitize_keeps ?_ ?_ ?_ ?_
  · rw [trimmed]
    exact ⟨'F', List.mem_append_left _ List.mem_cons_self, rfl, by decide⟩
  · rw [trimmed]
    exact List.prefix_append _ _
  · rw [trimmed, replaceForeign, List.map_append, ← replaceForeign, replaceForeign_of_word word,
      digitless]
    exact List.prefix_append _ _
  · exact fun text marked => marked.trans (List.prefix_append _ _)

theorem eventMark_infix (name : String) : eventMark <:+: (eventConstant name).toList := by
  have word : ∀ c ∈ eventMark, isWordChar c = true := List.all_eq_true.mp (by decide)
  have trimmed := Text.trim_around (upperName name).toList [] (by decide)
    (isBlank_of_word word)
  have spelled : (upperName name ++ "_EVENT").toList = (upperName name).toList ++ eventMark :=
    String.toList_append
  rw [List.reverse_nil, List.dropWhile_nil, List.reverse_nil, List.append_nil, ← spelled]
    at trimmed
  refine sanitize_keeps ?_ ?_ ?_ ?_
  · rw [trimmed]
    exact ⟨'E', List.mem_append_right _ (by decide), rfl, by decide⟩
  · rw [trimmed]
    exact (List.suffix_append _ _).isInfix
  · rw [trimmed, replaceForeign, List.map_append, ← replaceForeign, ← replaceForeign,
      replaceForeign_of_word word]
    exact ((List.suffix_append _ _).trans (suffix_guardDigit _)).isInfix
  · exact fun text marked => marked.trans (List.prefix_append _ _).isInfix

/-! ## 4. Distinct names -/

theorem toList_numbered (base : String) (number : Nat) :
    base.toList <+: (Registry.numbered base number).toList := by
  rw [Registry.numbered, String.append_assoc, String.toList_append]
  exact List.prefix_append _ _

/-- A mark in front of a name stays there when the name is made distinct. -/
theorem prefix_unique {mark : List Char} {base : String} (marked : mark <+: base.toList)
    (registry : Registry) : mark <+: (registry.unique base).1.toList :=
  Registry.unique_fst_cases (motive := fun name => mark <+: name.toList) marked
    fun number => marked.trans (toList_numbered base number)

/-- A mark within a name stays in it. -/
theorem infix_unique {mark : List Char} {base : String} (marked : mark <:+: base.toList)
    (registry : Registry) : mark <:+: (registry.unique base).1.toList :=
  Registry.unique_fst_cases (motive := fun name => mark <:+: name.toList) marked
    fun number => marked.trans (toList_numbered base number).isInfix

end Naming

end ContractBinder
