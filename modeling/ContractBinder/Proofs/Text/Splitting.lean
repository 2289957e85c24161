import ContractBinder.Text.Blank
import ContractBinder.Text.Split

/-!
# Splitting texts

The words of a text, its parts between separators, and what stands around the
last occurrence of a character, each described by how the text is put together
from the pieces.

Results:
1. `words_eq_iff`: `words` gives the maximal runs of characters that are not
   blank, in order.
2. `splitOn_eq`: splitting at a character is the library's splitting of lists.
3. `cutLast?_eq_some_iff`: a text is cut at the last separator.
-/

namespace ContractBinder.Text

/-! ## 1. Words -/

/-- `WordsOf text words`: the text is made of the words in order, with blanks
around them and at least one blank between two of them. -/
inductive WordsOf : List Char → List (List Char) → Prop
  | blank {text : List Char} : (∀ c ∈ text, isBlank c = true) → WordsOf text []
  | word {before word rest : List Char} {words : List (List Char)} :
      (∀ c ∈ before, isBlank c = true) → word ≠ [] → (∀ c ∈ word, isBlank c = false) →
      (∀ c, rest.head? = some c → isBlank c = true) → WordsOf rest words →
      WordsOf (before ++ word ++ rest) (word :: words)

theorem flush_of_ne_nil {α : Type} {run : List α} (h : run ≠ []) : flush run = [run] := by
  cases run with
  | nil => exact absurd rfl h
  | cons _ _ => rfl

theorem wordsFrom_blank {current : List Char} {c : Char} (h : isBlank c = true)
    (rest : List Char) : wordsFrom current (c :: rest) = flush current ++ wordsFrom [] rest := by
  simp [wordsFrom, h]

theorem wordsFrom_append {word : List Char} (h : ∀ c ∈ word, isBlank c = false)
    (current rest : List Char) :
    wordsFrom current (word ++ rest) = wordsFrom (current ++ word) rest := by
  induction word generalizing current with
  | nil => simp
  | cons c word ih =>
    have notBlank : isBlank c = false := h c List.mem_cons_self
    simp only [List.cons_append, wordsFrom, notBlank, Bool.false_eq_true, if_false]
    rw [ih (fun d hd => h d (List.mem_cons_of_mem c hd))]
    simp

theorem wordsFrom_blanks {blanks : List Char} (h : ∀ c ∈ blanks, isBlank c = true)
    (rest : List Char) : wordsFrom [] (blanks ++ rest) = wordsFrom [] rest := by
  induction blanks with
  | nil => rfl
  | cons c blanks ih =>
    rw [List.cons_append, wordsFrom_blank (h c List.mem_cons_self)]
    exact ih fun d hd => h d (List.mem_cons_of_mem c hd)

/-- A run of characters that are not blank, at the end or in front of a blank,
is a word. -/
theorem words_append {word : List Char} (nonempty : word ≠ [])
    (solid : ∀ c ∈ word, isBlank c = false) (rest : List Char)
    (ended : ∀ c, rest.head? = some c → isBlank c = true) :
    words (word ++ rest) = word :: words rest := by
  rw [words, wordsFrom_append solid, List.nil_append]
  cases rest with
  | nil => exact flush_of_ne_nil nonempty
  | cons c rest =>
    have blank : isBlank c = true := ended c rfl
    rw [wordsFrom_blank blank, flush_of_ne_nil nonempty, words, wordsFrom_blank blank]
    rfl

/-- A text without blanks is its only word. -/
theorem words_eq_singleton {word : List Char} (nonempty : word ≠ [])
    (solid : ∀ c ∈ word, isBlank c = false) : words word = [word] := by
  have h := words_append nonempty solid [] (fun _ h => nomatch h)
  simpa [words, wordsFrom, flush] using h

namespace WordsLemmas

theorem wordsOf_cons_blank {c : Char} {text : List Char} {words : List (List Char)}
    (blank : isBlank c = true) (h : WordsOf text words) : WordsOf (c :: text) words := by
  cases h with
  | blank all => exact .blank (List.forall_mem_cons.mpr ⟨blank, all⟩)
  | word before nonempty solid ended rest =>
    exact .word (List.forall_mem_cons.mpr ⟨blank, before⟩) nonempty solid ended rest

theorem wordsOf_flush {current rest : List Char} {words : List (List Char)}
    (solid : ∀ c ∈ current, isBlank c = false)
    (ended : ∀ c, rest.head? = some c → isBlank c = true) (h : WordsOf rest words) :
    WordsOf (current ++ rest) (flush current ++ words) := by
  cases current with
  | nil => exact h
  | cons c current => exact .word (List.forall_mem_nil _) (List.cons_ne_nil c current) solid ended h

theorem wordsOf_wordsFrom {current : List Char} (solid : ∀ c ∈ current, isBlank c = false)
    (text : List Char) : WordsOf (current ++ text) (wordsFrom current text) := by
  induction text generalizing current with
  | nil =>
    have none : WordsOf [] [] := .blank (List.forall_mem_nil _)
    have h := wordsOf_flush solid (by simp) none
    simpa [wordsFrom] using h
  | cons c rest ih =>
    cases blank : isBlank c with
    | true =>
      rw [wordsFrom_blank blank]
      have tail : WordsOf (c :: rest) (wordsFrom [] rest) :=
        wordsOf_cons_blank blank (ih (List.forall_mem_nil _))
      exact wordsOf_flush solid (fun d hd => by cases hd; exact blank) tail
    | false =>
      have grown : ∀ d ∈ current ++ [c], isBlank d = false := by
        intro d hd
        rcases List.mem_append.mp hd with before | last
        · exact solid d before
        · rwa [List.mem_singleton.mp last]
      simpa [wordsFrom, blank] using ih grown

end WordsLemmas

open WordsLemmas

/-- `words` gives the words of a text, and a text has no other words. -/
theorem words_eq_iff {text : List Char} {found : List (List Char)} :
    words text = found ↔ WordsOf text found := by
  constructor
  · rintro rfl
    exact wordsOf_wordsFrom (List.forall_mem_nil _) text
  · intro h
    induction h with
    | blank all =>
      have h := wordsFrom_blanks all []
      simpa [words, wordsFrom, flush] using h
    | word before nonempty solid ended _ ih =>
      rw [words, List.append_assoc, wordsFrom_blanks before, ← ih]
      exact words_append nonempty solid _ ended

/-! ## 2. Separators -/

variable {α : Type}

theorem intercalate_cons (separator first : List α) (others : List (List α)) :
    separator.intercalate (first :: others) = first ++ others.flatMap (separator ++ ·) := by
  induction others generalizing first with
  | nil => simp
  | cons second others ih =>
    rw [List.intercalate_cons_cons, ih, List.flatMap_cons, List.append_assoc, List.append_assoc]

theorem mem_of_mem_intercalate {a : α} {separator : List α} {parts : List (List α)}
    (member : a ∈ separator.intercalate parts) : a ∈ separator ∨ ∃ part ∈ parts, a ∈ part := by
  cases parts with
  | nil => exact absurd member List.not_mem_nil
  | cons first others =>
    rw [intercalate_cons] at member
    rcases List.mem_append.mp member with head | behind
    · exact .inr ⟨first, List.mem_cons_self, head⟩
    · obtain ⟨part, listed, inside⟩ := List.mem_flatMap.mp behind
      rcases List.mem_append.mp inside with mark | found
      · exact .inl mark
      · exact .inr ⟨part, List.mem_cons_of_mem first listed, found⟩

variable [DecidableEq α]

/-- Splitting at a character is the library's splitting of lists. -/
theorem splitOn_eq (separator : α) (text : List α) :
    splitOn separator text = text.splitOn separator := by
  induction text with
  | nil => rfl
  | cons c rest ih =>
    rw [splitOn, List.splitOn_cons_eq_if_modifyHead, ih]
    simp only [beq_iff_eq]
    split
    · rfl
    · have nonempty := List.splitOn_ne_nil separator rest
      cases parts : rest.splitOn separator with
      | nil => exact absurd parts nonempty
      | cons first others => rfl

/-! ## 3. The last occurrence -/

theorem takeWhile_ne_append {separator : α} {part : List α} (clean : separator ∉ part)
    (rest : List α) :
    (part ++ separator :: rest).takeWhile (· != separator) = part := by
  rw [List.takeWhile_append_of_pos]
  · simp
  · intro c member
    have different : c ≠ separator := fun same => clean (same ▸ member)
    simpa using different

theorem dropWhile_ne_append {separator : α} {part : List α} (clean : separator ∉ part)
    (rest : List α) :
    (part ++ separator :: rest).dropWhile (· != separator) = separator :: rest := by
  rw [List.dropWhile_append_of_pos]
  · simp
  · intro c member
    have different : c ≠ separator := fun same => clean (same ▸ member)
    simpa using different

/-- A text is cut at its last separator, which is the one that none follows. -/
theorem cutLast?_append {separator : α} (before : List α) {behind : List α}
    (clean : separator ∉ behind) :
    cutLast? separator (before ++ separator :: behind) = some (before, behind) := by
  have backwards : (before ++ separator :: behind).reverse =
      behind.reverse ++ separator :: before.reverse := by simp
  have cleanBack : separator ∉ behind.reverse := by simpa using clean
  rw [cutLast?, backwards, dropWhile_ne_append cleanBack, takeWhile_ne_append cleanBack]
  simp

theorem cutLast?_eq_some_iff {separator : α} {text before behind : List α} :
    cutLast? separator text = some (before, behind) ↔
      text = before ++ separator :: behind ∧ separator ∉ behind := by
  constructor
  · intro cut
    have whole := List.takeWhile_append_dropWhile (p := (· != separator)) (l := text.reverse)
    have clean : ∀ c ∈ text.reverse.takeWhile (· != separator), c ≠ separator :=
      fun c listed => bne_iff_ne.mp (List.all_eq_true.mp List.all_takeWhile c listed)
    unfold cutLast? at cut
    split at cut
    · cases cut
    · next c others rest =>
      obtain rfl : c = separator := by
        have stops := List.head?_dropWhile_not (· != separator) text.reverse
        rw [rest] at stops
        simpa using stops
      cases cut
      have forwards := congrArg List.reverse whole
      rw [rest, List.reverse_append, List.reverse_cons, List.append_assoc, List.singleton_append,
        List.reverse_reverse] at forwards
      exact ⟨forwards.symm, fun listed => clean c (List.mem_reverse.mp listed) rfl⟩
  · rintro ⟨rfl, clean⟩
    exact cutLast?_append before clean

end ContractBinder.Text
