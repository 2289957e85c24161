import ContractBinder.Proofs.Text.Characters
import ContractBinder.Text.Digits

/-!
# Decimal numerals

Every number has exactly one spelling by decimal digits without a needless zero
in front: the one that `Nat.repr` writes. Reading the digits gives the number
back (`decimalValue_toDigits`), and writing a value again gives the digits back
(`toDigits_decimalValue`).
-/

namespace ContractBinder.Text

/-- Decimal digits, without a zero in front of other digits. -/
structure IsNumeral (digits : List Char) : Prop where
  nonempty : digits ≠ []
  digit : ∀ c ∈ digits, c.isDigit = true
  start : digits = ['0'] ∨ digits.head? ≠ some '0'

theorem digitChar_digitValue {c : Char} (h : c.isDigit = true) :
    Nat.digitChar (digitValue c) = c := by
  have bounds := isDigit_iff.mp h
  apply Char.toNat_inj.mp
  have small : digitValue c < 10 := by
    unfold digitValue
    omega
  rw [Nat.toNat_digitChar_of_lt_ten small]
  unfold digitValue
  omega

theorem decimalValue_eq_ofDigitChars (digits : List Char) :
    decimalValue digits = Nat.ofDigitChars 10 digits 0 := by
  rw [decimalValue, numberOfDigits, List.foldl_map, Nat.ofDigitChars_eq_foldl]
  rfl

/-- The digits that a number is written with spell that number. -/
theorem decimalValue_toDigits (n : Nat) : decimalValue (Nat.toDigits 10 n) = n := by
  rw [decimalValue_eq_ofDigitChars]
  exact Nat.ofDigitChars_ten_toDigits

namespace DecimalLemmas

/-- Digits behind a positive number, one at a time: writing commutes with reading. -/
theorem toDigits_foldl {digits : List Char} (all : ∀ c ∈ digits, c.isDigit = true)
    {start : Nat} (positive : 0 < start) :
    Nat.toDigits 10 start ++ digits =
      Nat.toDigits 10 (Nat.ofDigitChars 10 digits start) := by
  induction digits generalizing start with
  | nil => simp
  | cons c rest ih =>
    have digit : c.isDigit = true := all c List.mem_cons_self
    have bounds := isDigit_iff.mp digit
    have small : digitValue c < 10 := by
      unfold digitValue
      omega
    have step : Nat.toDigits 10 start ++ [c] = Nat.toDigits 10 (10 * start + digitValue c) := by
      rw [← Nat.toDigits_append_toDigits (by decide) positive small,
        Nat.toDigits_of_lt_base small, digitChar_digitValue digit]
    calc
      Nat.toDigits 10 start ++ c :: rest = (Nat.toDigits 10 start ++ [c]) ++ rest := by simp
      _ = Nat.toDigits 10 (10 * start + digitValue c) ++ rest := by rw [step]
      _ = Nat.toDigits 10 (Nat.ofDigitChars 10 rest (10 * start + digitValue c)) :=
        ih (fun d hd => all d (List.mem_cons_of_mem c hd)) (by omega)
      _ = Nat.toDigits 10 (Nat.ofDigitChars 10 (c :: rest) start) := by
        rw [Nat.ofDigitChars_cons]
        rfl

theorem digitValue_pos {c : Char} (digit : c.isDigit = true) (nonzero : c ≠ '0') :
    0 < digitValue c := by
  have bounds := isDigit_iff.mp digit
  have different : c.toNat ≠ 48 := fun same => nonzero (Char.toNat_inj.mp same)
  unfold digitValue
  omega

end DecimalLemmas

open DecimalLemmas

/-- A numeral has the digits that its value is written with. -/
theorem toDigits_decimalValue {digits : List Char} (numeral : IsNumeral digits) :
    Nat.toDigits 10 (decimalValue digits) = digits := by
  rcases numeral.start with zero | nonzero
  · subst zero
    decide
  · cases digits with
    | nil => exact absurd rfl numeral.nonempty
    | cons c rest =>
      have digit : c.isDigit = true := numeral.digit c List.mem_cons_self
      have positive : 0 < digitValue c := digitValue_pos digit (by simpa using nonzero)
      have small : digitValue c < 10 := by
        have bounds := isDigit_iff.mp digit
        unfold digitValue
        omega
      have tail := toDigits_foldl (fun d hd => numeral.digit d (List.mem_cons_of_mem c hd)) positive
      rw [Nat.toDigits_of_lt_base small, digitChar_digitValue digit] at tail
      rw [decimalValue_eq_ofDigitChars, Nat.ofDigitChars_cons]
      simpa [digitValue] using tail.symm

/-- The digits that a number is written with are numeral. -/
theorem isNumeral_toDigits (n : Nat) : IsNumeral (Nat.toDigits 10 n) := by
  refine ⟨Nat.toDigits_ne_nil, fun c hc => Nat.isDigit_of_mem_toDigits (by decide) (by decide) hc,
    ?_⟩
  induction n using Nat.strongRecOn with
  | ind n ih =>
    rcases Nat.lt_or_ge n 10 with small | large
    · rw [Nat.toDigits_of_lt_base small]
      by_cases zero : n = 0
      · subst zero
        exact .inl rfl
      · exact .inr (by simpa using zero)
    · rw [Nat.toDigits_of_base_le (by decide) large]
      right
      have shorter := ih (n / 10) (by omega)
      have notZero : Nat.toDigits 10 (n / 10) ≠ ['0'] := by
        intro same
        have value := congrArg decimalValue same
        rw [decimalValue_toDigits] at value
        have : n / 10 = 0 := value
        omega
      rw [List.head?_append, Option.or_of_isSome (by simp)]
      exact shorter.resolve_left notZero

theorem toDigits_injective {m n : Nat} (same : Nat.toDigits 10 m = Nat.toDigits 10 n) : m = n := by
  have value := congrArg decimalValue same
  rwa [decimalValue_toDigits, decimalValue_toDigits] at value

theorem toDigits_inj {m n : Nat} : Nat.toDigits 10 m = Nat.toDigits 10 n ↔ m = n :=
  ⟨toDigits_injective, congrArg (Nat.toDigits 10)⟩

end ContractBinder.Text
