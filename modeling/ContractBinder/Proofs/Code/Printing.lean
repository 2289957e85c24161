import Mathlib.Data.List.Infix
import ContractBinder.Code.Token

/-!
# Parts of printed code

What is printed for a part of some tokens is a part of what is printed for all of them
(`printChars_infix`): what stands before and behind a token decides about the blanks around
it, and about nothing else (`filter_printChars`).
-/

namespace ContractBinder.Code

@[simp] theorem Token.spell_name (spelling : String) :
    (Token.name spelling).spell = spelling.toList :=
  rfl

@[simp] theorem Token.spell_mark (symbol : Char) (joint : Bool) :
    (Token.mark symbol joint).spell = [symbol] :=
  rfl

theorem Token.spell_text (value : String) :
    (Token.text value).spell = Text.quoteLiteral value.toList :=
  rfl

theorem Token.spell_opening (delimiter : Delimiter) :
    (Token.opening delimiter).spell = [delimiter.openChar] :=
  rfl

theorem Token.spell_closing (delimiter : Delimiter) :
    (Token.closing delimiter).spell = [delimiter.closeChar] :=
  rfl

theorem Token.spell_doc (content : String) :
    (Token.doc content).spell =
      "# [doc = ".toList ++ Text.quoteLiteral content.toList ++ [']'] :=
  rfl

/-- What is printed between a token and the one behind it. -/
theorem printChars_cons_cons (token next : Token) (rest : List Token) :
    ∃ blanks, printChars (token :: next :: rest) =
      token.spell ++ blanks ++ printChars (next :: rest) :=
  ⟨_, rfl⟩

theorem printChars_append_cons_cons (before : List Token) (token next : Token)
    (rest : List Token) :
    printChars (before ++ token :: next :: rest) =
      printChars (before ++ [token]) ++
        (if token.hugsNext || next.hugsPrevious then [] else [' ']) ++
        printChars (next :: rest) := by
  induction before with
  | nil => rfl
  | cons first before ih =>
    cases before with
    | nil => simp [printChars]
    | cons second before =>
      simp only [List.cons_append, printChars, List.append_assoc] at ih ⊢
      rw [ih]

theorem printChars_suffix_append (before tokens : List Token) :
    printChars tokens <:+ printChars (before ++ tokens) := by
  induction before with
  | nil => exact List.suffix_rfl
  | cons token rest ih =>
    cases following : rest ++ tokens with
    | nil =>
      rw [(List.append_eq_nil_iff.mp following).2]
      exact List.nil_suffix
    | cons next others =>
      obtain ⟨blanks, printed⟩ := printChars_cons_cons token next others
      rw [following] at ih
      rw [List.cons_append, following, printed]
      exact ih.trans (List.suffix_append _ _)

theorem printChars_prefix_append (tokens behind : List Token) :
    printChars tokens <+: printChars (tokens ++ behind) := by
  induction tokens with
  | nil => exact List.nil_prefix
  | cons token rest ih =>
    cases rest with
    | nil =>
      cases behind with
      | nil => exact List.prefix_rfl
      | cons next others =>
        exact (List.prefix_append _ _).trans (List.prefix_append _ _)
    | cons next others => exact (List.prefix_append_right_inj _).mpr ih

theorem printChars_infix {part tokens : List Token} (inside : part <:+: tokens) :
    printChars part <:+: printChars tokens := by
  obtain ⟨before, behind, rfl⟩ := inside
  rw [List.append_assoc]
  exact (printChars_prefix_append part behind).isInfix.trans
    (printChars_suffix_append before (part ++ behind)).isInfix

/-- Without blanks, the printed form is what the tokens spell one after the other. -/
theorem filter_printChars (tokens : List Token) :
    (printChars tokens).filter (· ≠ ' ') =
      (tokens.flatMap Token.spell).filter (· ≠ ' ') := by
  induction tokens with
  | nil => rfl
  | cons token rest ih =>
    cases rest with
    | nil => simp [printChars]
    | cons next others =>
      rw [printChars, List.flatMap_cons, List.filter_append, List.filter_append, ih,
        List.filter_append]
      split <;> simp

end ContractBinder.Code
