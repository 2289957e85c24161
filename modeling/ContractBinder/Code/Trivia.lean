import ContractBinder.Text.Blank

/-!
What stands between tokens of code: blanks, direction marks and comments. Comments that document
something are not skipped, and block comments nest.
Main statement: `skipTrivia` leaves a text at its first token or at a comment that never ends.
-/

namespace ContractBinder.Code

/-- Whether a character separates tokens: the blanks and the two direction marks. -/
def isSpacing (c : Char) : Bool :=
  Text.isBlank c || c == '\u200e' || c == '\u200f'

/-- Whether a text starts with the characters of `lead`. -/
def startsWith (text : List Char) (lead : String) : Bool :=
  lead.toList.isPrefixOf text

/-- Whether a text starts with a line comment that is no documentation. -/
def startsLineComment (text : List Char) : Bool :=
  startsWith text "//" && (!startsWith text "///" || startsWith text "////") &&
    !startsWith text "//!"

/-- Whether a text starts with a block comment that is no documentation. -/
def startsBlockComment (text : List Char) : Bool :=
  startsWith text "/**/" ||
    startsWith text "/*" && (!startsWith text "/**" || startsWith text "/***") &&
      !startsWith text "/*!"

/-- What follows the end of the block comment in which `depth` comments are open. -/
def afterBlock : Nat → List Char → Option (List Char)
  | depth, '/' :: '*' :: rest => afterBlock (depth + 1) rest
  | depth, '*' :: '/' :: rest => if depth ≤ 1 then some rest else afterBlock (depth - 1) rest
  | depth, _ :: rest => afterBlock depth rest
  | _, [] => none

/-- What follows one separator or comment at the start of a text, if there is one. -/
def afterTrivium? (text : List Char) : Option (List Char) :=
  if startsLineComment text then some (text.dropWhile (· != '\n'))
  else if startsBlockComment text then afterBlock 0 text
  else
    match text with
    | [] => none
    | c :: rest => if isSpacing c then some rest else none

theorem length_dropWhile_le {α : Type} (test : α → Bool) (list : List α) :
    (list.dropWhile test).length ≤ list.length := by
  induction list with
  | nil => simp
  | cons head tail ih =>
    rw [List.dropWhile_cons]
    split
    · exact Nat.le_succ_of_le ih
    · exact Nat.le_refl _

theorem afterBlock_length {depth : Nat} {text rest : List Char}
    (found : afterBlock depth text = some rest) : rest.length < text.length := by
  fun_induction afterBlock depth text with
  | case1 depth tail ih => have := ih found; simp only [List.length_cons]; omega
  | case2 depth tail small =>
    cases found
    simp only [List.length_cons]
    omega
  | case3 depth tail large ih => have := ih found; simp only [List.length_cons]; omega
  | case4 depth head tail _ _ ih => have := ih found; simp only [List.length_cons]; omega
  | case5 => cases found

theorem afterTrivium?_length {text rest : List Char} (found : afterTrivium? text = some rest) :
    rest.length < text.length := by
  unfold afterTrivium? at found
  split at found
  · rename_i line
    cases found
    cases text with
    | nil => simp [startsLineComment, startsWith] at line
    | cons head tail =>
      have slash : head = '/' := by
        simp only [startsLineComment, startsWith, Bool.and_eq_true] at line
        have := line.1.1
        simp [List.isPrefixOf] at this
        exact this.1.symm
      subst slash
      rw [List.dropWhile_cons]
      simp only [List.length_cons]
      have := length_dropWhile_le (· != '\n') tail
      split
      · exact Nat.lt_succ_of_le this
      · contradiction
  · split at found
    · exact afterBlock_length found
    · cases text with
      | nil => simp at found
      | cons head tail =>
        simp only at found
        split at found
        · cases found
          simp
        · cases found

/-- Skips separators and comments. -/
def skipTrivia (text : List Char) : List Char :=
  match _found : afterTrivium? text with
  | some rest => skipTrivia rest
  | none => text
termination_by text.length
decreasing_by exact afterTrivium?_length (by assumption)

end ContractBinder.Code
