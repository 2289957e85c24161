/-!
Splitting a text at every occurrence of a character, and looking for a text in another one. A text
can be given as its characters or as its bytes.
-/

namespace ContractBinder.Text

variable {α : Type} [DecidableEq α]

/-- The parts of a text between the occurrences of a separator. There is one more part than there
are separators, and parts may be empty. -/
def splitOn (separator : α) : List α → List (List α)
  | [] => [[]]
  | c :: rest =>
    if c = separator then [] :: splitOn separator rest
    else
      match splitOn separator rest with
      | [] => [[c]]
      | first :: others => (c :: first) :: others

/-- A text cut at the last occurrence of a character: what stands before it and what stands behind
it, or nothing if it does not occur. -/
def cutLast? (separator : α) (text : List α) : Option (List α × List α) :=
  match text.reverse.dropWhile (· != separator) with
  | [] => none
  | _ :: before => some (before.reverse, (text.reverse.takeWhile (· != separator)).reverse)

def occursIn (part : List Char) : List Char → Bool
  | [] => part.isEmpty
  | c :: rest => part.isPrefixOf (c :: rest) || occursIn part rest

example : splitOn '/' "a//b".toList = ["a".toList, [], "b".toList] := by decide

example : cutLast? '.' "a.b.c".toList = some ("a.b".toList, "c".toList) := by decide

end ContractBinder.Text
