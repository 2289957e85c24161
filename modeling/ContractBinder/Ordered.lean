/-!
Lists of pairs that are ordered by their first components, each of which occurs once.
-/

namespace ContractBinder

variable {κ α : Type} [LT κ] [DecidableLT κ] [DecidableEq κ]

/-- Puts a pair into an ordered list, in place of a pair with the same first component. -/
def insertSorted (key : κ) (value : α) : List (κ × α) → List (κ × α)
  | [] => [(key, value)]
  | (other, kept) :: rest =>
    if key = other then (key, value) :: rest
    else if key < other then (key, value) :: (other, kept) :: rest
    else (other, kept) :: insertSorted key value rest

/-- Pairs in order. Of pairs that share a first component the last is kept. -/
def sortedPairs (pairs : List (κ × α)) : List (κ × α) :=
  pairs.foldl (fun sorted pair => insertSorted pair.1 pair.2 sorted) []

end ContractBinder
