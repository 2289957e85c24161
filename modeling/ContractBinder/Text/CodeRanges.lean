/-!
Sets of characters given by ranges of code points. The character classes of the standard are such
sets; each class lives in a module named for its property.
-/

namespace ContractBinder.Text

/-- Ranges of code points in increasing order, both ends included. -/
abbrev CodeRanges := List (Nat × Nat)

def CodeRanges.contains (ranges : CodeRanges) (c : Char) : Bool :=
  ranges.any fun (low, high) => low ≤ c.toNat && c.toNat ≤ high

end ContractBinder.Text
