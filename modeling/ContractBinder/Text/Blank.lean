import ContractBinder.Text.CodeRanges

/-!
Blank characters (the property White_Space), trimming, and splitting at blanks.
-/

namespace ContractBinder.Text

/-- The code points of White_Space. -/
def blankRanges : CodeRanges :=
  [(0x9, 0xd), (0x20, 0x20), (0x85, 0x85), (0xa0, 0xa0), (0x1680, 0x1680), (0x2000, 0x200a),
   (0x2028, 0x2029), (0x202f, 0x202f), (0x205f, 0x205f), (0x3000, 0x3000)]

/-- A character that separates words and is trimmed off at the ends of a text. -/
def isBlank (c : Char) : Bool :=
  blankRanges.contains c

def trim (text : List Char) : List Char :=
  ((text.dropWhile isBlank).reverse.dropWhile isBlank).reverse

/-- A finished run: nothing if it is empty. -/
def flush {α : Type} (run : List α) : List (List α) :=
  if run.isEmpty then [] else [run]

/-- The words of `text`, the first of which goes on from `current`. -/
def wordsFrom (current : List Char) : List Char → List (List Char)
  | [] => flush current
  | c :: rest =>
    if isBlank c then flush current ++ wordsFrom [] rest
    else wordsFrom (current ++ [c]) rest

/-- The maximal runs of characters that are not blank, in order. -/
def words (text : List Char) : List (List Char) :=
  wordsFrom [] text

end ContractBinder.Text
