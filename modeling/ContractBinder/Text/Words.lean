import ContractBinder.Text.Case
import ContractBinder.Text.Cluster

/-!
The words of a name such as `balanceOf` or `MY_TOKEN`, and the name in snake and Pascal case.
Words end at separators, which are dropped, and where the kind of character changes.
-/

namespace ContractBinder.Text

inductive LetterKind where
  | separator
  | digit
  | upper
  | lower
  | other
  deriving DecidableEq, Repr

/-- The kind of a cluster. A letter has a kind only if it has two cases. -/
def LetterKind.of (cluster : List Char) : LetterKind :=
  if cluster = ['_'] || cluster = ['-'] || cluster = [' '] then .separator
  else if cluster.all Char.isDigit then .digit
  else
    let up := Text.upper cluster
    let low := Text.lower cluster
    if up = low then .other
    else if cluster = up then .upper
    else if cluster = low then .lower
    else .other

/-- Whether a word ends between clusters of kinds `first` and `second`, where `third` is the kind
after them: at a change of letter case or between letters and digits, and before the last capital
of a run of capitals that a small letter follows. -/
def endsBetween (first second : LetterKind) (third : Option LetterKind) : Bool :=
  match first, second with
  | .lower, .upper => true
  | .upper, .upper => third = some .lower
  | .lower, .digit => true
  | .upper, .digit => true
  | .digit, .lower => true
  | .digit, .upper => true
  | _, _ => false

/-- Whether a word ends after a cluster of kind `first` that `rest` follows. -/
def endsBefore (first : LetterKind) (rest : List (List Char)) : Bool :=
  match rest with
  | [] => false
  | [second] => endsBetween first (.of second) none
  | second :: third :: _ => endsBetween first (.of second) (some (.of third))

/-- The words of clusters, the first of which goes on from `current`. -/
def nameWordsFrom (current : List Char) : List (List Char) → List (List Char)
  | [] => flush current
  | cluster :: rest =>
    let kind := LetterKind.of cluster
    if kind = .separator then flush current ++ nameWordsFrom [] rest
    else if endsBefore kind rest then flush (current ++ cluster) ++ nameWordsFrom [] rest
    else nameWordsFrom (current ++ cluster) rest

/-- The words of a name, in order. None of them is empty. -/
def nameWords (name : List Char) : List (List Char) :=
  nameWordsFrom [] (clusters name)

def snakeCase (name : List Char) : List Char :=
  ['_'].intercalate ((nameWords name).map lower)

/-- A word with its first cluster in upper case and the rest in lower case. -/
def capitalize (word : List Char) : List Char :=
  match clusters word with
  | [] => []
  | first :: rest => upper first ++ lower rest.flatten

/-- Capitalized words, joined without a mark. -/
def pascalCase (name : List Char) : List Char :=
  (nameWords name).flatMap capitalize

end ContractBinder.Text
