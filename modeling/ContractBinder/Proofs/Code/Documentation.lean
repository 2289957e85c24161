import ContractBinder.Code.Grammar.Sign
import ContractBinder.Code.Phrase
import ContractBinder.Proofs.Code.Printing

/-!
# Attributes for documentation

An attribute `#[doc = ..]` can be deleted wherever it stands in code, together with the bracket
that closes it.

Results:

1. `printChars_spellDocs`: documentation that is one token is printed like the tokens of its
   attribute.
2. `Inserted.deleteDocs_eq`: code that differs in attributes in front of items only is the same
   once all of them are deleted.
3. `deleteDocs_of_holdsDoc_eq_false`: code that holds no such attribute stays as it is.
4. `Clear` says of a part of code that it holds none, and that it begins none that what follows
   could complete.
-/

namespace ContractBinder.Code

/-! ## 1. Deleted attributes -/

def Token.isMark (symbol : Char) : Token → Bool
  | .mark found _ => found == symbol
  | _ => false

/-- Whether the first tokens pass the tests, one by one. -/
def passesEach : List (Token → Bool) → List Token → Bool
  | [], _ => true
  | _ :: _, [] => false
  | test :: tests, token :: rest => test token && passesEach tests rest

/-- What stands behind the first mark of an attribute for documentation. -/
def docTests : List (Token → Bool) :=
  [(· == .opening .bracket), (· == .name "doc"), Token.isMark '=']

/-- Whether tokens start with an attribute for documentation. -/
def startsDoc (tokens : List Token) : Bool :=
  passesEach (Token.isMark '#' :: docTests) tokens

theorem length_afterBrackets_le (depth : Nat) (tokens : List Token) :
    (afterBrackets depth tokens).length ≤ tokens.length := by
  fun_induction afterBrackets depth tokens with
  | case1 => exact Nat.le_refl _
  | case2 _ _ _ ih => exact Nat.le_succ_of_le ih
  | case3 => exact Nat.le_succ _
  | case4 _ _ _ ih => exact Nat.le_succ_of_le ih
  | case5 _ _ _ _ _ _ ih => exact Nat.le_succ_of_le ih

theorem length_afterFirst_le (tokens : List Token) :
    (afterFirst tokens).length ≤ tokens.length := by
  unfold afterFirst
  split
  · exact Nat.zero_le _
  · exact Nat.zero_le _
  · exact Nat.le_succ_of_le (length_afterBrackets_le 0 _)
  · simp only [List.length_cons]
    omega
  · exact Nat.le_succ _

/-- Deletes every attribute for documentation, up to the bracket that closes it. -/
def deleteDocs : List Token → List Token
  | [] => []
  | token :: rest =>
    if startsDoc (token :: rest) then deleteDocs (afterFirst rest)
    else token :: deleteDocs rest
termination_by tokens => tokens.length
decreasing_by
  · exact Nat.lt_succ_of_le (length_afterFirst_le rest)
  · exact Nat.lt_succ_self _

/-! ## 2. Spelled attributes -/

/-- The attribute that documents the item behind it. -/
def docAttribute (content : String) : List Token :=
  mark '#' :: enclose .bracket [.name "doc", mark '=', .text content]

theorem printChars_docAttribute (content : String) :
    printChars (docAttribute content) = (Token.doc content).spell := by
  simp [docAttribute, enclose, mark, printChars, Token.hugsNext, Token.hugsPrevious,
    Token.spell_text, Token.spell_opening, Token.spell_closing, Token.spell_doc,
    Delimiter.openChar, Delimiter.closeChar]

theorem exists_cons_of_spellDocs_cons (token : Token) (rest : List Token) :
    ∃ first others, spellDocs (token :: rest) = first :: others ∧
      first.hugsPrevious = token.hugsPrevious := by
  cases token with
  | doc content => exact ⟨_, _, rfl, rfl⟩
  | name | mark | text | number | literal | opening | closing => exact ⟨_, _, rfl, rfl⟩

theorem spellDocs_doc (content : String) (rest : List Token) :
    spellDocs (.doc content :: rest) = docAttribute content ++ spellDocs rest :=
  rfl

theorem spellDocs_of_not_isDoc {token : Token} (noDoc : token.isDoc = false) (rest : List Token) :
    spellDocs (token :: rest) = token :: spellDocs rest := by
  cases token with
  | doc => cases noDoc
  | name | mark | text | number | literal | opening | closing => rfl

/-- Documentation is printed as the attribute that it is. -/
theorem printChars_spellDocs (tokens : List Token) :
    printChars (spellDocs tokens) = printChars tokens := by
  induction tokens with
  | nil => rfl
  | cons token rest ih =>
    cases rest with
    | nil =>
      cases token with
      | doc content => exact printChars_docAttribute content
      | name | mark | text | number | literal | opening | closing => rfl
    | cons next others =>
      obtain ⟨first, more, spelled, hugs⟩ := exists_cons_of_spellDocs_cons next others
      rw [spelled] at ih
      cases token with
      | doc content =>
        have closed := printChars_append_cons_cons
          [mark '#', .opening .bracket, .name "doc", mark '=', .text content]
          (.closing .bracket) first more
        rw [ih, hugs] at closed
        rw [spellDocs_doc, spelled, printChars, ← printChars_docAttribute]
        exact closed
      | name | mark | text | number | literal | opening | closing =>
        rw [spellDocs_of_not_isDoc rfl, spelled, printChars, printChars, hugs, ih]

/-! ## 3. Inserted attributes -/

variable {documented plain moreDocumented morePlain tokens rest : List Token}

/-- What items start with: an attribute, or the word that makes them public. -/
def itemBeginnings : List Token :=
  [mark '#', .name "pub"]

/-- `Inserted documented plain`: the tokens are the same but for attributes for documentation
that stand in front of items. -/
inductive Inserted : List Token → List Token → Prop
  | nil : Inserted [] []
  | keep (token : Token) {documented plain : List Token} :
      Inserted documented plain → Inserted (token :: documented) (token :: plain)
  | doc (content : String) {first : Token} {documented rest : List Token} :
      first ∈ itemBeginnings → Inserted documented (first :: rest) →
      Inserted (docAttribute content ++ documented) (first :: rest)

theorem Inserted.same (tokens : List Token) : Inserted tokens tokens := by
  induction tokens with
  | nil => exact .nil
  | cons token _ ih => exact .keep token ih

theorem Inserted.append (inserted : Inserted documented plain)
    (more : Inserted moreDocumented morePlain) :
    Inserted (documented ++ moreDocumented) (plain ++ morePlain) := by
  induction inserted with
  | nil => exact more
  | keep token _ ih => exact .keep token ih
  | doc content begins _ ih =>
    rw [List.append_assoc]
    exact .doc content begins ih

theorem Inserted.afterBrackets (inserted : Inserted documented plain) (depth : Nat) :
    Inserted (Code.afterBrackets depth documented) (Code.afterBrackets depth plain) := by
  induction inserted generalizing depth with
  | nil => exact .nil
  | keep token inner ih =>
    cases token with
    | opening _ => exact ih (depth + 1)
    | closing _ =>
      cases depth with
      | zero => exact inner
      | succ depth => exact ih depth
    | name | mark | text | number | literal | doc => exact ih depth
  | doc _ _ _ ih => exact ih depth

/-- Tests that no item begins with a token for do not see what is inserted. -/
theorem Inserted.passesEach_eq {tests : List (Token → Bool)}
    (foreign : ∀ test ∈ tests, ∀ token ∈ itemBeginnings, test token = false)
    (inserted : Inserted documented plain) :
    passesEach tests documented = passesEach tests plain := by
  induction tests generalizing documented plain with
  | nil => simp only [passesEach]
  | cons test tests ih =>
    have others := fun other member => foreign other (List.mem_cons_of_mem _ member)
    have first := foreign test List.mem_cons_self
    cases inserted with
    | nil => rfl
    | keep token inner => rw [passesEach, passesEach, ih others inner]
    | doc content begins inner =>
      have hash : test (mark '#') = false := first _ List.mem_cons_self
      simp [docAttribute, passesEach, hash, first _ begins]

theorem Inserted.startsDoc_eq {token : Token} (inserted : Inserted documented plain) :
    startsDoc (token :: documented) = startsDoc (token :: plain) := by
  have foreign : ∀ test ∈ docTests, ∀ token ∈ itemBeginnings, test token = false := by decide
  rw [startsDoc, startsDoc, passesEach, passesEach, inserted.passesEach_eq foreign]

theorem exists_opening_of_startsDoc {token : Token} (starts : startsDoc (token :: rest) = true) :
    ∃ inside, rest = .opening .bracket :: inside := by
  simp only [startsDoc, docTests, passesEach, Bool.and_eq_true] at starts
  cases rest with
  | nil => simp [passesEach] at starts
  | cons second inside =>
    simp only [passesEach, Bool.and_eq_true, beq_iff_eq] at starts
    exact ⟨inside, by rw [starts.2.1]⟩

/-- What was inserted is deleted, and of the rest the same. -/
theorem Inserted.deleteDocs_eq (inserted : Inserted documented plain) :
    deleteDocs documented = deleteDocs plain := by
  induction documented using deleteDocs.induct generalizing plain with
  | case1 =>
    cases inserted
    rfl
  | case2 token rest starts ih =>
    rw [deleteDocs, if_pos starts]
    generalize whole : token :: rest = documented at inserted
    cases inserted with
    | nil => cases whole
    | doc content begins inner =>
      cases whole
      exact ih inner
    | @keep token documented plain inner =>
      cases whole
      have starts' : startsDoc (token :: plain) = true := inner.startsDoc_eq ▸ starts
      obtain ⟨inside, rfl⟩ := exists_opening_of_startsDoc starts
      rw [deleteDocs, if_pos starts']
      obtain ⟨plainInside, rfl⟩ := exists_opening_of_startsDoc starts'
      cases inner with
      | keep _ inner => exact ih (inner.afterBrackets 0)
  | case3 token rest noDoc ih =>
    rw [deleteDocs, if_neg noDoc]
    generalize whole : token :: rest = documented at inserted
    cases inserted with
    | nil => cases whole
    | doc content begins inner =>
      cases whole
      exact absurd rfl noDoc
    | keep token inner =>
      cases whole
      rw [inner.startsDoc_eq] at noDoc
      rw [deleteDocs, if_neg noDoc, ih inner]

example : deleteDocs (docAttribute "a" ++ [.name "pub", mark ';']) = [.name "pub", mark ';'] := by
  decide +kernel

/-! ## 4. Code without attributes for documentation -/

/-- Whether an attribute for documentation stands somewhere in tokens. -/
def holdsDoc : List Token → Bool
  | [] => false
  | token :: rest => startsDoc (token :: rest) || holdsDoc rest

theorem deleteDocs_of_holdsDoc_eq_false (clean : holdsDoc tokens = false) :
    deleteDocs tokens = tokens := by
  induction tokens with
  | nil => rw [deleteDocs]
  | cons token rest ih =>
    rw [holdsDoc, Bool.or_eq_false_iff] at clean
    rw [deleteDocs, if_neg (Bool.eq_false_iff.mp clean.1), ih clean.2]

theorem spellDocs_append (front back : List Token) :
    spellDocs (front ++ back) = spellDocs front ++ spellDocs back :=
  List.flatMap_append

theorem spellDocs_enclose (delimiter : Delimiter) (inside : List Token) :
    spellDocs (enclose delimiter inside) = enclose delimiter (spellDocs inside) := by
  rw [enclose, List.cons_append, spellDocs_of_not_isDoc rfl, spellDocs_append]
  rfl

/-- Whether nothing that a token is spelled as begins an attribute. -/
def Token.isQuiet (token : Token) : Bool :=
  !token.isDoc && !token.isMark '#'

theorem spellDocs_mark (symbol : Char) :
    spellDocs (mark symbol :: rest) = mark symbol :: spellDocs rest :=
  rfl

/-- Tokens that hold no attribute for documentation and begin none, whatever follows them. -/
def Clear (tokens : List Token) : Prop :=
  ∀ rest, holdsDoc (spellDocs rest) = false → holdsDoc (spellDocs (tokens ++ rest)) = false

theorem Clear.holdsDoc_eq_false (clear : Clear tokens) : holdsDoc (spellDocs tokens) = false := by
  have alone := clear [] rfl
  rwa [List.append_nil] at alone

/-- A token that an attribute for documentation neither begins with nor goes on with ends what
might begin one in front of it. -/
theorem passesEach_append {tests : List (Token → Bool)} {token : Token}
    (foreign : ∀ test ∈ tests, test token = false) :
    passesEach tests (tokens ++ token :: rest) = passesEach tests tokens := by
  induction tests generalizing tokens with
  | nil => simp only [passesEach]
  | cons test tests ih =>
    have others := fun other member => foreign other (List.mem_cons_of_mem _ member)
    cases tokens with
    | nil => simp [passesEach, foreign test List.mem_cons_self]
    | cons first tokens => rw [List.cons_append, passesEach, passesEach, ih others]

theorem holdsDoc_append {token : Token}
    (foreign : ∀ test ∈ Token.isMark '#' :: docTests, test token = false)
    (before : holdsDoc tokens = false) (behind : holdsDoc rest = false) :
    holdsDoc (tokens ++ token :: rest) = false := by
  induction tokens with
  | nil =>
    have noStart : startsDoc (token :: rest) = false := by
      rw [startsDoc, passesEach, foreign _ List.mem_cons_self, Bool.false_and]
    rw [List.nil_append, holdsDoc, noStart, behind, Bool.or_false]
  | cons first tokens ih =>
    rw [holdsDoc, Bool.or_eq_false_iff] at before
    rw [List.cons_append, holdsDoc, ih before.2, startsDoc, ← List.cons_append,
      passesEach_append foreign, ← startsDoc, before.1, Bool.or_false]

/-! ## 5. Clear parts -/

namespace Clear

variable {front back body : List Token}

theorem nil : Clear [] :=
  fun _ clean => clean

theorem append (clear : Clear front) (behind : Clear back) : Clear (front ++ back) := by
  intro rest clean
  rw [List.append_assoc]
  exact clear _ (behind rest clean)

theorem cons {token : Token} (quiet : token.isQuiet = true) (clear : Clear tokens) :
    Clear (token :: tokens) := by
  intro rest clean
  simp only [Token.isQuiet, Bool.and_eq_true, Bool.not_eq_eq_eq_not, Bool.not_true] at quiet
  rw [List.cons_append, spellDocs_of_not_isDoc quiet.1, holdsDoc, clear rest clean,
    Bool.or_false, startsDoc, passesEach, quiet.2, Bool.false_and]

theorem enclose (clear : Clear body) (delimiter : Delimiter) : Clear (enclose delimiter body) :=
  (cons rfl clear).append (cons rfl nil)

/-- A separator keeps tokens that hold no attribute apart from what follows. -/
theorem separated (clean : holdsDoc (spellDocs front) = false) (behind : Clear back) :
    Clear (front ++ .mark ':' true :: back) := by
  intro rest none
  have foreign : ∀ test ∈ Token.isMark '#' :: docTests, test (.mark ':' true) = false := by decide
  have whole : spellDocs (front ++ .mark ':' true :: back ++ rest) =
      spellDocs front ++ .mark ':' true :: spellDocs (back ++ rest) := by
    rw [List.append_assoc, spellDocs_append]
    rfl
  rw [whole]
  exact holdsDoc_append foreign clean (behind rest none)

/-- Other attributes are no documentation. -/
theorem attributeOf {spelling : String} (other : spelling ≠ "doc") (clear : Clear body) :
    Clear (attributeOf (.name spelling :: Code.enclose .paren body)) := by
  intro rest clean
  have inside : Clear (Code.enclose .bracket (.name spelling :: Code.enclose .paren body)) :=
    enclose (cons rfl (enclose clear .paren)) .bracket
  have noStart (behind : List Token) :
      startsDoc (Code.mark '#' :: .opening .bracket :: .name spelling :: behind) = false := by
    simp [startsDoc, passesEach, docTests, other]
  have whole := inside rest clean
  rw [Code.attributeOf, List.cons_append, spellDocs_mark, holdsDoc, whole, Bool.or_false]
  exact noStart _

end Clear

end ContractBinder.Code
