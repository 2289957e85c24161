import ContractBinder.Code.Lexer
import ContractBinder.Proofs.Code.Documentation
import ContractBinder.Proofs.Lists

/-!
# Matching brackets

Code is a flat list of tokens, and what its brackets hold is found by counting them. That finds
the right place because brackets match: whatever has matching brackets is skipped as a whole.

Results:

1. `Matched`: tokens whose brackets match, by kind. `Matched.inside_inj`: brackets that match
   are closed in one place.
2. `Matched.splits`: tokens that a reader takes end within a part whose brackets match, or behind
   it.
3. `ClosesEach`: every bracket that is open at the end of what was skipped is closed later.
4. `matched_of_tokens?`: the brackets of a text that is made of tokens match.
-/

namespace ContractBinder.Code

/-- Whether a token is no bracket, and the word that makes items public only if that is allowed. -/
def Token.isTame (pubs : Bool) : Token → Bool
  | .opening _ | .closing _ => false
  | .name spelling => spelling ≠ "pub" || pubs
  | _ => true

/-- `Matched pubs tokens`: the brackets of the tokens match. Outside brackets, the word that makes
items public may be there only if `pubs` says so, or as the name of a lifetime.

* `cons`: any other token in front.
* `lifetime`: a lifetime in front, whatever its name is.
* `group`: brackets in front, with all that they hold. -/
inductive Matched : Bool → List Token → Prop
  | nil {pubs : Bool} : Matched pubs []
  | cons {pubs : Bool} {token : Token} {rest : List Token} :
      token.isTame pubs = true → Matched pubs rest → Matched pubs (token :: rest)
  | lifetime (name : String) {pubs : Bool} {rest : List Token} :
      Matched pubs rest → Matched pubs (.mark '\'' true :: .name name :: rest)
  | group (delimiter : Delimiter) {pubs : Bool} {inside rest : List Token} :
      Matched true inside → Matched pubs rest →
      Matched pubs (.opening delimiter :: inside ++ .closing delimiter :: rest)

theorem Token.isTame_name (spelling : String) : (Token.name spelling).isTame true = true :=
  Bool.or_true _

theorem Token.isTame_weaken {pubs : Bool} {token : Token} (tame : token.isTame pubs = true) :
    token.isTame true = true := by
  cases token with
  | name spelling => exact isTame_name spelling
  | opening _ => cases tame
  | closing _ => cases tame
  | mark | text | number | literal | doc => rfl

variable {pubs : Bool} {tokens front back inside rest : List Token} {delimiter : Delimiter}

/-! ## 1. Matching brackets -/

namespace Matched

theorem weaken (matched : Matched pubs tokens) : Matched true tokens := by
  induction matched with
  | nil => exact nil
  | cons tame _ ih => exact cons (Token.isTame_weaken tame) ih
  | lifetime name _ ih => exact lifetime name ih
  | group delimiter inside _ _ ih => exact group delimiter inside ih

theorem append (first : Matched pubs front) (second : Matched pubs back) :
    Matched pubs (front ++ back) := by
  induction first with
  | nil => exact second
  | cons tame _ ih => exact cons tame (ih second)
  | lifetime name _ ih => exact lifetime name (ih second)
  | group delimiter inside _ _ ih =>
    rw [List.append_assoc]
    exact group delimiter inside (ih second)

theorem single {token : Token} (tame : token.isTame pubs = true) : Matched pubs [token] :=
  cons tame nil

theorem of_forall (tame : ∀ token ∈ tokens, token.isTame pubs = true) : Matched pubs tokens := by
  induction tokens with
  | nil => exact nil
  | cons token rest ih =>
    rw [List.forall_mem_cons] at tame
    exact cons tame.1 (ih tame.2)

theorem enclose (matched : Matched true inside) (delimiter : Delimiter) :
    Matched pubs (enclose delimiter inside) :=
  group delimiter matched nil

theorem intercalate {separator : List Token} {items : List (List Token)}
    (separates : Matched pubs separator) (each : ∀ item ∈ items, Matched pubs item) :
    Matched pubs (separator.intercalate items) :=
  intercalate_closed nil append separates each

theorem pathSep : Matched pubs pathSep :=
  cons rfl (single rfl)

/-- Counting brackets skips what has matching ones. -/
theorem afterBrackets_append (matched : Matched pubs front) (depth : Nat) (back : List Token) :
    afterBrackets depth (front ++ back) = afterBrackets depth back := by
  induction matched generalizing depth back with
  | nil => rfl
  | @cons _ token rest tame _ ih =>
    cases token with
    | opening _ => cases tame
    | closing _ => cases tame
    | name | mark | text | number | literal | doc => exact ih depth back
  | lifetime name _ ih => exact ih depth back
  | group delimiter _ _ ihInside ih =>
    rw [List.append_assoc, List.cons_append, List.cons_append, afterBrackets, ihInside]
    exact ih depth back

theorem afterBrackets_closing (matched : Matched pubs inside) (rest : List Token) :
    afterBrackets 0 (inside ++ .closing delimiter :: rest) = rest :=
  matched.afterBrackets_append 0 _

/-- Brackets are closed in one place. -/
theorem inside_inj {pubs' : Bool} {inside' rest' : List Token} {delimiter' : Delimiter}
    (matched : Matched pubs inside) (matched' : Matched pubs' inside')
    (same : inside ++ .closing delimiter :: rest = inside' ++ .closing delimiter' :: rest') :
    inside = inside' ∧ delimiter = delimiter' ∧ rest = rest' := by
  have behind : rest = rest' := by
    have first : afterBrackets 0 (inside ++ .closing delimiter :: rest) = rest :=
      matched.afterBrackets_closing rest
    rw [← first, same]
    exact matched'.afterBrackets_closing rest'
  subst behind
  have length := congrArg List.length same
  simp only [List.length_append, List.length_cons] at length
  obtain ⟨equal, closings⟩ := List.append_inj same (by omega)
  cases closings
  exact ⟨equal, rfl, rfl⟩

theorem of_cons {token : Token} (tame : token.isTame true = true)
    (matched : Matched pubs (token :: rest)) : Matched true rest := by
  cases matched with
  | cons _ matched => exact matched.weaken
  | lifetime name matched => exact cons (Token.isTame_name name) matched.weaken
  | group => cases tame

theorem of_opening (matched : Matched pubs (.opening delimiter :: rest)) :
    ∃ inside behind, rest = inside ++ .closing delimiter :: behind ∧ Matched true inside ∧
      Matched pubs behind := by
  cases matched with
  | cons tame => cases tame
  | group _ inside behind => exact ⟨_, _, rfl, inside, behind⟩

theorem not_closing (matched : Matched pubs (.closing delimiter :: rest)) : False := by
  cases matched with
  | cons tame => cases tame

end Matched

/-- The tokens do not end within a lifetime. -/
def Whole (tokens : List Token) : Prop :=
  ¬[.mark '\'' true] <:+ tokens

theorem Whole.of_suffix (whole : Whole front) (suffix : back <:+ front) : Whole back :=
  fun inner => whole (inner.trans suffix)

theorem Whole.nil : Whole [] :=
  fun suffix => by simp at suffix

theorem Whole.single {token : Token} (other : token ≠ .mark '\'' true) : Whole [token] := by
  intro suffix
  rcases List.suffix_cons_iff.mp suffix with same | none
  · exact other (List.singleton_inj.mp same).symm
  · exact Whole.nil none

theorem Whole.behind (second : Whole back) (nonempty : back ≠ []) (front : List Token) :
    Whole (front ++ back) := by
  intro suffix
  rcases List.suffix_or_suffix_of_suffix suffix (List.suffix_append front back) with inner | part
  · exact second inner
  · rcases List.suffix_cons_iff.mp part with rfl | none
    · exact second (List.suffix_refl _)
    · exact nonempty (List.suffix_nil.mp none)

theorem Whole.append (first : Whole front) (second : Whole back) : Whole (front ++ back) := by
  cases back with
  | nil => rwa [List.append_nil]
  | cons token back => exact second.behind (List.cons_ne_nil _ _) front

theorem Whole.closing (delimiter : Delimiter) : Whole [.closing delimiter] :=
  single nofun

theorem whole_docAttribute (content : String) : Whole (docAttribute content) :=
  (Whole.closing .bracket).behind (List.cons_ne_nil _ _)
    [mark '#', .opening .bracket, .name "doc", mark '=', .text content]

/-- Where tokens that were taken end, if they start where `front` starts, and `back` is behind that.

* `within`: at a part of `front`.
* `beyond`: further on. -/
inductive Splits (pubs : Bool) (taken rest front back : List Token) : Prop
  | within (others : List Token) :
      front = taken ++ others → rest = others ++ back → Matched true others →
      Splits pubs taken rest front back
  | beyond (more : List Token) :
      taken = front ++ more → back = more ++ rest → more ≠ [] →
      (Whole front → Matched pubs more) → Splits pubs taken rest front back

theorem Splits.append {taken : List Token} (splits : Splits pubs taken rest front back)
    (same : List Token) : Splits pubs (same ++ taken) rest (same ++ front) back := by
  cases splits with
  | within others inFront inRest matched =>
    exact .within others (by rw [inFront, List.append_assoc]) inRest matched
  | beyond more inTaken inBack nonempty matched =>
    exact .beyond more (by rw [inTaken, List.append_assoc]) inBack nonempty fun whole =>
      matched (whole.of_suffix (List.suffix_append _ _))

/-- Tokens with matching brackets end in no brackets that others open. -/
theorem Matched.splits {taken : List Token} (matched : Matched pubs taken)
    (first : Matched true front) (same : taken ++ rest = front ++ back) :
    Splits pubs taken rest front back := by
  induction matched generalizing front with
  | nil => exact .within front rfl same first
  | @cons _ token taken tame matched ih =>
    cases front with
    | nil => exact .beyond _ rfl same.symm (List.cons_ne_nil _ _) fun _ => cons tame matched
    | cons found front =>
      obtain ⟨rfl, later⟩ := List.cons_eq_cons.mp same
      exact (ih (of_cons (Token.isTame_weaken tame) first) later).append [token]
  | @lifetime name _ taken matched ih =>
    cases front with
    | nil => exact .beyond _ rfl same.symm (List.cons_ne_nil _ _) fun _ => lifetime name matched
    | cons found front =>
      obtain ⟨rfl, later⟩ := List.cons_eq_cons.mp same
      cases front with
      | nil =>
        exact .beyond _ rfl later.symm (List.cons_ne_nil _ _) fun whole =>
          absurd (List.suffix_refl _) whole
      | cons found front =>
        obtain ⟨rfl, behind⟩ := List.cons_eq_cons.mp later
        have others := of_cons (Token.isTame_name name) (of_cons rfl first)
        exact (ih others behind).append [.mark '\'' true, .name name]
  | @group delimiter _ inside taken held matched _ ih =>
    cases front with
    | nil =>
      exact .beyond _ rfl same.symm (List.cons_ne_nil _ _) fun _ => group delimiter held matched
    | cons found front =>
      obtain ⟨rfl, later⟩ := List.cons_eq_cons.mp same
      obtain ⟨inside', front, rfl, held', others⟩ := of_opening first
      simp only [List.append_eq, List.append_assoc, List.cons_append] at later
      obtain ⟨rfl, _, behind⟩ := held.inside_inj held' later
      have whole := (ih others behind).append (Code.enclose delimiter inside)
      simpa [Code.enclose] using whole

/-! ## 2. Brackets that are closed later -/

/-- Every bracket that is opened somewhere in the tokens is closed there. More may be closed. -/
def ClosesEach (tokens : List Token) : Prop :=
  ∀ delimiter inside, .opening delimiter :: inside <:+ tokens →
    ∃ held rest, inside = held ++ .closing delimiter :: rest ∧ Matched true held

namespace ClosesEach

theorem nil : ClosesEach [] := by
  intro delimiter inside suffix
  cases List.suffix_nil.mp suffix

theorem of_suffix (closes : ClosesEach tokens) (suffix : rest <:+ tokens) : ClosesEach rest :=
  fun delimiter inside inner => closes delimiter inside (inner.trans suffix)

theorem cons {token : Token} (other : ∀ delimiter, token ≠ .opening delimiter)
    (closes : ClosesEach rest) : ClosesEach (token :: rest) := by
  intro delimiter inside suffix
  rcases List.suffix_cons_iff.mp suffix with whole | inner
  · cases whole
    exact absurd rfl (other delimiter)
  · exact closes delimiter inside inner

theorem append (matched : Matched pubs front) (closes : ClosesEach back) :
    ClosesEach (front ++ back) := by
  induction matched generalizing back with
  | nil => exact closes
  | cons tame _ ih =>
    refine cons (fun delimiter opens => ?_) (ih closes)
    rw [opens] at tame
    cases tame
  | lifetime name _ ih => exact cons nofun (cons nofun (ih closes))
  | @group delimiter _ _ rest held _ ihInside ih =>
    have behind : ClosesEach (.closing delimiter :: rest ++ back) := cons nofun (ih closes)
    intro delimiter' inside suffix
    rw [List.append_assoc] at suffix
    rcases List.suffix_cons_iff.mp suffix with whole | inner
    · cases whole
      exact ⟨_, _, rfl, held⟩
    · exact ihInside behind delimiter' inside inner

end ClosesEach

theorem Matched.closes (matched : Matched pubs tokens) : ClosesEach tokens := by
  have alone := ClosesEach.append matched ClosesEach.nil
  rwa [List.append_nil] at alone

/-! ## 3. Tokens of texts -/

/-- The tokens close the open brackets in order, and otherwise have matching brackets. -/
def ClosesAll : List Delimiter → List Token → Prop
  | [], tokens => Matched true tokens
  | innermost :: outer, tokens =>
    ∃ inside rest, tokens = inside ++ .closing innermost :: rest ∧ Matched true inside ∧
      ClosesAll outer rest

theorem ClosesAll.append {stack : List Delimiter} (matched : Matched true front)
    (closes : ClosesAll stack back) : ClosesAll stack (front ++ back) := by
  cases stack with
  | nil => exact matched.append closes
  | cons innermost outer =>
    obtain ⟨inside, rest, rfl, held, outside⟩ := closes
    exact ⟨front ++ inside, rest, (List.append_assoc _ _ _).symm, matched.append held, outside⟩

theorem ClosesAll.opening {stack : List Delimiter}
    (closes : ClosesAll (delimiter :: stack) tokens) :
    ClosesAll stack (.opening delimiter :: tokens) := by
  obtain ⟨inside, rest, rfl, held, outside⟩ := closes
  have whole := ClosesAll.append (held.enclose delimiter) outside
  rwa [enclose, List.append_assoc] at whole

theorem isTame_of_leaf? {text remaining : List Char} {token : Token}
    (found : leaf? text = some (token, remaining)) : token.isTame true = true := by
  unfold leaf? at found
  split at found
  · cases found
    rfl
  · split at found
    · rename_i marked
      cases found
      unfold mark? at marked
      split at marked
      · cases marked
      · split at marked
        · cases marked
        · split at marked
          · obtain ⟨⟨_, after⟩, _, marked⟩ := Option.bind_eq_some_iff.mp marked
            obtain ⟨_, same⟩ := Option.ite_none_left_eq_some.mp marked
            cases same
            rfl
          · cases marked
            rfl
    · split at found
      · cases found
        rfl
      · unfold name? at found
        split at found
        · cases found
        · obtain ⟨_, _, same⟩ := Option.map_eq_some_iff.mp found
          cases same
          exact Token.isTame_name _

theorem matched_of_docComment? {text rest : List Char}
    (found : docComment? text = some (tokens, rest)) : Matched true tokens := by
  obtain ⟨⟨inner, content, remaining⟩, _, found⟩ := Option.bind_eq_some_iff.mp found
  obtain ⟨_, found⟩ := Option.ite_none_left_eq_some.mp found
  cases inner with
  | true =>
    cases found
    exact .cons rfl (.cons rfl (.enclose (.cons rfl (.cons rfl (.single rfl))) _))
  | false =>
    cases found
    exact .single rfl

theorem closesAll_of_tokensWithin? {bound : Nat} {stack : List Delimiter} {text : List Char}
    (found : tokensWithin? bound stack text = some tokens) : ClosesAll stack tokens := by
  induction bound generalizing stack text tokens with
  | zero => cases found
  | succ bound ih =>
    rw [tokensWithin?] at found
    split at found
    · rename_i comment
      obtain ⟨others, later, rfl⟩ := Option.map_eq_some_iff.mp found
      exact .append (matched_of_docComment? comment) (ih later)
    · split at found
      · split at found
        · rename_i none
          cases found
          rw [List.isEmpty_iff.mp none]
          exact Matched.nil
        · cases found
      · split at found
        · obtain ⟨others, later, rfl⟩ := Option.map_eq_some_iff.mp found
          exact .opening (ih later)
        · split at found
          · split at found
            · cases found
            · split at found
              · rename_i same
                obtain ⟨others, later, rfl⟩ := Option.map_eq_some_iff.mp found
                exact ⟨[], others, by rw [same]; rfl, .nil, ih later⟩
              · cases found
          · obtain ⟨⟨token, remaining⟩, leaf, found⟩ := Option.bind_eq_some_iff.mp found
            obtain ⟨others, later, rfl⟩ := Option.map_eq_some_iff.mp found
            exact .append (.single (isTame_of_leaf? leaf)) (ih later)

/-- The brackets of a text that is made of tokens match. -/
theorem matched_of_tokens? {text : String} (found : tokens? text = some tokens) :
    Matched true tokens :=
  have closes : ClosesAll [] tokens := closesAll_of_tokensWithin? found
  closes

theorem Matched.spellDocs (matched : Matched pubs tokens) : Matched pubs (spellDocs tokens) := by
  induction matched with
  | nil => exact nil
  | @cons pubs token rest tame _ ih =>
    cases isDoc : token.isDoc with
    | false =>
      rw [spellDocs_of_not_isDoc isDoc]
      exact cons tame ih
    | true =>
      cases token with
      | doc content => exact append (cons rfl (enclose (cons rfl (cons rfl (single rfl))) _)) ih
      | name | mark | text | number | literal | opening | closing => cases isDoc
  | lifetime name _ ih => exact lifetime name ih
  | group delimiter _ _ ihInside ih =>
    rw [spellDocs_append]
    exact group delimiter ihInside ih

end ContractBinder.Code
