import ContractBinder.Code.Lexer
import ContractBinder.Proofs.Code.Identifiers
import ContractBinder.Proofs.Text.Splitting

/-!
# Reading names and separators

What the reader of tokens finds at the start of a text that begins with a name
or with a path separator. The only forms that compete with a name there are
quoted texts with a letter in front, so the texts are assumed to hold no quotes
and no hash signs.

Main result: a path of plain names is read as the tokens of this path
(`tokens?_pathText`).
-/

namespace ContractBinder.Code

/-! ## 1. Separators -/

theorem skipTrivia_of_none {text : List Char} (solid : afterTrivium? text = none) :
    skipTrivia text = text := by
  rw [skipTrivia]
  split
  · next found => cases solid.symm.trans found
  · rfl

@[simp] theorem skipTrivia_nil : skipTrivia [] = [] :=
  skipTrivia_of_none rfl

theorem startsWith_cons_of_ne {c d : Char} {rest : List Char} {lead : String}
    (others : List Char) (spelled : lead.toList = d :: others) (different : c ≠ d) :
    startsWith (c :: rest) lead = false := by
  have unequal : (d == c) = false := beq_false_of_ne different.symm
  simp [startsWith, spelled, List.isPrefixOf, unequal]

theorem skipTrivia_cons {c : Char} {rest : List Char} (noComment : c ≠ '/')
    (solid : isSpacing c = false) : skipTrivia (c :: rest) = c :: rest := by
  have slashes : ∀ lead others, lead.toList = '/' :: others →
      startsWith (c :: rest) lead = false :=
    fun lead others spelled => startsWith_cons_of_ne others spelled noComment
  apply skipTrivia_of_none
  simp [afterTrivium?, startsLineComment, startsBlockComment, slashes "//" _ rfl,
    slashes "/*" _ rfl, slashes "/**/" _ rfl, solid]

theorem dropByteOrderMark_cons {c : Char} {rest : List Char} (noMark : c ≠ '\ufeff') :
    dropByteOrderMark (c :: rest) = c :: rest := by
  unfold dropByteOrderMark
  split
  · next marked => exact absurd (List.cons.inj marked).1 noMark
  · rfl

/-! ## 2. Names -/

theorem mem_of_startsWith {text : List Char} {lead : String} (starts : startsWith text lead = true)
    {c : Char} (member : c ∈ lead.toList) : c ∈ text :=
  (List.isPrefixOf_iff_prefix.mp starts).subset member

/-- A text without the marks that quoted texts and raw names have. -/
structure Unquoted (text : List Char) : Prop where
  double : '"' ∉ text
  single : '\'' ∉ text
  hash : '#' ∉ text

theorem Unquoted.of_append (before : List Char) {behind : List Char}
    (clean : Unquoted (before ++ behind)) : Unquoted behind where
  double member := clean.double (List.mem_append_right before member)
  single member := clean.single (List.mem_append_right before member)
  hash member := clean.hash (List.mem_append_right before member)

theorem Unquoted.anyIdentifier? {text : List Char} (clean : Unquoted text) :
    Code.anyIdentifier? text = identifier? text := by
  unfold Code.anyIdentifier?
  split
  · exact absurd (by simp) clean.hash
  · rfl

theorem Unquoted.name? {text : List Char} (clean : Unquoted text) :
    Code.name? text = (identifier? text).map fun (name, rest) => (.name name, rest) := by
  have marked : ∀ lead ∈ quotedBeginnings,
      '"' ∈ lead.toList ∨ '\'' ∈ lead.toList ∨ '#' ∈ lead.toList := by decide
  have noQuote : quotedBeginnings.any (startsWith text) = false := by
    refine List.any_eq_false.mpr fun lead member starts => ?_
    rcases marked lead member with double | single | hash
    · exact clean.double (mem_of_startsWith starts double)
    · exact clean.single (mem_of_startsWith starts single)
    · exact clean.hash (mem_of_startsWith starts hash)
  rw [Code.name?, if_neg (by rw [noQuote]; exact Bool.false_ne_true), clean.anyIdentifier?]

theorem identifier?_cons {c : Char} {rest : List Char} (start : isIdentStart c = true) :
    identifier? (c :: rest) =
      some (String.ofList (c :: rest.takeWhile isIdentContinue),
        rest.dropWhile isIdentContinue) := by
  rw [identifier?, if_pos start]

theorem identifier?_append {name : String} {rest : List Char} (plain : isPlain name = true)
    (ended : ∀ c, rest.head? = some c → isIdentContinue c = false) :
    identifier? (name.toList ++ rest) = some (name, rest) := by
  obtain ⟨first, others, spelled, start, continues⟩ := isPlain_iff.mp plain
  have noMore : rest.takeWhile isIdentContinue = [] ∧ rest.dropWhile isIdentContinue = rest := by
    cases rest with
    | nil => exact ⟨rfl, rfl⟩
    | cons c rest => simp [ended c rfl]
  rw [spelled, List.cons_append, identifier?_cons start,
    List.takeWhile_append_of_pos continues, List.dropWhile_append_of_pos continues,
    noMore.1, noMore.2, List.append_nil, ← spelled, String.ofList_toList]

theorem eq_append_of_identifier? {name : String} {text rest : List Char}
    (found : identifier? text = some (name, rest)) :
    isPlain name = true ∧ text = name.toList ++ rest := by
  cases text with
  | nil => cases found
  | cons c others =>
    rw [identifier?] at found
    split at found
    · next start =>
      cases found
      refine ⟨isPlain_iff.mpr ⟨c, others.takeWhile isIdentContinue, String.toList_ofList, start,
        List.all_eq_true.mp List.all_takeWhile⟩, ?_⟩
      rw [String.toList_ofList, List.cons_append, List.takeWhile_append_dropWhile]
    · cases found

/-- A text in which nothing stands around a name that could be skipped. -/
structure Bare (text : List Char) : Prop extends Unquoted text where
  solid : ∀ c ∈ text, isSpacing c = false
  noSlash : '/' ∉ text
  noMark : '\ufeff' ∉ text

theorem Bare.of_sublist {text part : List Char} (bare : Bare text) (smaller : part.Sublist text) :
    Bare part where
  double member := bare.double (smaller.subset member)
  single member := bare.single (smaller.subset member)
  hash member := bare.hash (smaller.subset member)
  solid c member := bare.solid c (smaller.subset member)
  noSlash member := bare.noSlash (smaller.subset member)
  noMark member := bare.noMark (smaller.subset member)

theorem Bare.skipTrivia {text : List Char} (bare : Bare text) : Code.skipTrivia text = text := by
  cases text with
  | nil => exact skipTrivia_nil
  | cons c rest =>
    exact skipTrivia_cons (fun slash => bare.noSlash (slash ▸ List.mem_cons_self))
      (bare.solid c List.mem_cons_self)

theorem Bare.dropByteOrderMark {text : List Char} (bare : Bare text) :
    Code.dropByteOrderMark text = text := by
  cases text with
  | nil => rfl
  | cons c rest =>
    exact dropByteOrderMark_cons fun mark => bare.noMark (mark ▸ List.mem_cons_self)

/-- In such a text there is only one name exactly if the text is this name. -/
theorem Bare.soleName?_eq_some_iff {name sole : String} (bare : Bare name.toList) :
    soleName? name = some sole ↔ isPlain name = true ∧ sole = name := by
  rw [soleName?, bare.dropByteOrderMark, bare.skipTrivia, bare.toUnquoted.name?]
  constructor
  · intro found
    cases read : identifier? name.toList with
    | none => simp [read] at found
    | some result =>
      obtain ⟨first, rest⟩ := result
      obtain ⟨plain, whole⟩ := eq_append_of_identifier? read
      have kept : Code.skipTrivia rest = rest :=
        (bare.of_sublist (whole ▸ List.sublist_append_right _ _)).skipTrivia
      simp only [read, Option.map_some, kept] at found
      split at found
      · next nothing =>
        cases found
        rw [List.isEmpty_iff.mp nothing, List.append_nil] at whole
        rw [String.toList_inj.mp whole]
        exact ⟨plain, rfl⟩
      · cases found
  · rintro ⟨plain, rfl⟩
    have whole := identifier?_append plain (fun _ (h : [].head? = some _) => nomatch h)
    rw [List.append_nil] at whole
    simp [whole]

/-! ## 3. Literals -/

theorem afterRawStart?_eq_none {form : Literal.QuotedForm} {text : List Char}
    (clean : '"' ∉ text) : Literal.afterRawStart? form text = none := by
  unfold Literal.afterRawStart?
  simp only
  split
  · next found =>
    refine absurd ?_ clean
    exact (List.dropWhile_sublist _).subset (found ▸ List.mem_cons_self)
  · rfl

theorem Unquoted.afterQuotedForm? {text : List Char} (clean : Unquoted text) :
    Literal.afterQuotedForm? text = none := by
  have double := clean.double
  have single := clean.single
  unfold Literal.afterQuotedForm?
  simp only
  split
  · exact absurd List.mem_cons_self double
  · exact absurd List.mem_cons_self single
  · exact absurd (by simp) double
  · exact afterRawStart?_eq_none fun member => double (by simp [member])
  · exact absurd (by simp) single
  · exact absurd (by simp) double
  · exact afterRawStart?_eq_none fun member => double (by simp [member])
  · exact afterRawStart?_eq_none fun member => double (by simp [member])
  · rfl

theorem afterNumber?_eq_none {c : Char} {rest : List Char} (noDigit : c.isDigit = false) :
    Literal.afterNumber? (c :: rest) = none := by
  have noZero : c ≠ '0' := by
    rintro rfl
    cases noDigit
  have noFraction : Literal.afterFraction? (c :: rest) = none := by
    simp [Literal.afterFraction?, noDigit]
  have noWhole : Literal.afterWhole? (c :: rest) = none := by
    unfold Literal.afterWhole?
    split
    · next hexadecimal => exact absurd (List.cons.inj hexadecimal).1 noZero
    · next octal => exact absurd (List.cons.inj octal).1 noZero
    · next binary => exact absurd (List.cons.inj binary).1 noZero
    · simp [Literal.afterDigits?, noDigit]
  simp [Literal.afterNumber?, noFraction, noWhole]

theorem Unquoted.afterLiteral? {c : Char} {rest : List Char} (clean : Unquoted (c :: rest))
    (noDigit : c.isDigit = false) : Literal.after? (c :: rest) = none := by
  simp [Literal.after?, clean.afterQuotedForm?, afterNumber?_eq_none noDigit]

/-! ## 4. Tokens -/

/-- A character at which a token starts that is neither a comment nor a bracket. -/
structure StartsLeaf (c : Char) : Prop where
  solid : isSpacing c = false
  noSlash : c ≠ '/'
  noOpening : c ∉ ['(', '[', '\x7b']
  noClosing : c ∉ [')', ']', '\x7d']

theorem startsLeaf_colon : StartsLeaf ':' :=
  ⟨by decide, by decide, by decide, by decide⟩

/-- A character at which a name starts, and nothing else. -/
structure StartsName (c : Char) : Prop extends StartsLeaf c where
  noDigit : c.isDigit = false
  noOperator : c ∉ operatorChars

theorem startsName_of_isIdentStart {c : Char} (start : isIdentStart c = true) : StartsName c := by
  have others : (operatorChars ++ (['(', '[', '\x7b'] ++ [')', ']', '\x7d'])).any isIdentStart =
      false := by decide
  have foreign : c ∉ operatorChars ++ (['(', '[', '\x7b'] ++ [')', ']', '\x7d']) :=
    fun member => List.any_eq_false.mp others c member start
  have noDigit : c.isDigit = false := by
    refine Bool.eq_false_iff.mpr fun digit => ?_
    rw [Text.isDigit_iff] at digit
    have noUnderscore : c ≠ '_' := by
      rintro rfl
      exact absurd digit (by decide)
    have ascii : c.toNat < 0x80 := by omega
    simp only [isIdentStart, beq_false_of_ne noUnderscore, Text.isNameStart, if_pos ascii,
      Bool.false_or, Text.isAlpha_iff] at start
    omega
  exact
    { noDigit
      noOperator := fun operator => foreign (List.mem_append_left _ operator)
      solid := isSpacing_of_isIdentContinue (isIdentContinue_of_isIdentStart start)
      noSlash := fun slash => foreign (slash ▸ by decide)
      noOpening := fun opening =>
        foreign (List.mem_append_right _ (List.mem_append_left _ opening))
      noClosing := fun closing =>
        foreign (List.mem_append_right _ (List.mem_append_right _ closing)) }

theorem leaf?_name {name : String} {rest : List Char} (plain : isPlain name = true)
    (clean : Unquoted (name.toList ++ rest))
    (ended : ∀ c, rest.head? = some c → isIdentContinue c = false) :
    leaf? (name.toList ++ rest) = some (.name name, rest) := by
  have found := clean.name?
  rw [identifier?_append plain ended] at found
  obtain ⟨first, others, spelled, start, _⟩ := isPlain_iff.mp plain
  rw [spelled, List.cons_append] at clean found ⊢
  have starts := startsName_of_isIdentStart start
  have noMark : mark? (first :: (others ++ rest)) = none := by
    simp [mark?, startsOperator, starts.noOperator]
  have noParen : first ≠ '(' := by
    rintro rfl
    exact starts.noOpening (by decide)
  have readable : startsWith (first :: (others ++ rest)) unreadable = false :=
    startsWith_cons_of_ne "/*ERROR*/)".toList rfl noParen
  simp [leaf?, clean.afterLiteral? starts.noDigit, noMark, readable, found]

theorem startsOperator_colon (rest : List Char) : startsOperator (':' :: rest) = true := by
  have noLine : startsWith (':' :: rest) "//" = false :=
    startsWith_cons_of_ne ['/'] rfl (by decide)
  have noBlock : startsWith (':' :: rest) "/*" = false :=
    startsWith_cons_of_ne ['*'] rfl (by decide)
  simp only [startsOperator, noLine, noBlock]
  decide

theorem leaf?_colon {rest : List Char} (clean : Unquoted (':' :: rest)) :
    leaf? (':' :: rest) = some (.mark ':' (startsOperator rest), rest) := by
  have isMark : mark? (':' :: rest) = some (.mark ':' (startsOperator rest), rest) := by
    simp only [mark?, startsOperator_colon]
    rfl
  simp [leaf?, clean.afterLiteral? rfl, isMark]

theorem StartsLeaf.tokensWithin? {c : Char} {rest remaining : List Char} {token : Token}
    (starts : StartsLeaf c) (leaf : leaf? (c :: rest) = some (token, remaining)) (bound : Nat) :
    Code.tokensWithin? (bound + 1) [] (c :: rest) =
      (Code.tokensWithin? bound [] remaining).map (token :: ·) := by
  have slashes : ∀ lead others, lead.toList = '/' :: others →
      startsWith (c :: rest) lead = false :=
    fun lead others spelled => startsWith_cons_of_ne others spelled starts.noSlash
  have noDoc : docComment? (c :: rest) = none := by
    simp [docComment?, slashes "//!" _ rfl, slashes "/*!" _ rfl, slashes "///" _ rfl,
      slashes "/**" _ rfl]
  have noOpening : opening? (c :: rest) = none := by
    unfold opening?
    split
    · next paren =>
      cases paren
      exact absurd (by decide) starts.noOpening
    · next bracket =>
      cases bracket
      exact absurd (by decide) starts.noOpening
    · next brace =>
      cases brace
      exact absurd (by decide) starts.noOpening
    · rfl
  have noClosing : closing? c = none := by
    unfold closing?
    split
    · exact absurd (by decide) starts.noClosing
    · exact absurd (by decide) starts.noClosing
    · exact absurd (by decide) starts.noClosing
    · rfl
  rw [Code.tokensWithin?, skipTrivia_cons starts.noSlash starts.solid]
  simp [noDoc, noOpening, noClosing, leaf]

theorem tokensWithin?_name {name : String} {rest : List Char} (plain : isPlain name = true)
    (clean : Unquoted (name.toList ++ rest))
    (ended : ∀ c, rest.head? = some c → isIdentContinue c = false) (bound : Nat) :
    tokensWithin? (bound + 1) [] (name.toList ++ rest) =
      (tokensWithin? bound [] rest).map (.name name :: ·) := by
  have leaf := leaf?_name plain clean ended
  obtain ⟨first, others, spelled, start, _⟩ := isPlain_iff.mp plain
  rw [spelled, List.cons_append] at leaf ⊢
  exact (startsName_of_isIdentStart start).toStartsLeaf.tokensWithin? leaf bound

theorem tokensWithin?_separator {name : String} {rest : List Char} (plain : isPlain name = true)
    (clean : Unquoted (':' :: ':' :: (name.toList ++ rest))) (bound : Nat) :
    tokensWithin? (bound + 2) [] (':' :: ':' :: (name.toList ++ rest)) =
      (tokensWithin? bound [] (name.toList ++ rest)).map (pathSep ++ ·) := by
  obtain ⟨first, others, spelled, start, _⟩ := isPlain_iff.mp plain
  have inner : Unquoted (':' :: (name.toList ++ rest)) := clean.of_append [':']
  have last : startsOperator (name.toList ++ rest) = false := by
    rw [spelled, List.cons_append]
    simp [startsOperator, (startsName_of_isIdentStart start).noOperator]
  rw [startsLeaf_colon.tokensWithin? (leaf?_colon clean),
    startsLeaf_colon.tokensWithin? (leaf?_colon inner), startsOperator_colon, last,
    Option.map_map]
  rfl

/-! ## 5. Paths -/

/-- The text of a path: names with separators between them, and another one in
front if the path is absolute. -/
def pathText (absolute : Bool) (names : List String) : String :=
  (if absolute then "::" else "") ++ "::".intercalate names

/-- Names with a separator in front of each. -/
def separated (names : List String) : List Char :=
  names.flatMap fun name => ':' :: ':' :: name.toList

/-- The tokens of names with a separator in front of each. -/
def separatedTokens (names : List String) : List Token :=
  names.flatMap fun name => pathSep ++ [.name name]

theorem toList_pathText (absolute : Bool) (first : String) (others : List String) :
    (pathText absolute (first :: others)).toList =
      (if absolute then [':', ':'] else []) ++ (first.toList ++ separated others) := by
  have lead : (if absolute then "::" else "").toList = if absolute then [':', ':'] else [] := by
    cases absolute <;> rfl
  rw [pathText, String.toList_append, String.toList_intercalate, List.map_cons,
    Text.intercalate_cons, lead, List.flatMap_map]
  rfl

theorem pathOf_cons (absolute : Bool) (first : String) (others : List String) :
    pathOf absolute (first :: others) =
      (if absolute then pathSep else []) ++
        (.name first :: separatedTokens others) := by
  rw [pathOf, List.map_cons, Text.intercalate_cons, List.flatMap_map]
  rfl

@[simp] theorem commaSeparated_singleton (tokens : List Token) :
    commaSeparated [tokens] = tokens :=
  List.intercalate_singleton

@[simp] theorem commaSeparated_cons_cons (first second : List Token) (others : List (List Token)) :
    commaSeparated (first :: second :: others) =
      first ++ mark ',' :: commaSeparated (second :: others) := by
  simp [commaSeparated, List.intercalate_cons_cons]

theorem unquoted_of_path {text : List Char}
    (chars : ∀ c ∈ text, isIdentContinue c = true ∨ c = ':') : Unquoted text := by
  have absent : ∀ d, isIdentContinue d = false → d ≠ ':' → d ∉ text := by
    intro d noName noColon member
    rcases chars d member with name | colon
    · rw [noName] at name
      cases name
    · exact noColon colon
  exact ⟨absent _ rfl (by decide), absent _ rfl (by decide), absent _ rfl (by decide)⟩

theorem unquoted_separated {first : String} {others : List String}
    (plain : ∀ name ∈ first :: others, isPlain name = true) :
    Unquoted (':' :: ':' :: (first.toList ++ separated others)) := by
  refine unquoted_of_path fun c member => ?_
  change c ∈ separated (first :: others) at member
  obtain ⟨name, listed, inside⟩ := List.mem_flatMap.mp member
  simp only [List.mem_cons] at inside
  rcases inside with colon | colon | spelled
  · exact .inr colon
  · exact .inr colon
  · exact .inl (isIdentContinue_of_isPlain (plain name listed) spelled)

theorem head?_separated (names : List String) :
    ∀ c, (separated names).head? = some c → isIdentContinue c = false := by
  cases names with
  | nil => exact fun _ h => nomatch h
  | cons name names =>
    rintro c ⟨⟩
    decide

theorem tokensWithin?_names {first : String} {others : List String}
    (plain : ∀ name ∈ first :: others, isPlain name = true) {bound : Nat}
    (enough : (first.toList ++ separated others).length < bound) :
    tokensWithin? bound [] (first.toList ++ separated others) =
      some (.name first :: separatedTokens others) := by
  -- A name takes one round and a separator takes two, so a round a character is enough.
  induction others generalizing first bound with
  | nil =>
    have clean := (unquoted_separated plain).of_append [':', ':']
    obtain ⟨_, _, spelled, _, _⟩ := isPlain_iff.mp (plain first List.mem_cons_self)
    simp only [List.length_append, spelled, List.length_cons] at enough
    obtain ⟨more, rfl⟩ : ∃ more, bound = more + 2 := ⟨bound - 2, by omega⟩
    rw [tokensWithin?_name (plain first List.mem_cons_self) clean (head?_separated [])]
    simp [separated, separatedTokens, tokensWithin?, docComment?, startsWith]
  | cons second others ih =>
    have clean := (unquoted_separated plain).of_append [':', ':']
    have later : ∀ name ∈ second :: others, isPlain name = true :=
      fun name member => plain name (List.mem_cons_of_mem first member)
    obtain ⟨_, _, spelled, _, _⟩ := isPlain_iff.mp (plain first List.mem_cons_self)
    have split : separated (second :: others) =
        ':' :: ':' :: (second.toList ++ separated others) := rfl
    simp only [split, List.length_append, spelled, List.length_cons] at enough
    obtain ⟨more, rfl⟩ : ∃ more, bound = more + 3 := ⟨bound - 3, by omega⟩
    rw [tokensWithin?_name (plain first List.mem_cons_self) clean (head?_separated _), split,
      tokensWithin?_separator (later second List.mem_cons_self) (unquoted_separated later),
      ih later (by simp only [List.length_append]; omega)]
    rfl

/-- The text of a path of plain names is read as the tokens of this path. -/
theorem tokens?_pathText {absolute : Bool} {names : List String} (nonempty : names ≠ [])
    (plain : ∀ name ∈ names, isPlain name = true) :
    tokens? (pathText absolute names) = some (pathOf absolute names) := by
  cases names with
  | nil => exact absurd rfl nonempty
  | cons first others =>
    have plainFirst := plain first List.mem_cons_self
    rw [tokens?, pathOf_cons]
    simp only [toList_pathText]
    cases absolute with
    | false =>
      obtain ⟨c, rest, spelled, start, _⟩ := isPlain_iff.mp plainFirst
      have noMark : c ≠ '\ufeff' := by
        rintro rfl
        exact absurd start (by decide +kernel)
      have kept : dropByteOrderMark (first.toList ++ separated others) =
          first.toList ++ separated others := by
        rw [spelled, List.cons_append, dropByteOrderMark_cons noMark]
      simp only [Bool.false_eq_true, if_false, List.nil_append, kept]
      exact tokensWithin?_names plain (Nat.lt_succ_self _)
    | true =>
      simp only [if_true, List.cons_append, List.nil_append,
        dropByteOrderMark_cons (c := ':') (by decide), List.length_cons]
      rw [tokensWithin?_separator plainFirst (unquoted_separated plain),
        tokensWithin?_names plain (Nat.lt_succ_self _)]
      rfl

end ContractBinder.Code
