import ContractBinder.Proofs.Code.Accepting.Types

/-!
# Expressions that are read as they are written

A value is followed by calls, members and passed on failures, so `IsValue` says where its reader
goes on: behind the value, with whatever of these comes next. An expression (`IsExpression`) has
come to its end.

Results:

1. `isValue_path`, `isValue_record`, `isValue_tuple`, and so on: values that generated code has.
2. `IsValue.call`, `IsValue.dot`, `IsValue.callWith` and `IsValue.attempted`: what follows a value
   makes another value of it.
3. `IsValue.isExpression`: a value behind which nothing follows is an expression.
-/

namespace ContractBinder.Code

open Reader Grammar PathReading

variable {nested : Nested} {name last : String} {front names : List String} {records : Bool}
  {tokens rest : List Token} {items types : List (List Token)} {depth : Nat} {progress : Progress}
  {behind : List Token → Prop}

/-! ## 1. Where expressions start and end -/

/-- What follows is not a part of a value, apart from what can follow any value. -/
structure EndsValue (rest : List Token) : Prop extends EndsPath rest where
  braces : (Sign.opening .brace).starts rest = false
  hash : (Sign.mark "#").starts rest = false

/-- What follows is not an operator, and nothing that can follow any value. -/
structure EndsOperand (rest : List Token) : Prop extends EndsPath rest where
  call : (Sign.opening .paren).starts rest = false
  element : (Sign.opening .bracket).starts rest = false
  member : (Sign.mark ".").starts rest = false
  failure : (Sign.mark "?").starts rest = false
  operator : binaryOperator? rest = none
  assignment : startsAssignment rest = false
  range : (Sign.mark "..").starts rest = false
  words : ∀ word, (Sign.word word).starts rest = false

/-- What follows is not a part of an expression. -/
structure EndsExpression (rest : List Token) : Prop extends EndsValue rest, EndsOperand rest

theorem endsExpression_comma (rest : List Token) : EndsExpression (mark ',' :: rest) :=
  ⟨⟨⟨rfl, rfl, rfl, rfl⟩, rfl, rfl⟩, rfl, rfl, rfl, rfl, rfl, rfl, rfl, fun _ => rfl⟩

theorem endsExpression_semicolon (rest : List Token) : EndsExpression (mark ';' :: rest) :=
  ⟨⟨⟨rfl, rfl, rfl, rfl⟩, rfl, rfl⟩, rfl, rfl, rfl, rfl, rfl, rfl, rfl, fun _ => rfl⟩

theorem endsExpression_closing (delimiter : Delimiter) (rest : List Token) :
    EndsExpression (.closing delimiter :: rest) :=
  ⟨⟨⟨rfl, rfl, rfl, rfl⟩, rfl, rfl⟩, rfl, rfl, rfl, rfl, rfl, rfl, rfl, fun _ => rfl⟩

/-- What comes first is neither an attribute nor an operator in front of an operand. -/
structure BeginsValue (tokens : List Token) : Prop where
  unmarked : (Sign.mark "#").starts tokens = false
  reference : (Sign.mark "&").starts tokens = false
  prefixed : ([.mark "*", .mark "!", .mark "-"] : List Sign).find? (·.starts tokens) = none
  goesOn : atEnd tokens = false

theorem BeginsPath.beginsValue (begins : BeginsPath tokens) : BeginsValue tokens where
  unmarked := begins.no_mark _ rfl (by decide)
  reference := begins.no_mark _ rfl (by decide)
  prefixed := by
    simp [begins.no_mark "*" rfl (by decide),
      begins.no_mark "!" rfl (by decide),
      begins.no_mark "-" rfl (by decide)]
  goesOn := begins.atEnd_eq_false

theorem outerAttributes_none (none : (Sign.mark "#").starts progress.rest = false) :
    outerAttributes nested progress = .ok (false, progress) := by
  have stops : repeatWhile (do
      if ← accept (.mark "#") then
        brackets .bracket (attributeContent nested)
        return true
      else return false) progress = .ok ((), progress) :=
    repeatWhile_none (bind_apply (accept_missing none))
  rw [outerAttributes, comes_bind, bind_apply stops, none]
  rfl

/-- An operand without attributes and operators is a value with what follows it. -/
theorem operand_of_beginsValue (begins : BeginsValue progress.rest) :
    operand nested records progress = (value nested records >>= fun first => get >>= fun here =>
      trailersUpTo nested here.limit first) progress := by
  have noPrefix : acceptAny [.mark "*", .mark "!", .mark "-"] progress = .ok (false, progress) := by
    rw [acceptAny, upcoming_bind, begins.prefixed]
    rfl
  rw [operand, bind_apply (outerAttributes_none begins.unmarked),
    accept_bind_missing begins.reference]
  simp only [Bool.false_eq_true, ↓reduceIte]
  rw [bind_apply noPrefix]
  simp only [Bool.false_eq_true, ↓reduceIte, Bool.false_and, bind_pure]

/-! ## 2. Values and expressions -/

/-- The tokens are read as a value. What follows is read as calls, members and passed on failures
behind it. -/
structure IsValue (tokens : List Token) : Prop where
  begins : ∀ rest, BeginsValue (tokens ++ rest)
  reads : ∀ depth rest written unread limit, 8 * tokens.length ≤ depth + 2 → EndsValue rest →
    (tokens ++ rest).length < limit → ∃ bound, rest.length < bound ∧
      operand (nestedUpTo depth) true ⟨tokens ++ rest, written, unread, limit⟩ =
        trailersUpTo (nestedUpTo depth) bound .plain
          ⟨rest, (apart tokens).reverse ++ written, unread, limit⟩

/-- The tokens are read as an operand up to the end of an expression. -/
structure IsExpression (tokens : List Token) : Prop where
  goesOn : ∀ rest, atEnd (tokens ++ rest) = false
  reads : ∀ depth, 8 * tokens.length ≤ depth + 2 →
    Accepts (operand (nestedUpTo depth) true) tokens .plain EndsExpression

theorem trailersUpTo_none (ends : EndsOperand progress.rest) (bound : Nat) (form : Form) :
    trailersUpTo nested bound form progress = .ok (form, progress) := by
  cases bound with
  | zero => rfl
  | succ bound =>
    rw [trailersUpTo, comes_bind, comes_bind, comes_bind]
    simp only [ends.call, ends.member, Bool.false_and, Bool.false_eq_true, ↓reduceIte]
    rw [comes_bind]
    simp only [ends.element, Bool.false_eq_true, ↓reduceIte]
    rw [comes_bind]
    simp only [ends.failure, Bool.false_and, Bool.false_eq_true, ↓reduceIte]
    rfl

theorem IsValue.isExpression (isValue : IsValue tokens) : IsExpression tokens where
  goesOn rest := (isValue.begins rest).goesOn
  reads := by
    intro depth deep rest written unread limit follows enough
    obtain ⟨bound, _, reads⟩ :=
      isValue.reads depth rest written unread limit deep follows.toEndsValue enough
    exact reads.trans (trailersUpTo_none follows.toEndsOperand bound .plain)

theorem operationsUpTo_none (ends : EndsOperand progress.rest) (base : Precedence)
    (bound : Nat) (form : Form) :
    operationsUpTo nested base records bound form progress = .ok (form, progress) := by
  cases bound with
  | zero => rfl
  | succ bound =>
    rw [operationsUpTo, upcoming_bind, ends.operator]
    simp only [ends.assignment, ends.range, ends.words, Bool.and_false, Bool.false_eq_true,
      ↓reduceIte]
    split <;> rfl

theorem IsExpression.accepts (isExpression : IsExpression tokens)
    (deep : 8 * tokens.length ≤ depth) :
    Accepts (nestedUpTo depth (.expression true)) tokens .plain EndsExpression := by
  have some : tokens ≠ [] := by
    rintro rfl
    exact absurd (isExpression.goesOn []) (by decide)
  have := List.length_pos_iff.mpr some
  obtain ⟨depth, rfl⟩ : ∃ fewer, depth = fewer + 2 := ⟨depth - 2, by omega⟩
  intro rest written unread limit follows enough
  have marked : nestedUpTo (depth + 2) (.expression true)
      ⟨tokens ++ rest, written, unread, limit⟩ =
      (operand (nestedUpTo depth) true >>= fun first => get >>= fun here =>
        operationsUpTo (nestedUpTo depth) .jump true here.limit first)
          ⟨tokens ++ rest, written, unread, limit⟩ := rfl
  rw [marked, bind_apply (isExpression.reads depth deep _ _ _ _ follows enough), get_bind]
  exact operationsUpTo_none follows.toEndsOperand .jump limit .plain

theorem IsExpression.discarded (isExpression : IsExpression tokens)
    (deep : 8 * tokens.length ≤ depth) :
    Accepts (discard (nestedUpTo depth (.expression true))) tokens () EndsExpression :=
  (isExpression.accepts deep).discard

/-- Expressions with commas between them, inside brackets. -/
theorem accepts_expressions (each : ∀ item ∈ items, IsExpression item)
    (deep : 8 * (commaSeparated items).length ≤ depth) :
    Accepts (commaItemsInside (discard (nestedUpTo depth).expression)) (commaSeparated items) ()
      Closing :=
  (accepts_commaItemsInside
    (fun item listed => (each item listed).discarded
      ((Nat.mul_le_mul_left 8 (length_le_commaSeparated listed)).trans deep))
    (fun item listed => (each item listed).goesOn) endsExpression_comma
    fun _ ⟨delimiter, back, same⟩ => same ▸ ⟨rfl, endsExpression_closing delimiter back⟩).1

/-! ## 3. Values by themselves -/

theorem isValue_of_accepts (begins : ∀ rest, BeginsValue (tokens ++ rest))
    (accepts : ∀ depth, 8 * tokens.length ≤ depth + 2 →
      Accepts (value (nestedUpTo depth) true) tokens .plain EndsValue) : IsValue tokens where
  begins := begins
  reads := by
    intro depth rest written unread limit deep follows enough
    have shorter : rest.length < limit := by
      rw [List.length_append] at enough
      omega
    refine ⟨limit, shorter, ?_⟩
    have read := accepts depth deep rest written unread limit follows enough
    rw [operand_of_beginsValue (begins rest), bind_apply read, get_bind]

theorem isValue_text (content : String) : IsValue (textOf content) :=
  isValue_of_accepts (fun _ => ⟨rfl, rfl, rfl, rfl⟩) fun _ _ _ _ _ _ _ _ => rfl

theorem isValue_number (number : Nat) : IsValue (numberOf number) :=
  isValue_of_accepts (fun _ => ⟨rfl, rfl, rfl, rfl⟩) fun _ _ _ _ _ _ _ _ => rfl

theorem isValue_tuple (each : ∀ item ∈ items, IsExpression item) :
    IsValue (enclose .paren (commaSeparated items)) := by
  refine isValue_of_accepts (fun _ => ⟨rfl, rfl, rfl, rfl⟩) fun depth deep => ?_
  simp only [enclose, List.cons_append, List.length_cons, List.length_append] at deep
  have inside : Accepts (commaItemsInside (discard (nestedUpTo depth).expression))
      (commaSeparated items) () Closing := accepts_expressions each (by omega)
  exact (inside.brackets.map (f := fun _ => Form.plain)).of_eq fun _ _ _ _ _ => rfl

theorem comesBinder_of_beginsPath (begins : BeginsPath progress.rest) :
    comesBinder progress = .ok (false, progress) := by
  simp only [comesBinder, comesSecond_bind, comesThird_bind, comes_bind,
    begins.no_word "for" rfl (by decide), Bool.false_and]
  rfl

theorem value_of_beginsPath (begins : BeginsPath progress.rest)
    (noHash : (Sign.mark "#").starts (afterFirst progress.rest) = false) :
    value nested records progress = pathValue nested records progress := by
  have noWord (word : String) (reserved : isReserved word = true) (other : word ∉ enclosingWords) :
      (Sign.word word).starts progress.rest = false := begins.no_word _ reserved other
  have noLiteral : Sign.literal.starts progress.rest = false := by
    show (literal? progress.rest).isSome = false
    rw [begins.literal?_eq_none]
    rfl
  have noAsync : comesAsyncBlock progress = .ok (false, progress) := by
    simp only [comesAsyncBlock, comesSecond_bind, comesThird_bind, comes_bind,
      noWord "async" rfl (by decide), Bool.false_and]
    rfl
  have noMarked : ([.mark "|", .word "move", .word "static"] : List Sign).any
      (·.starts progress.rest) = false := by
    simp [begins.no_mark "|" rfl (by decide), noWord "move" rfl (by decide),
      noWord "static" rfl (by decide)]
  have noClosure : comesClosure progress = .ok (false, progress) := by
    rw [comesClosure, comesAny_bind, noMarked, bind_apply (comesBinder_of_beginsPath begins)]
    simp only [comes_bind, comesSecond_bind, noWord "const" rfl (by decide),
      noWord "async" rfl (by decide), Bool.false_and]
    rfl
  have path : comesPath progress = .ok (true, progress) := by
    have starts := begins.some_start pathStarts (by decide) (by decide) (by decide)
    simp only [comesPath, comes_bind, comesSecond_bind, comesAny_bind, starts, Bool.true_or]
    rfl
  rw [value, get_bind, accept_bind_missing noLiteral]
  simp only [Bool.false_eq_true, ↓reduceIte]
  rw [bind_apply noAsync]
  simp only [Bool.false_eq_true, ↓reduceIte]
  rw [comes_bind, comesSecond_bind]
  simp only [noWord "try" rfl (by decide), Bool.false_and, Bool.false_eq_true, ↓reduceIte]
  rw [bind_apply noClosure]
  simp only [Bool.false_eq_true, ↓reduceIte]
  rw [comes_bind, comesSecond_bind]
  simp only [noHash, Bool.and_false, Bool.false_eq_true, ↓reduceIte]
  rw [bind_apply path]
  rfl

/-- A path is read, and the fields in braces behind it, if there are any and may be any. -/
theorem pathValue_eq {found : Path} {written : List Token} {unread : Option Delimiter} {limit : Nat}
    (begins : BeginsPath (tokens ++ rest)) (follows : EndsPath rest)
    (taken : Takes (path nested true) tokens [] found EndsPath)
    (same : found.tokens = apart tokens) (enough : (tokens ++ rest).length < limit) :
    pathValue nested records ⟨tokens ++ rest, written, unread, limit⟩ =
      (if records && (Sign.opening .brace).starts rest then
        brackets .brace (commaItems ends (recordField nested)) >>= fun _ => pure .plain
      else pure .plain) ⟨rest, (apart tokens).reverse ++ written, unread, limit⟩ := by
  have noAngle := begins.no_mark "<" rfl (by decide)
  have read : valuePath nested ⟨tokens ++ rest, written, unread, limit⟩ =
      .ok (some found, ⟨rest, written, unread, limit⟩) := by
    rw [valuePath, comes_bind]
    simp only [noAngle, Bool.false_eq_true, ↓reduceIte]
    rw [bind_apply (taken _ _ _ _ follows enough)]
    rfl
  have write : Reader.write found.tokens ⟨rest, written, unread, limit⟩ =
      .ok ((), ⟨rest, (apart tokens).reverse ++ written, unread, limit⟩) := by
    rw [← same]
    rfl
  have noMacro (progress : Progress) (here : progress.rest = rest) :
      comesMacro found progress = .ok (false, progress) := by
    rw [comesMacro, comes_bind, comes_bind, here, follows.bang, Bool.and_false, Bool.false_and]
    rfl
  rw [pathValue, bind_apply read]
  simp only [Option.map_some, Option.getD_some]
  rw [bind_apply write, bind_apply (noMacro _ rfl)]
  simp only [Bool.false_eq_true, ↓reduceIte]
  rw [comes_bind]

theorem isValue_of_takes_path {found : Path} (begins : ∀ rest, BeginsPath (tokens ++ rest))
    (second : ∀ rest, (Sign.mark "#").starts rest = false →
      (Sign.mark "#").starts (afterFirst (tokens ++ rest)) = false)
    (taken : ∀ depth, 8 * tokens.length ≤ depth + 2 →
      Takes (path (nestedUpTo depth) true) tokens [] found EndsPath)
    (written : found.tokens = apart tokens) : IsValue tokens := by
  refine isValue_of_accepts (fun rest => (begins rest).beginsValue) fun depth deep => ?_
  intro rest wrote unread limit follows enough
  rw [value_of_beginsPath (begins rest) (second rest follows.hash),
    pathValue_eq (begins rest) follows.toEndsPath (taken depth deep) written enough]
  simp only [follows.braces, Bool.and_false, Bool.false_eq_true, ↓reduceIte]
  rfl

/-- Behind the first token of a path comes a separator, or what is behind the path. -/
theorem second_pathOf (absolute : Bool) (names : List String) (nonempty : names ≠ [])
    (noHash : (Sign.mark "#").starts rest = false) :
    (Sign.mark "#").starts (afterFirst (pathOf absolute names ++ rest)) = false := by
  cases names with
  | nil => exact absurd rfl nonempty
  | cons first others =>
    rw [pathOf_cons]
    cases absolute with
    | true => rfl
    | false =>
      cases others with
      | nil => exact noHash
      | cons second others => rfl

theorem isValue_path {absolute : Bool} (isPath : IsPath absolute names) (nonempty : names ≠ []) :
    IsValue (pathOf absolute names) :=
  isValue_of_takes_path (isPath.beginsPath nonempty)
    (fun _ noHash => second_pathOf absolute names nonempty noHash)
    (fun _ _ => takes_plainPath isPath nonempty true)
    (by rw [tokens_plainPath nonempty, apart_pathOf])

theorem isValue_word (fits : IsSegment name) (other : name ≠ "try") : IsValue (word name) := by
  have isValue : IsValue (pathOf false [name]) :=
    isValue_path (isPath_word fits other) (List.cons_ne_nil _ _)
  exact isValue

theorem isValue_name (name : String) (free : isReserved name = false) : IsValue (word name) :=
  isValue_word (.inl free) (ne_of_isReserved free rfl)

theorem isExpression_name (name : String) (free : isReserved name = false) :
    IsExpression (word name) :=
  (isValue_name name free).isExpression

/-- A reference to what has a name. -/
theorem isExpression_reference (free : isReserved name = false) :
    IsExpression (referenceTo (word name)) where
  goesOn _ := rfl
  reads := by
    intro depth deep rest written unread limit follows enough
    simp only [referenceTo, word, List.length_cons, List.length_nil] at deep
    obtain ⟨depth, rfl⟩ : ∃ fewer, depth = fewer + 1 := ⟨depth - 1, by omega⟩
    have shorter : (word name ++ rest).length < limit := Nat.lt_of_succ_lt enough
    have read := (isExpression_name name free).reads depth (by simp [word]; omega) rest
      (mark '&' :: written) unread limit follows shorter
    have behind : afterFirst (word name ++ rest) = rest := rfl
    have noMut : (Sign.word "mut").starts (word name ++ rest) = false :=
      not_starts_word free rfl
    have marked : accept (.mark "&") ⟨referenceTo (word name) ++ rest, written, unread, limit⟩ =
        .ok (true, ⟨word name ++ rest, mark '&' :: written, unread, limit⟩) := rfl
    rw [operand, bind_apply (outerAttributes_none rfl), bind_apply marked]
    simp only [↓reduceIte]
    rw [comes_bind, comesSecond_bind, comesSecond_bind]
    simp only [behind, follows.words, Bool.or_self, Bool.and_false, Bool.false_eq_true, ↓reduceIte]
    rw [bind_apply (discard_apply (accept_missing noMut)), nestedUpTo, readConstruct,
      bind_apply (discard_apply read)]
    rfl

/-! ## 4. Records -/

/-- What follows a field of a record. -/
structure EndsField (rest : List Token) : Prop extends EndsExpression rest where
  colon : (Sign.mark ":").starts rest = false

/-- The tokens are read as a field of a record, with its value or without. -/
structure IsField (tokens : List Token) : Prop where
  goesOn : ∀ rest, atEnd (tokens ++ rest) = false
  reads : ∀ depth, 8 * tokens.length ≤ depth →
    Accepts (recordField (nestedUpTo depth)) tokens true EndsField

theorem recordField_of_name (free : isReserved name = false) {written : List Token}
    {unread : Option Delimiter} {limit : Nat} :
    recordField nested ⟨.name name :: rest, written, unread, limit⟩ =
      (if (Sign.mark ":").starts rest then
        take (.mark ":") >>= fun _ => discard nested.expression >>= fun _ => pure true
      else pure true) ⟨rest, .name name :: written, unread, limit⟩ := by
  have noDots : (Sign.mark "..").starts (.name name :: rest) = false :=
    starts_mark_name (by decide)
  have noHash : (Sign.mark "#").starts (.name name :: rest) = false :=
    starts_mark_name (by decide)
  have named : member ⟨.name name :: rest, written, unread, limit⟩ =
      .ok (true, ⟨rest, .name name :: written, unread, limit⟩) :=
    (bind_apply (accept_name free)).trans rfl
  rw [recordField, accept_bind_missing noDots]
  simp only [Bool.false_eq_true, ↓reduceIte]
  rw [bind_apply (discard_apply (outerAttributes_none noHash)), bind_apply named]
  simp only [Bool.not_true, Bool.false_or]
  rw [comes_bind]

theorem isField_name (name : String) (free : isReserved name = false) : IsField (word name) where
  goesOn _ := rfl
  reads := by
    intro depth _ rest written unread limit follows _
    show recordField _ ⟨.name name :: rest, written, unread, limit⟩ = _
    rw [recordField_of_name free]
    simp only [follows.colon, Bool.false_eq_true, ↓reduceIte]
    rfl

theorem isField_typed (name : String) (free : isReserved name = false)
    (isExpression : IsExpression tokens) :
    IsField (typed name tokens) where
  goesOn _ := rfl
  reads := by
    intro depth deep rest written unread limit follows enough
    simp only [typed, List.length_cons] at deep
    have shorter : (tokens ++ rest).length < limit := by
      simp only [typed, List.cons_append, List.length_cons] at enough
      omega
    have accepts : Accepts (Functor.discard (nestedUpTo depth (.expression true))) tokens ()
        EndsExpression := isExpression.discarded (by omega)
    have read := accepts rest (mark ':' :: .name name :: written) unread limit
      follows.toEndsExpression shorter
    have colon : (Sign.mark ":").starts (mark ':' :: (tokens ++ rest)) = true := rfl
    have taken : take (.mark ":")
        ⟨mark ':' :: (tokens ++ rest), .name name :: written, unread, limit⟩ =
        .ok ((), ⟨tokens ++ rest, mark ':' :: .name name :: written, unread, limit⟩) := rfl
    show recordField _ ⟨.name name :: mark ':' :: (tokens ++ rest), written, unread, limit⟩ = _
    rw [recordField_of_name free]
    simp only [colon, ↓reduceIte]
    rw [bind_apply taken, Nested.expression, bind_apply read]
    simp [typed, Token.apart, mark]
    rfl

theorem length_le_commaTerminated (listed : tokens ∈ items) :
    tokens.length ≤ (commaTerminated items).length := by
  have inside : tokens ++ [mark ','] ∈ items.map (· ++ [mark ',']) :=
    List.mem_map_of_mem listed
  have short := (List.infix_of_mem_flatten inside).length_le
  rw [commaTerminated, List.flatMap_def]
  rw [List.length_append] at short
  omega

/-- A record: a path, and fields in braces with commas between them or behind them. -/
theorem isValue_record {absolute : Bool} (isPath : IsPath absolute names) (nonempty : names ≠ [])
    (each : ∀ item ∈ items, IsField item)
    (spelled : tokens = commaSeparated items ∨ tokens = commaTerminated items) :
    IsValue (pathOf absolute names ++ block tokens) := by
  have begins (rest : List Token) : BeginsPath (pathOf absolute names ++ block tokens ++ rest) := by
    rw [List.append_assoc]
    exact isPath.beginsPath nonempty _
  refine isValue_of_accepts (fun rest => (begins rest).beginsValue) fun depth deep => ?_
  have short (item : List Token) (listed : item ∈ items) : item.length ≤ tokens.length := by
    rcases spelled with rfl | rfl
    · exact length_le_commaSeparated listed
    · exact length_le_commaTerminated listed
  simp only [block, enclose, List.length_append, List.cons_append, List.length_cons] at deep
  have comma (rest : List Token) : EndsField (mark ',' :: rest) := ⟨endsExpression_comma rest, rfl⟩
  have inside : Accepts (commaItems ends (recordField (nestedUpTo depth))) tokens () Closing := by
    have reads : ∀ item ∈ items, Accepts (recordField (nestedUpTo depth)) item true EndsField :=
      fun item listed => (each item listed).reads depth (by have := short item listed; omega)
    have goesOn : ∀ item ∈ items, ∀ rest, atEnd (item ++ rest) = false :=
      fun item listed => (each item listed).goesOn
    rcases spelled with rfl | rfl
    · refine .commaSeparated ends_eq reads goesOn comma (fun _ => rfl) ?_
      rintro _ ⟨delimiter, back, rfl⟩
      exact ⟨rfl, endsExpression_closing delimiter back, rfl⟩
    · refine .commaTerminated ends_eq reads goesOn comma (fun _ => rfl) ?_
      rintro _ ⟨delimiter, back, rfl⟩
      rfl
  intro rest written unread limit follows enough
  have start := begins rest
  have behind : EndsPath (block tokens ++ rest) := ⟨rfl, rfl, rfl, rfl⟩
  have braces : (Sign.opening .brace).starts (block tokens ++ rest) = true := rfl
  have shorter : (block tokens ++ rest).length < limit := by
    simp only [List.length_append] at enough ⊢
    omega
  rw [List.append_assoc] at start enough ⊢
  rw [value_of_beginsPath start (second_pathOf absolute names nonempty rfl),
    pathValue_eq start behind (takes_plainPath isPath nonempty true)
      (by rw [tokens_plainPath nonempty, apart_pathOf]) enough]
  simp only [braces, Bool.and_self, ↓reduceIte]
  rw [block] at shorter ⊢
  rw [bind_apply (inside.brackets_eq shorter)]
  simp
  rfl

/-! ## 5. Other values -/

/-- Elements of a list, whose brackets match. They are not read. -/
theorem isValue_listOf (matched : Matched true (commaSeparated items))
    (same : apart (commaSeparated items) = commaSeparated items) : IsValue (listOf items) := by
  refine isValue_of_accepts (fun _ => ⟨rfl, rfl, rfl, rfl⟩) fun depth _ => ?_
  intro rest written unread limit _ enough
  have split : listOf items ++ rest = .name "vec" :: mark '!' ::
      (enclose .bracket (commaSeparated items) ++ rest) := by
    simp [listOf, word]
  obtain ⟨limit, rfl⟩ : ∃ fewer, limit = fewer + 1 := ⟨limit - 1, by omega⟩
  have opened : value (nestedUpTo depth) true
      ⟨.name "vec" :: mark '!' :: (enclose .bracket (commaSeparated items) ++ rest), written,
        unread, limit + 1⟩ =
      (takeAnyBrackets >>= fun delimiter =>
        pure (if delimiter = .brace then .bracedMacro else .plain))
        ⟨enclose .bracket (commaSeparated items) ++ rest, mark '!' :: .name "vec" :: written,
          unread, limit + 1⟩ := rfl
  have wrote : (apart (listOf items)).reverse ++ written =
      (enclose .bracket (commaSeparated items)).reverse ++ mark '!' :: .name "vec" :: written := by
    simp [listOf, word, enclose, same, Token.apart, mark]
  rw [split, opened, bind_apply (takeAnyBrackets_eq matched), wrote]
  rfl

/-! ## 6. What follows a value -/

theorem memberAccess_of_name (free : isReserved name = false) (rest written : List Token)
    (unread : Option Delimiter) (limit : Nat) :
    memberAccess nested ⟨.name name :: rest, written, unread, limit⟩ =
      (if (Sign.mark "::").starts rest then
        take (.mark "::") >>= fun _ =>
          discard (angleItems (argument nested) (take (.mark ","))) >>= fun _ =>
            callArguments nested
      else if (Sign.opening .paren).starts rest then callArguments nested
      else pure ()) ⟨rest, .name name :: written, unread, limit⟩ := by
  have noPositions : acceptPositions ⟨.name name :: rest, written, unread, limit⟩ =
      .ok (false, ⟨.name name :: rest, written, unread, limit⟩) := rfl
  have noAwait : (Sign.word "await").starts (.name name :: rest) = false :=
    not_starts_word free rfl
  have named : member ⟨.name name :: rest, written, unread, limit⟩ =
      .ok (true, ⟨rest, .name name :: written, unread, limit⟩) :=
    (bind_apply (accept_name free)).trans rfl
  rw [memberAccess, bind_apply noPositions]
  simp only [Bool.false_eq_true, ↓reduceIte]
  rw [accept_bind_missing noAwait]
  simp only [Bool.false_eq_true, ↓reduceIte]
  rw [bind_apply named, comes_bind]
  cases (Sign.mark "::").starts rest with
  | true => rfl
  | false =>
    simp only [Bool.and_false, Bool.true_and, Bool.false_or, Bool.false_eq_true, ↓reduceIte]
    rw [comes_bind]

namespace IsValue

variable (isValue : IsValue tokens)

include isValue

theorem begins_append (more rest : List Token) : BeginsValue (tokens ++ more ++ rest) := by
  rw [List.append_assoc]
  exact isValue.begins _

/-- A value with more behind it is a value if reading goes on behind that. -/
theorem of_trailer {more : List Token}
    (later : ∀ rest, EndsValue rest → EndsValue (more ++ rest))
    (goesOn : ∀ depth rest written unread limit bound, 8 * more.length ≤ depth →
      EndsValue rest → (more ++ rest).length < limit → (more ++ rest).length < bound →
      ∃ fewer, rest.length < fewer ∧
        trailersUpTo (nestedUpTo depth) bound .plain ⟨more ++ rest, written, unread, limit⟩ =
          trailersUpTo (nestedUpTo depth) fewer .plain
            ⟨rest, (apart more).reverse ++ written, unread, limit⟩) :
    IsValue (tokens ++ more) where
  begins rest := isValue.begins_append more rest
  reads := by
    intro depth rest written unread limit deep follows enough
    have some : 0 < tokens.length := by
      refine List.length_pos_iff.mpr ?_
      rintro rfl
      exact absurd (isValue.begins []).goesOn (by decide)
    rw [List.length_append] at deep
    rw [List.append_assoc] at enough ⊢
    have shorter : (more ++ rest).length < limit := by
      rw [List.length_append] at enough
      omega
    obtain ⟨bound, fits, first⟩ := isValue.reads depth (more ++ rest) written unread limit
      (by omega) (later rest follows) enough
    obtain ⟨fewer, fits, second⟩ := goesOn depth rest ((apart tokens).reverse ++ written) unread
      limit bound (by omega) follows shorter fits
    refine ⟨fewer, fits, ?_⟩
    rw [first, second, apart_append, List.reverse_append, List.append_assoc]

theorem attempted : IsValue (attempted tokens) := by
  refine isValue.of_trailer (fun rest _ => ⟨⟨rfl, rfl, rfl, rfl⟩, rfl, rfl⟩) ?_
  intro depth rest written unread limit bound _ _ _ fits
  obtain ⟨bound, rfl⟩ : ∃ fewer, bound = fewer + 1 := ⟨bound - 1, by omega⟩
  exact ⟨bound, Nat.lt_of_succ_lt_succ fits, rfl⟩

theorem call (each : ∀ item ∈ items, IsExpression item) : IsValue (call tokens items) := by
  refine isValue.of_trailer (fun rest _ => ⟨⟨rfl, rfl, rfl, rfl⟩, rfl, rfl⟩) ?_
  intro depth rest written unread limit bound deep _ enough fits
  obtain ⟨bound, rfl⟩ : ∃ fewer, bound = fewer + 1 := ⟨bound - 1, by omega⟩
  have inside : (commaSeparated items).length + 2 =
      (enclose .paren (commaSeparated items)).length := by
    simp [enclose]
  have arguments : callArguments (nestedUpTo depth)
      ⟨enclose .paren (commaSeparated items) ++ rest, written, unread, limit⟩ =
      .ok ((), ⟨rest, (apart (enclose .paren (commaSeparated items))).reverse ++ written, unread,
        limit⟩) :=
    (accepts_expressions each (by omega)).brackets_eq enough
  refine ⟨bound, ?_, ?_⟩
  · rw [List.length_append] at fits
    omega
  · show (callArguments (nestedUpTo depth) >>= fun _ =>
      trailersUpTo (nestedUpTo depth) bound .plain)
        ⟨enclose .paren (commaSeparated items) ++ rest, written, unread, limit⟩ = _
    rw [bind_apply arguments]

/-- A member, which takes the arguments of a call as its own. -/
theorem dot (name : String) (free : isReserved name = false) : IsValue (dot tokens name) := by
  refine isValue.of_trailer (fun rest _ => ⟨⟨rfl, rfl, rfl, rfl⟩, rfl, rfl⟩) ?_
  intro depth rest written unread limit bound _ follows _ fits
  obtain ⟨bound, rfl⟩ : ∃ fewer, bound = fewer + 1 := ⟨bound - 1, by omega⟩
  have fits : rest.length + 2 < bound + 1 := fits
  have opened : trailersUpTo (nestedUpTo depth) (bound + 1) .plain
      ⟨mark '.' :: .name name :: rest, written, unread, limit⟩ =
      (memberAccess (nestedUpTo depth) >>= fun _ => trailersUpTo (nestedUpTo depth) bound .plain)
        ⟨.name name :: rest, mark '.' :: written, unread, limit⟩ := rfl
  have accessed : memberAccess (nestedUpTo depth) _ = _ :=
    memberAccess_of_name free rest (mark '.' :: written) unread limit
  simp only [follows.separator, Bool.false_eq_true, ↓reduceIte] at accessed
  by_cases calls : (Sign.opening .paren).starts rest = true
  · refine ⟨bound + 1, by omega, opened.trans ?_⟩
    have called (written : List Token) : trailersUpTo (nestedUpTo depth) (bound + 1) .plain
        ⟨rest, written, unread, limit⟩ =
        (callArguments (nestedUpTo depth) >>= fun _ =>
          trailersUpTo (nestedUpTo depth) bound .plain) ⟨rest, written, unread, limit⟩ := by
      rw [trailersUpTo, comes_bind, comes_bind, comes_bind]
      simp only [calls, ↓reduceIte]
    simp only [calls, ↓reduceIte] at accessed
    show (memberAccess (nestedUpTo depth) _).bind _ = _
    rw [accessed]
    exact (called _).symm
  · refine ⟨bound, by omega, opened.trans ?_⟩
    simp only [calls] at accessed
    rw [bind_apply accessed]
    rfl

/-- A call of a method with type arguments. -/
theorem callWith (free : isReserved name = false) (eachType : ∀ type ∈ types, IsType type)
    (each : ∀ item ∈ items, IsExpression item) :
    IsValue (Code.call (instantiated (Code.dot tokens name) types) items) := by
  obtain ⟨more, same⟩ : ∃ more, more = pathSep ++ ((mark '<' :: commaSeparated types ++
    [mark '>']) ++ enclose .paren (commaSeparated items)) := ⟨_, rfl⟩
  have split : Code.call (instantiated (Code.dot tokens name) types) items =
      tokens ++ ([mark '.', .name name] ++ more) := by
    simp [same, Code.call, instantiated, applied, Code.dot]
  have separated (rest : List Token) : (Sign.mark "::").starts (more ++ rest) = true := by
    rw [same]
    rfl
  rw [split]
  refine isValue.of_trailer (fun rest _ => ⟨⟨rfl, rfl, rfl, rfl⟩, rfl, rfl⟩) ?_
  intro depth rest written unread limit bound deep _ enough fits
  rw [List.append_assoc] at enough fits ⊢
  simp only [List.cons_append, List.nil_append, List.length_cons] at deep enough fits ⊢
  have arguments : Accepts (take (.mark "::") >>= fun _ =>
      discard (angleItems (argument (nestedUpTo depth)) (take (.mark ","))) >>= fun _ =>
        callArguments (nestedUpTo depth)) more () fun _ => True := by
    simp only [same, enclose, List.length_append, List.length_cons] at deep
    rw [same]
    have types : Accepts (discard (angleItems (argument (nestedUpTo depth)) (take (.mark ","))))
        (mark '<' :: commaSeparated types ++ [mark '>']) () fun _ => True :=
      accepts_typeItems eachType (by omega)
    refine .step _ (fun _ _ _ _ => rfl) ?_
    exact types.bind (accepts_expressions each (by omega)).brackets fun _ _ => trivial
  obtain ⟨bound, rfl⟩ : ∃ fewer, bound = fewer + 1 := ⟨bound - 1, by omega⟩
  have opened : trailersUpTo (nestedUpTo depth) (bound + 1) .plain
      ⟨mark '.' :: .name name :: (more ++ rest), written, unread, limit⟩ =
      (memberAccess (nestedUpTo depth) >>= fun _ => trailersUpTo (nestedUpTo depth) bound .plain)
        ⟨.name name :: (more ++ rest), mark '.' :: written, unread, limit⟩ := rfl
  have accessed : memberAccess (nestedUpTo depth) _ = _ :=
    memberAccess_of_name free (more ++ rest) (mark '.' :: written) unread limit
  simp only [separated, ↓reduceIte] at accessed
  rw [arguments _ _ _ _ trivial (by omega)] at accessed
  refine ⟨bound, ?_, opened.trans ?_⟩
  · rw [List.length_append] at fits
    omega
  · rw [bind_apply accessed]
    simp [Token.apart, mark]

end IsValue

end ContractBinder.Code
