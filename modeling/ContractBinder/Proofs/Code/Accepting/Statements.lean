import ContractBinder.Proofs.Code.Accepting.Expressions

/-!
# Statements that are read as they are written

Statements are read one after the other up to the end of their braces (`IsStatements`). A statement
is a local value, a repetition over a list, or an expression, of which the last one can do without
its semicolon.

Results:

1. `accepts_modulePath`: a path without arguments, as attributes have it.
2. `isStatement_binding`, `isStatement_repetition` and `IsExpression.statement`: the statements that
   generated code has, and `IsStatements.cons` puts them together.
3. `isExpression_closure` and `isExpression_thunk`: closures, whose bodies are blocks. The two bars
   of a thunk are written apart.
-/

namespace ContractBinder.Code

open Reader Grammar PathReading

variable {nested : Nested} {name : String} {names : List String} {absolute : Bool}
  {front back tokens body rest : List Token} {depth : Nat} {final : Bool}
  {behind middle : List Token → Prop}

/-! ## 1. Paths without arguments, and patterns -/

/-- A segment of a path in front of a macro or in an attribute. -/
def IsModuleSegment (name : String) : Prop :=
  isReserved name = false ∨ name ∈ enclosingWords

def moduleSegmentSigns : List Sign :=
  [.name, .word "super", .word "self", .word "Self", .word "crate"]

/-- One segment of a path and the separator behind it. -/
def modulePathStep : Reader Bool := do
  if !(← comesAny moduleSegmentSigns) then missing "path segment after `::`"
  take .anyName
  accept (.mark "::")

theorem modulePath_eq :
    modulePath = (do
      discard (accept (.mark "::"))
      if !(← comesAny moduleSegmentSigns) then take .name
      repeatWhile modulePathStep) :=
  rfl

theorem IsModuleSegment.starts (fits : IsModuleSegment name) (rest : List Token) :
    moduleSegmentSigns.any (·.starts (.name name :: rest)) = true := by
  refine List.any_eq_true.mpr ?_
  rcases fits with free | listed
  · exact ⟨.name, by decide, starts_name free⟩
  · have signs : ∀ word ∈ enclosingWords, Sign.word word ∈ moduleSegmentSigns := by decide
    exact ⟨.word name, signs name listed, decide_eq_true rfl⟩

theorem modulePathStep_apply (fits : IsModuleSegment name) {written : List Token}
    {unread : Option Delimiter} {limit : Nat} :
    modulePathStep ⟨.name name :: rest, written, unread, limit⟩ =
      accept (.mark "::") ⟨rest, .name name :: written, unread, limit⟩ := by
  rw [modulePathStep, comesAny_bind, fits.starts rest]
  rfl

theorem repeats_modulePathStep (fits : ∀ name ∈ names, IsModuleSegment name)
    (nonempty : names ≠ []) :
    Repeats modulePathStep (pathOf false names)
      fun rest => (Sign.mark "::").starts rest = false := by
  induction names with
  | nil => exact absurd rfl nonempty
  | cons first others ih =>
    have fit := fits first List.mem_cons_self
    cases others with
    | nil =>
      refine .last fun rest written unread limit follows _ => ?_
      exact (modulePathStep_apply fit).trans (accept_missing follows)
    | cons second others =>
      have split : pathOf false (first :: second :: others) =
          (.name first :: pathSep) ++ pathOf false (second :: others) := by
        rw [pathOf_cons, pathOf_cons]
        rfl
      have step : Accepts modulePathStep (.name first :: pathSep) true fun _ => True :=
        fun rest written unread limit _ _ => modulePathStep_apply fit
      rw [split]
      exact .cons step (List.cons_ne_nil _ _)
        (ih (fun name listed => fits name (List.mem_cons_of_mem _ listed)) (List.cons_ne_nil _ _))
        fun _ _ => trivial

/-- A path without arguments. -/
theorem accepts_modulePath (fits : ∀ name ∈ names, IsModuleSegment name) (nonempty : names ≠ []) :
    Accepts modulePath (pathOf absolute names) ()
      fun rest => (Sign.mark "::").starts rest = false := by
  have start (rest : List Token) :
      moduleSegmentSigns.any (·.starts (pathOf false names ++ rest)) = true := by
    cases names with
    | nil => exact absurd rfl nonempty
    | cons first others =>
      rw [pathOf_cons]
      exact (fits first List.mem_cons_self).starts _
  have later : Accepts (do
      if !(← comesAny moduleSegmentSigns) then take .name
      repeatWhile modulePathStep) (pathOf false names) ()
        fun rest => (Sign.mark "::").starts rest = false := by
    refine (repeats_modulePathStep fits nonempty).accepts.of_eq fun rest _ _ _ _ => ?_
    rw [comesAny_bind]
    simp only [start, Bool.not_true, Bool.false_eq_true, ↓reduceIte]
  rw [modulePath_eq]
  cases absolute with
  | true =>
    have split : pathOf true names = pathSep ++ pathOf false names := by simp [pathOf]
    rw [split]
    exact .step _ (fun _ _ _ _ => rfl) later
  | false =>
    refine .skipDiscarded (fun rest _ => ?_) later
    cases names with
    | nil => exact absurd rfl nonempty
    | cons first others =>
      rw [pathOf_cons]
      rfl

theorem isModuleSegment_of_ne (fits : IsSegment name) (other : name ≠ "try") :
    IsModuleSegment name :=
  fits.imp_right fun listed => (List.mem_cons.mp listed).resolve_left other

/-- Of the words that can be segments, this one is no segment in front of a macro. -/
theorem exists_fault_of_mem_try (fits : ∀ name ∈ names, IsSegment name) (listed : "try" ∈ names)
    {bound limit : Nat} {written : List Token} {unread : Option Delimiter}
    (more : names.length < bound) : ∃ fault, repeatUpTo bound modulePathStep
      ⟨pathOf false names ++ rest, written, unread, limit⟩ = .error fault := by
  induction names generalizing bound written with
  | nil => cases listed
  | cons first others ih =>
    obtain ⟨bound, rfl⟩ : ∃ fewer, bound = fewer + 1 := ⟨bound - 1, by omega⟩
    -- The names in front of the word are taken one by one.
    by_cases same : first = "try"
    · subst same
      rw [pathOf_cons]
      exact ⟨_, rfl⟩
    · have later := (List.mem_cons.mp listed).resolve_left (Ne.symm same)
      have fit := isModuleSegment_of_ne (fits first List.mem_cons_self) same
      cases others with
      | nil => cases later
      | cons second others =>
        have split : pathOf false (first :: second :: others) ++ rest =
            .name first :: (pathSep ++ (pathOf false (second :: others) ++ rest)) := by
          rw [pathOf_cons, pathOf_cons]
          simp [separatedTokens]
        obtain ⟨fault, failed⟩ := ih (fun name listed => fits name (List.mem_cons_of_mem _ listed))
          later (Nat.lt_of_succ_lt_succ more)
        refine ⟨fault, ?_⟩
        rw [split, repeatUpTo, bind_apply (modulePathStep_apply fit)]
        exact failed

/-- What does not follow a name that is a whole pattern. -/
def patternSigns : List Sign :=
  [.mark "::", .mark "!", .opening .brace, .opening .paren, .mark ".."]

/-- What follows a name that is a whole pattern. -/
structure EndsPattern (rest : List Token) : Prop where
  continued : patternSigns.any (·.starts rest) = false
  named : (Sign.mark "@").starts rest = false

/-- The name of a value in a pattern, and perhaps a pattern for the value. -/
def namedValue (nested : Nested) : Reader Unit := do
  if !(← accept (.word "self")) then take .name
  if ← accept (.mark "@") then discard (nested .pattern)

theorem accepts_namedValue (free : isReserved name = false) :
    Accepts (namedValue nested) (word name) () EndsPattern := by
  intro rest written unread limit follows _
  show namedValue nested ⟨.name name :: rest, written, unread, limit⟩ = _
  rw [namedValue, accept_bind_missing (not_starts_word free rfl)]
  simp only [Bool.not_false, ↓reduceIte]
  rw [bind_apply (take_name free), accept_bind_missing follows.named]
  rfl

theorem accepts_namePattern (free : isReserved name = false) :
    Accepts (namePattern nested) (word name) () EndsPattern := by
  have noWord (reserved : String) (isReserved : isReserved reserved = true) (rest : List Token) :
      (Sign.word reserved).starts (word name ++ rest) = false :=
    not_starts_word free isReserved
  exact .skipDiscarded (fun rest _ => noWord "ref" rfl rest)
    (.skipDiscarded (fun rest _ => noWord "mut" rfl rest) (accepts_namedValue free))

theorem accepts_mutablePattern (free : isReserved name = false) :
    Accepts (pattern nested) (word "mut" ++ word name) .plain EndsPattern := by
  have taken : Accepts (take (.word "mut")) (word "mut") () fun _ => True :=
    fun _ _ _ _ _ _ => rfl
  have both : Accepts (take (.word "mut") >>= fun _ => namedValue nested >>= fun _ =>
      pure Form.plain) (word "mut" ++ word name) .plain EndsPattern :=
    taken.bind (accepts_namedValue free).map fun _ _ => trivial
  exact both.of_eq fun _ _ _ _ _ => rfl

/-- A name that is not reserved is read as a pattern. -/
theorem accepts_pattern (free : isReserved name = false) :
    Accepts (pattern nested) (word name) .plain EndsPattern := by
  intro rest written unread limit follows enough
  have noWord (reserved : String) (isReserved : isReserved reserved = true) :
      (Sign.word reserved).starts (.name name :: rest) = false :=
    not_starts_word free isReserved
  have noMark (spelling : String) (nonempty : spelling.toList ≠ []) :
      (Sign.mark spelling).starts (.name name :: rest) = false :=
    starts_mark_name nonempty
  have continues (progress : Progress) (same : progress.rest = .name name :: rest) :
      (do
        let behind := afterFirst (← upcoming)
        let signs : List Sign :=
          [.mark "::", .mark "!", .opening .brace, .opening .paren, .mark ".."]
        return signs.any (·.starts behind) : Reader Bool) progress = .ok (false, progress) := by
    rw [upcoming_bind, same]
    exact congrArg (fun found => Except.ok (found, progress)) follows.continued
  have noPath : ([.mark "::", .mark "<", .word "Self", .word "super", .word "crate"] :
      List Sign).any (·.starts (.name name :: rest)) = false := by
    simp [noWord "Self" rfl, noWord "super" rfl, noWord "crate" rfl, noMark "::" (by decide),
      noMark "<" (by decide)]
  have noLiteral : ([.mark "-", .literal, .word "const"] : List Sign).any
      (·.starts (.name name :: rest)) = false := by
    have literal : Sign.literal.starts (.name name :: rest) = false := by
      show (literal? (.name name :: rest)).isSome = false
      rw [literal?_name free]
      rfl
    simp [literal, noWord "const" rfl, noMark "-" (by decide)]
  have named : ([.word "ref", .word "mut", .word "self", .name] : List Sign).any
      (·.starts (.name name :: rest)) = true := by
    simp [starts_name free]
  show pattern nested ⟨.name name :: rest, written, unread, limit⟩ = _
  rw [pattern, get_bind, comes_bind, bind_apply (continues _ rfl), comes_bind, comesSecond_bind,
    comesAny_bind]
  simp only [noWord "self" rfl, noPath, Bool.and_false, Bool.false_and, Bool.or_self,
    Bool.false_eq_true, ↓reduceIte]
  rw [accept_bind_missing (noWord "_" rfl)]
  simp only [Bool.false_eq_true, ↓reduceIte]
  rw [accept_bind_missing (noWord "box" rfl)]
  simp only [Bool.false_eq_true, ↓reduceIte]
  rw [comesAny_bind, noLiteral]
  simp only [Bool.false_eq_true, ↓reduceIte]
  rw [comesAny_bind, named]
  simp only [↓reduceIte]
  exact bind_apply (accepts_namePattern free rest written unread limit follows enough)

/-! ## 2. Statements -/

/-- One statement of a block, or a semicolon alone. -/
def statementStep (nested : Nested) : Reader Bool := do
  if ← accept (.mark ";") then return true
  else if ← ends then return false
  else
    let last ← Grammar.statement nested
    if last && !(← ends) then forbid .unendedStatement
    return true

theorem statements_eq (nested : Nested) :
    statements nested = repeatWhile (statementStep nested) :=
  rfl

/-- What comes first is neither an attribute nor a semicolon nor the end. -/
structure BeginsStatement (tokens : List Token) : Prop where
  unmarked : (Sign.mark "#").starts tokens = false
  separated : (Sign.mark ";").starts tokens = false
  goesOn : atEnd tokens = false

/-- The tokens are read as a statement, which says whether it has to be the last one. -/
structure IsStatement (tokens : List Token) (final : Bool) (behind : List Token → Prop) : Prop where
  begins : ∀ rest, BeginsStatement (tokens ++ rest)
  reads : ∀ depth, 8 * tokens.length ≤ depth →
    Accepts (Grammar.statement (nestedUpTo depth)) tokens final behind

/-- The tokens are read as all statements of a block. -/
structure IsStatements (tokens : List Token) : Prop where
  unmarked : ∀ rest, Closing rest → (Sign.mark "#").starts (tokens ++ rest) = false
  reads : ∀ depth, 8 * tokens.length ≤ depth →
    Repeats (statementStep (nestedUpTo depth)) tokens Closing

theorem IsStatement.step (isStatement : IsStatement tokens final behind)
    (ended : final = true → ∀ rest, behind rest → atEnd rest = true)
    (deep : 8 * tokens.length ≤ depth) :
    Accepts (statementStep (nestedUpTo depth)) tokens true behind := by
  intro rest written unread limit follows enough
  have begins := isStatement.begins rest
  rw [statementStep, accept_bind_missing begins.separated]
  simp only [Bool.false_eq_true, ↓reduceIte]
  rw [ends_bind]
  simp only [begins.goesOn, Bool.false_eq_true, ↓reduceIte]
  rw [bind_apply (isStatement.reads depth deep _ _ _ _ follows enough), ends_bind]
  cases final with
  | false => rfl
  | true =>
    simp only [ended rfl rest follows, Bool.not_true, Bool.and_false, Bool.false_eq_true,
      ↓reduceIte]
    rfl

namespace IsStatements

theorem nil : IsStatements [] where
  unmarked := by
    rintro _ ⟨delimiter, back, rfl⟩
    rfl
  reads _ _ := by
    refine .last ?_
    rintro _ written unread limit ⟨delimiter, back, rfl⟩ _
    rfl

theorem cons (first : IsStatement front final middle)
    (ended : final = true → ∀ rest, middle rest → atEnd rest = true) (later : IsStatements back)
    (meets : ∀ rest, Closing rest → middle (back ++ rest)) : IsStatements (front ++ back) where
  unmarked rest _ := by
    rw [List.append_assoc]
    exact (first.begins _).unmarked
  reads depth deep := by
    rw [List.length_append] at deep
    have nonempty : front ≠ [] := by
      rintro rfl
      exact absurd (first.begins []).goesOn (by decide)
    exact .cons (first.step ended (by omega)) nonempty (later.reads depth (by omega)) meets

/-- A statement that others can follow. -/
theorem followed (first : IsStatement front false fun _ => True) (later : IsStatements back) :
    IsStatements (front ++ back) :=
  cons first (fun same => by cases same) later fun _ _ => trivial

theorem single (only : IsStatement tokens false fun _ => True) : IsStatements tokens := by
  have alone := followed only nil
  rwa [List.append_nil] at alone

/-- The last statement lacks its semicolon. -/
theorem last (only : IsStatement tokens true Closing) : IsStatements tokens := by
  have alone := cons only (fun _ rest ⟨_, _, same⟩ => same ▸ rfl) nil fun _ closes => closes
  rwa [List.append_nil] at alone

theorem accepts (isStatements : IsStatements tokens) (deep : 8 * tokens.length < depth) :
    Accepts (discard (nestedUpTo depth .statements)) tokens () Closing := by
  obtain ⟨depth, rfl⟩ : ∃ fewer, depth = fewer + 1 := ⟨depth - 1, by omega⟩
  have read := (isStatements.reads depth (by omega)).accepts
  rw [← statements_eq] at read
  exact (read.map (f := fun _ => Form.plain)).discard

end IsStatements

/-- A block in braces. -/
theorem accepts_block (isStatements : IsStatements tokens) (deep : 8 * tokens.length < depth) :
    Accepts (attributedBlock (nestedUpTo depth)) (block tokens) () behind := by
  refine .brackets ((isStatements.accepts deep).of_eq fun rest _ _ _ follows => ?_)
  refine bind_apply (innerAttributes_none ?_)
  rw [isStatements.unmarked rest follows, Bool.false_and]

/-! ## 3. Local values -/

theorem endsPattern_equals (rest : List Token) : EndsPattern (mark '=' :: rest) :=
  ⟨rfl, rfl⟩

theorem accepts_localValue {pattern value : List Token}
    (reads : ∀ depth, Accepts (Grammar.pattern (nestedUpTo depth)) pattern .plain EndsPattern)
    (isExpression : IsExpression value) (deep : 8 * (binding pattern value).length ≤ depth) :
    Accepts (localValue (nestedUpTo depth)) (binding pattern value) () behind := by
  have split : binding pattern value =
      word "let" ++ (pattern ++ ([mark '='] ++ (value ++ [mark ';']))) := by
    simp [binding, Code.statement]
  have long := deep
  simp only [split, word, List.length_append, List.length_cons, List.length_nil] at long
  obtain ⟨depth, rfl⟩ : ∃ fewer, depth = fewer + 1 := ⟨depth - 1, by omega⟩
  have ended : Accepts (do
      let braced := (← get).written.head? = some (.closing .brace)
      if !braced then
        if ← accept (.word "else") then (nestedUpTo (depth + 1)).block
      take (.mark ";")) [mark ';'] () behind := by
    intro rest written unread limit _ _
    rw [get_bind]
    dsimp only
    split
    · rfl
    · rfl
  rw [split]
  refine .step _ (fun _ _ _ _ => rfl) ?_
  refine .bind (reads depth).discard ?_ fun rest _ => endsPattern_equals _
  refine .skip (fun _ _ => rfl) ?_
  refine .step true (fun _ _ _ _ => rfl) ?_
  exact .bind (isExpression.discarded (by omega)) ended fun _ _ => endsExpression_semicolon _

theorem isStatement_binding {pattern value : List Token}
    (reads : ∀ depth, Accepts (Grammar.pattern (nestedUpTo depth)) pattern .plain EndsPattern)
    (isExpression : IsExpression value) : IsStatement (binding pattern value) false behind where
  begins _ := ⟨rfl, rfl, rfl⟩
  reads := by
    intro depth deep rest written unread limit follows enough
    have accepts : Accepts (localValue (nestedUpTo depth)) (binding pattern value) () behind :=
      accepts_localValue reads isExpression deep
    have read := accepts rest written unread limit follows enough
    have called : statementMacro ⟨binding pattern value ++ rest, written, unread, limit⟩ =
        .ok (.none, ⟨binding pattern value ++ rest, written, unread, limit⟩) := rfl
    have binds : (Sign.word "let").starts (binding pattern value ++ rest) = true := rfl
    rw [Grammar.statement, get_bind, bind_apply (discard_apply (outerAttributes_none rfl)),
      bind_apply called]
    simp only
    rw [comes_bind]
    simp only [binds, ↓reduceIte]
    rw [bind_apply read]
    rfl

theorem isStatement_local (name : String) {value : List Token} (free : isReserved name = false)
    (isExpression : IsExpression value) :
    IsStatement (binding (word name) value) false behind :=
  isStatement_binding (fun _ => accepts_pattern free) isExpression

theorem isStatement_mutable (name : String) {value : List Token} (free : isReserved name = false)
    (isExpression : IsExpression value) :
    IsStatement (binding (word "mut" ++ word name) value) false behind :=
  isStatement_binding (fun _ => accepts_mutablePattern free) isExpression

/-! ## 4. Expressions as statements -/

/-- What comes first is an expression, and no statement of another kind. -/
structure BeginsExpression (tokens : List Token) : Prop extends BeginsStatement tokens where
  called : ∀ written unread limit, tokens.length < limit →
    statementMacro ⟨tokens, written, unread, limit⟩ = .ok (.none, ⟨tokens, written, unread, limit⟩)
  binds : (Sign.word "let").starts tokens = false
  item : ∀ written unread limit,
    comesItem ⟨tokens, written, unread, limit⟩ = .ok (false, ⟨tokens, written, unread, limit⟩)
  braced : ∀ written unread limit,
    comesBlockLike ⟨tokens, written, unread, limit⟩ = .ok (false, ⟨tokens, written, unread, limit⟩)

theorem IsExpression.early (isExpression : IsExpression tokens)
    (begins : ∀ rest, BeginsExpression (tokens ++ rest)) (deep : 8 * tokens.length ≤ depth) :
    Accepts (nestedUpTo depth .earlyExpression) tokens .plain EndsExpression := by
  have some : tokens ≠ [] := by
    rintro rfl
    exact absurd (isExpression.goesOn []) (by decide)
  have := List.length_pos_iff.mpr some
  obtain ⟨depth, rfl⟩ : ∃ fewer, depth = fewer + 2 := ⟨depth - 2, by omega⟩
  intro rest written unread limit follows enough
  have begins := begins rest
  have marked : nestedUpTo (depth + 2) .earlyExpression ⟨tokens ++ rest, written, unread, limit⟩ =
      earlyExpression (nestedUpTo (depth + 1)) ⟨tokens ++ rest, written, unread, limit⟩ := rfl
  have read : nestedUpTo (depth + 1) (.operand true) ⟨tokens ++ rest, written, unread, limit⟩ =
      .ok (.plain, ⟨rest, (apart tokens).reverse ++ written, unread, limit⟩) :=
    isExpression.reads depth deep _ _ _ _ follows enough
  rw [marked, earlyExpression, bind_apply (discard_apply (outerAttributes_none begins.unmarked)),
    bind_apply (begins.braced _ _ _)]
  simp only [Bool.false_eq_true, ↓reduceIte]
  rw [bind_apply read]
  simp only [reduceCtorEq, ↓reduceIte]
  exact operationsUpTo_none follows.toEndsOperand .jump limit .plain

theorem statement_of_expression
    (begins : ∀ rest, BeginsExpression (tokens ++ rest))
    (reads : Accepts (nested .earlyExpression >>= fun form => accept (.mark ";") >>= fun ended =>
      pure !(ended || form = .blockLike || form = .bracedMacro)) tokens final behind) :
    Accepts (Grammar.statement nested) tokens final behind := by
  intro rest written unread limit follows enough
  have begins := begins rest
  rw [Grammar.statement, get_bind,
    bind_apply (discard_apply (outerAttributes_none begins.unmarked)),
    bind_apply (begins.called _ _ _ enough)]
  simp only
  rw [comes_bind]
  simp only [begins.binds, Bool.false_eq_true, ↓reduceIte]
  rw [bind_apply (begins.item _ _ _)]
  simp only [reduceCtorEq, decide_false, Bool.or_self, Bool.false_eq_true, ↓reduceIte]
  exact reads _ _ _ _ follows enough

namespace IsExpression

variable (isExpression : IsExpression tokens) (begins : ∀ rest, BeginsExpression (tokens ++ rest))

include isExpression begins

/-- An expression with a semicolon behind it. -/
theorem statement : IsStatement (Code.statement tokens) false behind where
  begins rest := by
    rw [Code.statement, List.append_assoc]
    exact (begins _).toBeginsStatement
  reads depth deep := by
    rw [Code.statement, List.length_append] at deep
    refine statement_of_expression (fun rest => ?_) ?_
    · rw [Code.statement, List.append_assoc]
      exact begins _
    · refine .bind (isExpression.early begins (by omega)) ?_ fun _ _ => endsExpression_semicolon _
      exact fun _ _ _ _ _ _ => rfl

/-- The value of a block. -/
theorem value : IsStatement tokens true Closing where
  begins rest := (begins rest).toBeginsStatement
  reads depth deep := by
    refine statement_of_expression begins ?_
    rintro _ written unread limit ⟨delimiter, back, rfl⟩ enough
    have read := isExpression.early begins deep _ written unread limit
      (endsExpression_closing delimiter back) enough
    rw [bind_apply read]
    rfl

end IsExpression

theorem exists_fault_of_modulePath {written : List Token} {unread : Option Delimiter} {limit : Nat}
    (isPath : IsPath absolute names) (listed : "try" ∈ names)
    (enough : (pathOf absolute names ++ rest).length < limit) :
    ∃ fault, modulePath ⟨pathOf absolute names ++ rest, written, unread, limit⟩ = .error fault := by
  obtain ⟨first, others, rfl⟩ := List.exists_cons_of_ne_nil (List.ne_nil_of_mem listed)
  have few : (first :: others).length < limit := by
    have := length_separatedTokens others
    simp only [pathOf_cons, List.length_append, List.length_cons] at enough ⊢
    omega
  have later (written : List Token) : ∃ fault, (do
      if !(← comesAny moduleSegmentSigns) then take .name
      repeatWhile modulePathStep : Reader Unit)
        ⟨pathOf false (first :: others) ++ rest, written, unread, limit⟩ = .error fault := by
    by_cases same : first = "try"
    · subst same
      rw [pathOf_cons]
      exact ⟨_, rfl⟩
    · have fit := isModuleSegment_of_ne (isPath.fits first List.mem_cons_self) same
      obtain ⟨fault, failed⟩ := exists_fault_of_mem_try isPath.fits listed few
      have comes : moduleSegmentSigns.any
          (·.starts (pathOf false (first :: others) ++ rest)) = true := by
        rw [pathOf_cons]
        exact fit.starts _
      refine ⟨fault, ?_⟩
      rw [comesAny_bind]
      simp only [comes, Bool.not_true, Bool.false_eq_true, ↓reduceIte]
      rw [repeatWhile, get_bind]
      exact failed
  rw [modulePath_eq]
  cases absolute with
  | true => exact later _
  | false =>
    have missing : (Sign.mark "::").starts (pathOf false (first :: others) ++ rest) = false := by
      rw [pathOf_cons]
      rfl
    rw [bind_apply (discard_apply (accept_missing missing))]
    exact later _

theorem statementMacro_of_path {written : List Token} {unread : Option Delimiter} {limit : Nat}
    (isPath : IsPath absolute names) (nonempty : names ≠ [])
    (separator : (Sign.mark "::").starts rest = false) (bang : (Sign.mark "!").starts rest = false)
    (enough : (pathOf absolute names ++ rest).length < limit) :
    statementMacro ⟨pathOf absolute names ++ rest, written, unread, limit⟩ =
      .ok (.none, ⟨pathOf absolute names ++ rest, written, unread, limit⟩) := by
  by_cases listed : "try" ∈ names
  · -- No such path can stand in front of a macro, so none is looked for.
    obtain ⟨fault, failed⟩ := exists_fault_of_modulePath isPath listed enough
    have found : attempt modulePath ⟨pathOf absolute names ++ rest, written, unread, limit⟩ =
        .ok (none, ⟨pathOf absolute names ++ rest, written, unread, limit⟩) := by
      rw [attempt, failed]
    rw [statementMacro, get_bind, bind_apply found]
    rfl
  · have fits (name : String) (member : name ∈ names) : IsModuleSegment name :=
      isModuleSegment_of_ne (isPath.fits name member) (ne_of_mem_of_not_mem member listed)
    have found : attempt modulePath ⟨pathOf absolute names ++ rest, written, unread, limit⟩ =
          .ok (some (), ⟨rest, (apart (pathOf absolute names)).reverse ++ written, unread,
            limit⟩) := by
      rw [attempt, accepts_modulePath fits nonempty rest written unread limit separator enough]
    rw [statementMacro, get_bind, bind_apply found, comes_bind]
    simp only [bang, Bool.and_false, Bool.false_and]
    rfl

theorem comesBlockLike_of_path {progress : Progress} (begins : BeginsPath progress.rest) :
    comesBlockLike progress = .ok (false, progress) := by
  have noWord (word : String) (reserved : isReserved word = true) (other : word ∉ enclosingWords) :
      (Sign.word word).starts progress.rest = false := begins.no_word _ reserved other
  have noBlock : ([.word "if", .word "while", .word "loop", .word "match", .word "unsafe",
      .opening .brace, .lifetime] : List Sign).any (·.starts progress.rest) = false := by
    simp [noWord "if" rfl (by decide), noWord "while" rfl (by decide),
      noWord "loop" rfl (by decide), noWord "match" rfl (by decide),
      noWord "unsafe" rfl (by decide), begins.no_opening, begins.no_lifetime]
  have noTry : ([.word "try", .word "const"] : List Sign).any (·.starts progress.rest) = false := by
    simp [noWord "try" rfl (by decide), noWord "const" rfl (by decide)]
  rw [comesBlockLike, bind_apply (comesBinder_of_beginsPath begins), comesSecond_bind,
    comesAny_bind, comes_bind, comesAny_bind]
  simp only [noBlock, noTry, noWord "for" rfl (by decide), Bool.false_and, Bool.or_self]
  rfl

/-- A path that is no macro begins an expression if it does not begin an item. -/
theorem beginsExpression_path (isPath : IsPath absolute names) (nonempty : names ≠ [])
    (separator : (Sign.mark "::").starts rest = false) (bang : (Sign.mark "!").starts rest = false)
    (item : ∀ written unread limit,
      comesItem ⟨pathOf absolute names ++ rest, written, unread, limit⟩ =
        .ok (false, ⟨pathOf absolute names ++ rest, written, unread, limit⟩)) :
    BeginsExpression (pathOf absolute names ++ rest) where
  unmarked := (isPath.beginsPath nonempty rest).no_mark _ rfl (by decide)
  separated := (isPath.beginsPath nonempty rest).no_mark _ rfl (by decide)
  goesOn := (isPath.beginsPath nonempty rest).atEnd_eq_false
  called := fun _ _ _ enough => statementMacro_of_path isPath nonempty separator bang enough
  binds := (isPath.beginsPath nonempty rest).no_word _ rfl (by decide)
  item := item
  braced := fun _ _ _ => comesBlockLike_of_path (isPath.beginsPath nonempty rest)

theorem beginsExpression_word (isPath : IsPath false [name])
    (separator : (Sign.mark "::").starts rest = false) (bang : (Sign.mark "!").starts rest = false)
    (item : ∀ written unread limit, comesItem ⟨.name name :: rest, written, unread, limit⟩ =
      .ok (false, ⟨.name name :: rest, written, unread, limit⟩)) :
    BeginsExpression (.name name :: rest) := by
  have begins : BeginsExpression (pathOf false [name] ++ rest) :=
    beginsExpression_path isPath (List.cons_ne_nil _ _) separator bang item
  exact begins

/-- Whether an item comes depends on the first three tokens only. -/
theorem comesItem_apply (progress : Progress) :
    comesItem progress = .ok (
      let first (sign : Sign) := sign.starts progress.rest
      let second (sign : Sign) := sign.starts (afterFirst progress.rest)
      let third (sign : Sign) := sign.starts (afterFirst (afterFirst progress.rest))
      let secondWord (words : List String) := words.any fun word => second (.word word)
      (["pub", "extern", "use", "fn", "mod", "type", "struct", "enum", "trait", "impl",
        "macro"].map Sign.word).any first ||
      first (.word "crate") && !second (.mark "::") ||
      first (.word "static") && (secondWord ["mut"] || second .name &&
        !(secondWord ["async"] && [Sign.word "move", .mark "|"].any third)) ||
      first (.word "const") && !(second (.opening .brace) ||
        (secondWord ["static", "move"] || second (.mark "|") ||
          secondWord ["async"] && !([Sign.word "unsafe", .word "extern", .word "fn"].any third))) ||
      first (.word "unsafe") && !second (.opening .brace) ||
      first (.word "async") && secondWord ["unsafe", "extern", "fn"] ||
      first (.word "union") && second .name ||
      first (.word "auto") && secondWord ["trait"] ||
      first (.word "default") && secondWord ["unsafe", "impl"], progress) :=
  rfl

/-- Where a path can begin, no item comes unless a second word does. -/
theorem comesItem_of_beginsPath {progress : Progress} (begins : BeginsPath progress.rest)
    (noSecond : ∀ word, (Sign.word word).starts (afterFirst progress.rest) = false)
    (noName : Sign.name.starts (afterFirst progress.rest) = false)
    (crate : (Sign.word "crate").starts progress.rest = true →
      (Sign.mark "::").starts (afterFirst progress.rest) = true) :
    comesItem progress = .ok (false, progress) := by
  have noWord (word : String) (reserved : isReserved word = true) (other : word ∉ enclosingWords) :
      (Sign.word word).starts progress.rest = false := begins.no_word _ reserved other
  have noPlain : (["pub", "extern", "use", "fn", "mod", "type", "struct", "enum", "trait", "impl",
      "macro"].map Sign.word).any (·.starts progress.rest) = false := by
    rw [List.any_map, List.any_eq_false]
    intro word listed
    rw [Function.comp_apply, Bool.not_eq_true]
    refine noWord word ?_ ?_ <;> revert word <;> decide
  have noCrate : ((Sign.word "crate").starts progress.rest &&
      !(Sign.mark "::").starts (afterFirst progress.rest)) = false := by
    cases comes : (Sign.word "crate").starts progress.rest with
    | false => rfl
    | true => rw [crate comes]; rfl
  have noSecondWord (words : List String) :
      words.any (fun word => (Sign.word word).starts (afterFirst progress.rest)) = false :=
    List.any_eq_false.mpr fun word _ => by rw [noSecond]; exact Bool.false_ne_true
  rw [comesItem_apply]
  simp only [noPlain, noCrate, noSecondWord, noName, noWord "static" (by decide) (by decide),
    noWord "const" (by decide) (by decide), noWord "unsafe" (by decide) (by decide),
    Bool.false_and, Bool.and_false, Bool.or_self]

/-- A name in front of a mark does not begin an item. -/
theorem comesItem_of_mark {written : List Token} {unread : Option Delimiter} {limit : Nat}
    (free : isReserved name = false) (symbol : Char) (joint : Bool) :
    comesItem ⟨.name name :: .mark symbol joint :: rest, written, unread, limit⟩ =
      .ok (false, ⟨.name name :: .mark symbol joint :: rest, written, unread, limit⟩) := by
  refine comesItem_of_beginsPath (.name free _) (fun _ => rfl) rfl fun crate => ?_
  exact absurd crate (by rw [not_starts_word free rfl]; exact Bool.false_ne_true)

/-- A path of several names does not begin an item. -/
theorem comesItem_of_path {first second : String} {others : List String} {written : List Token}
    {unread : Option Delimiter} {limit : Nat}
    (isPath : IsPath absolute (first :: second :: others)) :
    comesItem ⟨pathOf absolute (first :: second :: others) ++ rest, written, unread, limit⟩ =
      .ok (false, ⟨pathOf absolute (first :: second :: others) ++ rest, written, unread,
        limit⟩) := by
  refine comesItem_of_beginsPath (isPath.beginsPath (List.cons_ne_nil _ _) rest)
    (fun word => ?_) ?_ ?_
  all_goals rw [pathOf_cons]; cases absolute
  case refine_3.true =>
    intro comes
    cases comes
  all_goals intros; rfl

/-! ## 5. Blocks as expressions, and closures -/

/-- A block is an expression, too. -/
theorem accepts_blockExpression (isStatements : IsStatements tokens)
    (deep : 8 * (block tokens).length ≤ depth) :
    Accepts (discard (nestedUpTo depth (.expression true))) (block tokens) () EndsExpression := by
  simp only [block, enclose, List.length_append, List.length_cons, List.length_nil] at deep
  obtain ⟨depth, rfl⟩ : ∃ fewer, depth = fewer + 2 := ⟨depth - 2, by omega⟩
  suffices taken : Accepts (nestedUpTo (depth + 2) (.expression true)) (block tokens) .blockLike
      EndsExpression from taken.discard
  intro rest written unread limit follows enough
  have begins : BeginsValue (block tokens ++ rest) := ⟨rfl, rfl, rfl, rfl⟩
  have accepts : Accepts (attributedBlock (nestedUpTo depth) >>= fun _ => pure Form.blockLike)
      (block tokens) .blockLike EndsExpression :=
    (accepts_block isStatements (by omega)).map (f := fun _ => Form.blockLike)
  have braced : value (nestedUpTo depth) true ⟨block tokens ++ rest, written, unread, limit⟩ =
      .ok (.blockLike, ⟨rest, (apart (block tokens)).reverse ++ written, unread, limit⟩) :=
    accepts rest written unread limit follows enough
  have read : nestedUpTo (depth + 1) (.operand true)
      ⟨block tokens ++ rest, written, unread, limit⟩ =
        .ok (.blockLike, ⟨rest, (apart (block tokens)).reverse ++ written, unread, limit⟩) := by
    rw [nestedUpTo, readConstruct, operand_of_beginsValue begins, bind_apply braced, get_bind]
    exact trailersUpTo_none follows.toEndsOperand limit .blockLike
  have marked : nestedUpTo (depth + 2) (.expression true)
      ⟨block tokens ++ rest, written, unread, limit⟩ =
      (nestedUpTo (depth + 1) (.operand true) >>= fun first => get >>= fun here =>
        operationsUpTo (nestedUpTo depth) .jump true here.limit first)
          ⟨block tokens ++ rest, written, unread, limit⟩ := rfl
  rw [marked, bind_apply read, get_bind]
  exact operationsUpTo_none follows.toEndsOperand .jump limit .blockLike

/-- What follows a parameter of a closure. -/
structure EndsParameter (rest : List Token) : Prop extends EndsPattern rest, EndsPath rest where
  colon : (Sign.mark ":").starts rest = false

/-- The tokens are read as a parameter of a closure. -/
structure IsParameter (tokens : List Token) : Prop where
  begins : ∀ rest, (Sign.mark "|").starts (tokens ++ rest) = false
  reads : ∀ depth, 8 * tokens.length ≤ depth →
    Accepts (closureParameter (nestedUpTo depth)) tokens true EndsParameter

theorem isParameter_name (name : String) (free : isReserved name = false) :
    IsParameter (word name) where
  begins _ := rfl
  reads := by
    intro depth deep rest written unread limit follows enough
    simp only [word, List.length_cons, List.length_nil] at deep
    obtain ⟨depth, rfl⟩ : ∃ fewer, depth = fewer + 1 := ⟨depth - 1, by omega⟩
    have unmarked : (Sign.mark "#").starts (word name ++ rest) = false :=
      starts_mark_name (by decide)
    have named : nestedUpTo (depth + 1) .pattern ⟨word name ++ rest, written, unread, limit⟩ =
        .ok (.plain, ⟨rest, .name name :: written, unread, limit⟩) :=
      accepts_pattern free rest written unread limit follows.toEndsPattern enough
    rw [closureParameter, bind_apply (discard_apply (outerAttributes_none unmarked)),
      bind_apply (discard_apply named), accept_bind_missing follows.colon]
    rfl

theorem isParameter_typed (name : String) (free : isReserved name = false)
    (isType : IsType tokens) :
    IsParameter (typed name tokens) where
  begins _ := rfl
  reads := by
    intro depth deep rest written unread limit follows enough
    simp only [typed, List.length_cons] at deep
    obtain ⟨depth, rfl⟩ : ∃ fewer, depth = fewer + 1 := ⟨depth - 1, by omega⟩
    have unmarked : (Sign.mark "#").starts (typed name tokens ++ rest) = false :=
      starts_mark_name (by decide)
    have named : nestedUpTo (depth + 1) .pattern
        ⟨typed name tokens ++ rest, written, unread, limit⟩ =
          .ok (.plain, ⟨mark ':' :: (tokens ++ rest), .name name :: written, unread, limit⟩) :=
      accepts_pattern free _ written unread limit ⟨rfl, rfl⟩ enough
    have colon : accept (.mark ":")
        ⟨mark ':' :: (tokens ++ rest), .name name :: written, unread, limit⟩ =
        .ok (true, ⟨tokens ++ rest, mark ':' :: .name name :: written, unread, limit⟩) := rfl
    have shorter : (tokens ++ rest).length < limit := by
      simp only [typed, List.cons_append, List.length_cons] at enough
      omega
    rw [closureParameter, bind_apply (discard_apply (outerAttributes_none unmarked)),
      bind_apply (discard_apply named), bind_apply colon]
    simp only [↓reduceIte]
    rw [Nested.type, bind_apply (isType.accepts (by omega) true _ _ _ _ follows.toEndsPath shorter)]
    simp [typed, Token.apart, mark]
    rfl

/-- A closure behind its parameters. -/
def closureEnd (nested : Nested) : Reader Unit := do
  take (.mark "|")
  if ← accept (.mark "->") then
    discard nested.type
    nested.block
  else discard (nested (.expression true))

/-- A closure from its first bar on. -/
def barredClosure (nested : Nested) : Reader Unit := do
  take (.mark "|")
  commaItems (comes (.mark "|")) (closureParameter nested)
  closureEnd nested

theorem endsParameter_bar (rest : List Token) : EndsParameter (mark '|' :: rest) :=
  ⟨⟨rfl, rfl⟩, ⟨rfl, rfl, rfl, rfl⟩, rfl⟩

theorem endsParameter_comma (rest : List Token) : EndsParameter (mark ',' :: rest) :=
  ⟨⟨rfl, rfl⟩, ⟨rfl, rfl, rfl, rfl⟩, rfl⟩

section

variable {parameters : List (List Token)}

theorem accepts_barredClosure {joint : Bool}
    (each : ∀ parameter ∈ parameters, IsParameter parameter) (isStatements : IsStatements body)
    (deepParameters : 8 * (commaSeparated parameters).length ≤ depth)
    (deepBody : 8 * (block body).length ≤ depth) :
    Accepts (barredClosure (nestedUpTo depth))
      (.mark '|' joint :: commaSeparated parameters ++ mark '|' :: block body) ()
        EndsExpression := by
  have split : .mark '|' joint :: commaSeparated parameters ++ mark '|' :: block body =
      [.mark '|' joint] ++ (commaSeparated parameters ++ ([mark '|'] ++ block body)) := by simp
  have bar : Accepts (take (.mark "|")) [.mark '|' joint] () fun _ => True := by
    cases joint with
    | true => exact fun _ _ _ _ _ _ => rfl
    | false => exact fun _ _ _ _ _ _ => rfl
  have inside : Accepts (commaItems (comes (.mark "|")) (closureParameter (nestedUpTo depth)))
      (commaSeparated parameters) () fun rest => ∃ back, rest = mark '|' :: back := by
    refine Accepts.commaSeparated (comes_apply _)
      (fun parameter listed => (each parameter listed).reads depth
        ((Nat.mul_le_mul_left 8 (length_le_commaSeparated listed)).trans deepParameters))
      (fun parameter listed => (each parameter listed).begins) endsParameter_comma
      (fun _ => rfl) ?_
    rintro _ ⟨back, rfl⟩
    exact ⟨rfl, endsParameter_bar back⟩
  have ended : Accepts (closureEnd (nestedUpTo depth)) ([mark '|'] ++ block body) ()
      EndsExpression :=
    .step _ (fun _ _ _ _ => rfl)
      (.skip (fun _ _ => rfl) (accepts_blockExpression isStatements deepBody))
  rw [split]
  exact bar.bind (inside.bind ended fun _ _ => ⟨_, rfl⟩) fun _ _ => trivial

/-- A closure whose body is a block. The bar in front may be joint with the one behind it. -/
theorem isExpression_bars (joint : Bool) (each : ∀ parameter ∈ parameters, IsParameter parameter)
    (isStatements : IsStatements body) :
    IsExpression (.mark '|' joint :: commaSeparated parameters ++ mark '|' :: block body) where
  goesOn _ := rfl
  reads := by
    intro depth deep rest written unread limit follows enough
    simp only [List.length_append, List.length_cons] at deep
    have begins : BeginsValue (.mark '|' joint :: commaSeparated parameters ++
        mark '|' :: block body ++ rest) := ⟨rfl, rfl, rfl, rfl⟩
    have accepts : Accepts (barredClosure (nestedUpTo depth) >>= fun _ => pure Form.plain)
        (.mark '|' joint :: commaSeparated parameters ++ mark '|' :: block body) .plain
          EndsExpression :=
      (accepts_barredClosure each isStatements (by omega) (by omega)).map (f := fun _ => Form.plain)
    have read : value (nestedUpTo depth) true ⟨.mark '|' joint :: commaSeparated parameters ++
        mark '|' :: block body ++ rest, written, unread, limit⟩ = _ :=
      accepts rest written unread limit follows enough
    rw [operand_of_beginsValue begins, bind_apply read]
    exact trailersUpTo_none follows.toEndsOperand limit .plain

/-- A closure without parameters. Its bars are written apart. -/
theorem isExpression_thunk (isStatements : IsStatements body) : IsExpression (thunk body) :=
  isExpression_bars true (List.forall_mem_nil _) isStatements

theorem isExpression_closure {parameter : List Token} (isParameter : IsParameter parameter)
    (isStatements : IsStatements body) : IsExpression (closure parameter body) := by
  have bars := isExpression_bars false (List.forall_mem_singleton.mpr isParameter) isStatements
  rwa [commaSeparated_singleton] at bars

end

/-! ## 6. Repetitions -/

/-- What follows a block does not make it a value, and is no semicolon. -/
structure AfterBlock (rest : List Token) : Prop where
  member : (Sign.mark ".").starts rest = false
  failure : (Sign.mark "?").starts rest = false
  separator : (Sign.mark ";").starts rest = false

/-- A name in front of a block is not read as a record. -/
theorem accepts_beforeBlock (free : isReserved name = false) (deep : 2 ≤ depth) :
    Accepts (discard (nestedUpTo depth (.expression false))) (word name) ()
      fun rest => ∃ back, rest = .opening .brace :: back := by
  obtain ⟨depth, rfl⟩ : ∃ fewer, depth = fewer + 2 := ⟨depth - 2, by omega⟩
  suffices taken : Accepts (nestedUpTo (depth + 2) (.expression false)) (word name) .plain
      fun rest => ∃ back, rest = .opening .brace :: back from taken.discard
  rintro _ written unread limit ⟨back, rfl⟩ enough
  have behind : EndsOperand (.opening .brace :: back) :=
    ⟨⟨rfl, rfl, rfl, rfl⟩, rfl, rfl, rfl, rfl, rfl, rfl, rfl, fun _ => rfl⟩
  have begins : BeginsPath (word name ++ .opening .brace :: back) := .name free _
  have read : pathValue (nestedUpTo depth) false
      ⟨word name ++ .opening .brace :: back, written, unread, limit⟩ = _ :=
    pathValue_eq begins behind.toEndsPath
      (takes_plainPath (isPath_name free) (List.cons_ne_nil _ _) true) rfl enough
  have value : value (nestedUpTo depth) false
      ⟨word name ++ .opening .brace :: back, written, unread, limit⟩ =
      .ok (.plain, ⟨.opening .brace :: back, .name name :: written, unread, limit⟩) := by
    rw [value_of_beginsPath begins rfl, read]
    rfl
  have operand : nestedUpTo (depth + 1) (.operand false)
      ⟨word name ++ .opening .brace :: back, written, unread, limit⟩ =
      .ok (.plain, ⟨.opening .brace :: back, .name name :: written, unread, limit⟩) := by
    rw [nestedUpTo, readConstruct, operand_of_beginsValue begins.beginsValue, bind_apply value,
      get_bind]
    exact trailersUpTo_none behind limit .plain
  have marked : nestedUpTo (depth + 2) (.expression false)
      ⟨word name ++ .opening .brace :: back, written, unread, limit⟩ =
      (nestedUpTo (depth + 1) (.operand false) >>= fun first => get >>= fun here =>
        operationsUpTo (nestedUpTo depth) .jump false here.limit first)
          ⟨word name ++ .opening .brace :: back, written, unread, limit⟩ := rfl
  rw [marked, bind_apply operand, get_bind]
  exact operationsUpTo_none behind .jump limit .plain

/-- The elements of a list, one after the other. -/
def forEach (element list : String) (body : List Token) : List Token :=
  word "for" ++ word element ++ word "in" ++ word list ++ block body

theorem forEach_eq (element list : String) (body : List Token) :
    forEach element list body =
      word "for" ++ (word element ++ (word "in" ++ (word list ++ block body))) := by
  simp [forEach]

/-- A repetition over a list, behind its first word. -/
def repetitionOver (nested : Nested) : Reader Unit := do
  discard (alternatives nested)
  take (.word "in")
  discard (nested (.expression false))
  attributedBlock nested

theorem accepts_forEach {element list : String} (freeElement : isReserved element = false)
    (freeList : isReserved list = false) (isStatements : IsStatements body)
    (deep : 8 * (forEach element list body).length ≤ depth + 1) :
    Accepts (value (nestedUpTo depth) true) (forEach element list body) .blockLike behind := by
  simp only [forEach, block, enclose, word, List.length_append, List.length_cons,
    List.length_nil] at deep
  obtain ⟨depth, rfl⟩ : ∃ fewer, depth = fewer + 1 := ⟨depth - 1, by omega⟩
  have named : Accepts (discard (alternatives (nestedUpTo (depth + 1)))) (word element) ()
      fun rest => ∃ back, rest = .name "in" :: back := by
    suffices taken : Accepts (alternatives (nestedUpTo (depth + 1))) (word element) .plain
        fun rest => ∃ back, rest = .name "in" :: back from taken.discard
    rintro _ written unread limit ⟨back, rfl⟩ enough
    have pattern : nestedUpTo (depth + 1) .pattern
        ⟨word element ++ .name "in" :: back, written, unread, limit⟩ =
        .ok (.plain, ⟨.name "in" :: back, .name element :: written, unread, limit⟩) :=
      accepts_pattern freeElement _ written unread limit ⟨rfl, rfl⟩ enough
    rw [alternatives, accept_bind_missing (starts_mark_name (by decide)), bind_apply pattern]
    rfl
  have repeated : Accepts (repetitionOver (nestedUpTo (depth + 1)))
      (word element ++ (word "in" ++ (word list ++ block body))) () behind := by
    refine .bind named ?_ fun _ _ => ⟨_, rfl⟩
    refine .step _ (fun _ _ _ _ => rfl) ?_
    refine .bind (accepts_beforeBlock freeList (by omega)) ?_ fun _ _ => ⟨_, rfl⟩
    exact accepts_block isStatements (by omega)
  have whole : Accepts (take (.word "for") >>= fun _ => repetitionOver (nestedUpTo (depth + 1)))
      (forEach element list body) () behind := by
    rw [forEach_eq]
    exact .step _ (fun _ _ _ _ => rfl) repeated
  exact (whole.map (f := fun _ => Form.blockLike)).of_eq fun _ _ _ _ _ => rfl

/-- A repetition over a list needs no semicolon. -/
theorem isStatement_forEach (element list : String) (freeElement : isReserved element = false)
    (freeList : isReserved list = false) (isStatements : IsStatements body) :
    IsStatement (forEach element list body) false AfterBlock where
  begins _ := ⟨rfl, rfl, rfl⟩
  reads := by
    intro depth deep rest written unread limit follows enough
    have long := deep
    simp only [forEach, block, enclose, word, List.length_append, List.length_cons,
      List.length_nil] at long
    obtain ⟨depth, rfl⟩ : ∃ fewer, depth = fewer + 1 := ⟨depth - 1, by omega⟩
    obtain ⟨after, same⟩ :
        ∃ after, after = (apart (forEach element list body)).reverse ++ written := ⟨_, rfl⟩
    have accepts : Accepts (value (nestedUpTo depth) true) (forEach element list body) .blockLike
        AfterBlock := accepts_forEach freeElement freeList isStatements deep
    have read := accepts rest written unread limit follows enough
    have braced : comesBlockLike ⟨forEach element list body ++ rest, written, unread, limit⟩ =
        .ok (true, ⟨forEach element list body ++ rest, written, unread, limit⟩) := rfl
    have early : nestedUpTo (depth + 1) .earlyExpression
        ⟨forEach element list body ++ rest, written, unread, limit⟩ =
        .ok (.blockLike, ⟨rest, after, unread, limit⟩) := by
      rw [nestedUpTo, readConstruct, earlyExpression,
        bind_apply (discard_apply (outerAttributes_none rfl)), bind_apply braced]
      simp only [↓reduceIte]
      rw [bind_apply read, ← same]
      simp only [↓reduceIte]
      rw [comes_bind, comes_bind]
      simp only [follows.member, Bool.false_and, Bool.false_or]
      rw [comes_bind]
      simp only [follows.failure, Bool.false_eq_true, ↓reduceIte]
      rfl
    have called : statementMacro ⟨forEach element list body ++ rest, written, unread, limit⟩ =
        .ok (.none, ⟨forEach element list body ++ rest, written, unread, limit⟩) := rfl
    have noItem : comesItem ⟨forEach element list body ++ rest, written, unread, limit⟩ =
        .ok (false, ⟨forEach element list body ++ rest, written, unread, limit⟩) := rfl
    have binds : (Sign.word "let").starts (forEach element list body ++ rest) = false := rfl
    rw [Grammar.statement, get_bind, bind_apply (discard_apply (outerAttributes_none rfl)),
      bind_apply called]
    simp only
    rw [comes_bind]
    simp only [binds, Bool.false_eq_true, ↓reduceIte]
    rw [bind_apply noItem]
    simp only [reduceCtorEq, decide_false, Bool.or_self, Bool.false_eq_true, ↓reduceIte]
    rw [bind_apply early, accept_bind_missing follows.separator, ← same]
    rfl

end ContractBinder.Code
