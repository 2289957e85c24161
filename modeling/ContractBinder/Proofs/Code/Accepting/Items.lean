import ContractBinder.Proofs.Code.Accepting.Statements
import ContractBinder.Proofs.Code.Reading.ModuleItems

/-!
# Modules that are read as they are written

A module is a sequence of items behind their attributes, as an implementation is one of members. If
every part is read as it is written, so is the module, but no two bars of what is written are joint.

Results:

1. `isAttribute_documentation` and `isAttribute_allowing`: the attributes that generated code has.
2. `isItem_constant`, `isItem_staticValue`, `isItem_record` and `isMember_function`: constants,
   static values, records with named fields, and functions, behind whatever attributes.
3. `AreParts` puts parts together, and `AreParts.implementation` makes one part of members.
4. `readModule_of_areParts`: a module of such items is read.
-/

namespace ContractBinder.Code

open Reader Grammar PathReading

variable {nested : Nested} {origin : Progress} {name : String} {depth : Nat}
  {tokens type value body rest : List Token} {parts items : List (List Token)}
  {behind : List Token → Prop}

/-! ## 1. Attributes -/

/-- The tokens are read as one attribute. -/
structure IsAttribute (tokens : List Token) : Prop where
  begins : ∃ rest, tokens = mark '#' :: .opening .bracket :: rest
  reads : ∀ depth, 8 * tokens.length ≤ depth →
    Accepts (nextAttribute (nestedUpTo depth)) tokens true fun _ => True

theorem isAttribute_documentation (content : String) : IsAttribute (docAttribute content) where
  begins := ⟨_, rfl⟩
  reads := by
    intro depth deep rest written unread limit _ enough
    simp only [docAttribute, enclose, List.length_append, List.length_cons, List.length_nil] at deep
    obtain ⟨depth, rfl⟩ : ∃ fewer, depth = fewer + 4 := ⟨depth - 4, by omega⟩
    obtain ⟨limit, rfl⟩ : ∃ fewer, limit = fewer + 1 := ⟨limit - 1, by omega⟩
    rw [nextAttribute_documentation (readsTexts_nestedUpTo depth), Option.or_none]
    rfl

/-- An attribute with a list in round brackets, which is not read. -/
theorem isAttribute_allowing (free : isReserved name = false)
    (matched : Matched true (commaSeparated items))
    (same : apart (commaSeparated items) = commaSeparated items) :
    IsAttribute (attributeOf (call (word name) items)) where
  begins := ⟨_, rfl⟩
  reads := by
    intro depth deep
    have list : Accepts (discard takeAnyBrackets) (enclose .paren (commaSeparated items)) ()
        Closing := by
      have wrote : apart (enclose .paren (commaSeparated items)) =
          enclose .paren (commaSeparated items) := by simp [enclose, same]
      intro rest written unread limit _ _
      rw [wrote]
      exact discard_apply (takeAnyBrackets_eq matched)
    have content : Accepts (attributeContent (nestedUpTo depth)) (call (word name) items) ()
        Closing := by
      have path : Accepts modulePath (pathOf false [name]) () fun rest =>
          (Sign.mark "::").starts rest = false :=
        accepts_modulePath (List.forall_mem_singleton.mpr (.inl free)) (List.cons_ne_nil _ _)
      refine .skip (fun rest _ => not_starts_word free rfl) ?_
      exact .bind path (list.of_eq fun _ _ _ _ _ => rfl) fun _ _ => rfl
    have hash : Accepts (accept (.mark "#")) [mark '#'] true fun _ => True :=
      fun _ _ _ _ _ _ => rfl
    exact hash.bind (content.brackets.map (f := fun _ => true)) fun _ _ => trivial

/-- Attributes, one after the other, up to something else. -/
theorem accepts_outerAttributes (each : ∀ part ∈ parts, IsAttribute part)
    (deep : 8 * parts.flatten.length ≤ depth) :
    Accepts (discard (outerAttributes (nestedUpTo depth))) parts.flatten ()
      fun rest => (Sign.mark "#").starts rest = false := by
  have stops : Accepts (nextAttribute (nestedUpTo depth)) [] false
      fun rest => (Sign.mark "#").starts rest = false :=
    .skip (fun _ follows => follows) .pure
  have accepted : Accepts (repeatWhile (nextAttribute (nestedUpTo depth))) (parts.flatten ++ []) ()
      fun rest => (Sign.mark "#").starts rest = false := by
    refine (Repeats.each (fun part listed => ?_) (.last stops)).accepts
    obtain ⟨rest, same⟩ := (each part listed).begins
    refine ⟨same ▸ List.cons_ne_nil _ _, (each part listed).reads depth ?_⟩
    have := (List.infix_of_mem_flatten listed).length_le
    omega
  rw [List.append_nil] at accepted
  refine accepted.of_eq fun rest written unread limit _ => ?_
  have found : discard (outerAttributes (nestedUpTo depth)) =
      (comes (.mark "#") >>= fun found =>
        repeatWhile (nextAttribute (nestedUpTo depth)) >>= fun _ => pure found) >>= fun _ =>
          pure () := rfl
  rw [found, bind_assoc, comes_bind, bind_assoc]
  simp only [pure_bind, bind_pure_unit]

/-! ## 2. Constants and static values -/

/-- A value of a type under a name, as constants and static values have it. -/
def definition (name : String) (type value : List Token) : List Token :=
  typed name type ++ mark '=' :: value

theorem accepts_constant (free : isReserved name = false) (isType : IsType type)
    (isExpression : IsExpression value)
    (deep : 8 * (statement (definition name type value)).length ≤ depth) :
    Accepts (constant (nestedUpTo depth) origin true)
      (word "const" ++ statement (definition name type value)) () behind := by
  have split : word "const" ++ statement (definition name type value) =
      word "const" ++ (word name ++ ([mark ':'] ++ (type ++ ([mark '='] ++
        (value ++ [mark ';']))))) := by
    simp [statement, definition, typed, word]
  simp only [statement, definition, typed, List.length_append, List.length_cons] at deep
  rw [split]
  refine .step _ (fun _ _ _ _ => rfl) ?_
  refine .step _ (fun _ _ _ _ => takeAny_name free) ?_
  refine .idle false (fun _ _ _ _ _ => rfl) ?_
  refine .idle _ (fun _ _ _ _ _ => rfl) ?_
  refine .step _ (fun _ _ _ _ => rfl) ?_
  refine .bind (isType.accepts (by omega) true) ?_ fun _ _ => ⟨rfl, rfl, rfl, rfl⟩
  refine .step true (fun _ _ _ _ => rfl) ?_
  refine .bind (isExpression.discarded (by omega)) ?_ fun _ _ => endsExpression_semicolon _
  exact fun _ _ _ _ _ _ => rfl

theorem accepts_staticValue (free : isReserved name = false) (isType : IsType type)
    (isExpression : IsExpression value)
    (deep : 8 * (statement (definition name type value)).length ≤ depth) :
    Accepts (staticValue (nestedUpTo depth) origin)
      (word "static" ++ statement (definition name type value)) () behind := by
  have split : word "static" ++ statement (definition name type value) =
      word "static" ++ (word name ++ ([mark ':'] ++ (type ++ ([mark '='] ++
        (value ++ [mark ';']))))) := by
    simp [statement, definition, typed, word]
  simp only [statement, definition, typed, List.length_append, List.length_cons] at deep
  rw [split]
  refine .step _ (fun _ _ _ _ => rfl) ?_
  refine .skipDiscarded (fun _ _ => not_starts_word free rfl) ?_
  refine .step _ (fun _ _ _ _ => take_name free) ?_
  refine .skip (fun _ _ => rfl) ?_
  refine .step _ (fun _ _ _ _ => rfl) ?_
  refine .bind (isType.accepts (by omega) true) ?_ fun _ _ => ⟨rfl, rfl, rfl, rfl⟩
  refine .skip (fun _ _ => rfl) ?_
  refine .step _ (fun _ _ _ _ => rfl) ?_
  exact .bind (isExpression.discarded (by omega)) (fun _ _ _ _ _ _ => rfl)
    fun _ _ => endsExpression_semicolon _

/-! ## 3. Records -/

/-- The tokens are read as a named field of a record. -/
structure IsFieldItem (tokens : List Token) : Prop where
  goesOn : ∀ rest, atEnd (tokens ++ rest) = false
  reads : ∀ depth, 8 * tokens.length ≤ depth →
    Accepts (fieldItem (nestedUpTo depth) true) tokens () EndsPath

theorem outerAttributes_name (rest written : List Token) (unread : Option Delimiter) (limit : Nat) :
    discard (outerAttributes nested) ⟨.name name :: rest, written, unread, limit⟩ =
      .ok ((), ⟨.name name :: rest, written, unread, limit⟩) :=
  discard_apply (outerAttributes_none (starts_mark_name (by decide)))

theorem accepts_visibility :
    Accepts visibility (word "pub") () fun rest => (Sign.opening .paren).starts rest = false := by
  intro rest written unread limit follows _
  have seen : accept (.word "pub") ⟨word "pub" ++ rest, written, unread, limit⟩ =
      .ok (true, ⟨rest, .name "pub" :: written, unread, limit⟩) := rfl
  rw [visibility, bind_apply seen]
  simp only [↓reduceIte]
  rw [comes_bind]
  simp only [follows, Bool.false_eq_true, ↓reduceIte]
  rfl

theorem isFieldItem_typed (name : String) (free : isReserved name = false)
    (isType : IsType tokens) :
    IsFieldItem (typed name tokens) where
  goesOn _ := rfl
  reads := by
    intro depth deep
    have split : typed name tokens = word name ++ ([mark ':'] ++ tokens) := rfl
    rw [typed, List.length_cons, List.length_cons] at deep
    rw [split]
    refine .idle _ (fun _ _ _ _ _ => outerAttributes_name _ _ _ _) ?_
    refine .idle _ (fun _ _ _ _ _ => bind_apply (accept_missing (not_starts_word free rfl))) ?_
    refine .skip (fun _ _ => not_starts_word free rfl) ?_
    refine .step _ (fun _ _ _ _ => take_name free) ?_
    refine .step _ (fun _ _ _ _ => rfl) ?_
    exact isType.accepts (by omega) true

theorem isFieldItem_public (name : String) (free : isReserved name = false)
    (isType : IsType tokens) :
    IsFieldItem (word "pub" ++ typed name tokens) where
  goesOn _ := rfl
  reads := by
    intro depth deep
    have split : word "pub" ++ typed name tokens =
        word "pub" ++ (word name ++ ([mark ':'] ++ tokens)) := rfl
    simp only [typed, List.length_append, List.length_cons] at deep
    rw [split]
    refine .idle _ (fun _ _ _ _ _ => outerAttributes_name _ _ _ _) ?_
    refine .bind accepts_visibility ?_ fun _ _ => rfl
    refine .skip (fun _ _ => not_starts_word free rfl) ?_
    refine .step _ (fun _ _ _ _ => take_name free) ?_
    refine .step _ (fun _ _ _ _ => rfl) ?_
    exact isType.accepts (by omega) true

/-- A record with named fields, each with a comma behind it. -/
theorem accepts_record (free : isReserved name = false) (each : ∀ item ∈ items, IsFieldItem item)
    (deep : 8 * (commaTerminated items).length ≤ depth) :
    Accepts (record (nestedUpTo depth))
      (word "struct" ++ (word name ++ block (commaTerminated items))) () behind := by
  have short (item : List Token) (listed : item ∈ items) : 8 * item.length ≤ depth :=
    (Nat.mul_le_mul_left 8 (length_le_commaTerminated listed)).trans deep
  have reads (item : List Token) (listed : item ∈ items) :=
    (each item listed).reads depth (short item listed)
  have fields : Accepts (namedFields (nestedUpTo depth)) (block (commaTerminated items)) ()
      behind :=
    (accepts_commaItemsInside reads
      (fun item listed => (each item listed).goesOn) endsPath_comma
      fun _ ⟨delimiter, back, same⟩ => same ▸ ⟨rfl, endsPath_closing delimiter back⟩).2.brackets
  refine .step _ (fun _ _ _ _ => rfl) ?_
  refine .step _ (fun _ _ _ _ => take_name free) ?_
  refine .idle _ (fun _ _ _ _ _ => rfl) ?_
  refine .idle false (fun _ _ _ _ _ => rfl) ?_
  refine .idle _ (fun _ _ _ _ _ => rfl) ?_
  exact fields.of_eq fun _ _ _ _ _ => rfl

/-! ## 4. Functions -/

/-- Names with their types, with commas between them, and perhaps one behind the last. -/
inductive IsParameters : List Token → Prop
  | nil : IsParameters []
  | last {name : String} {type : List Token} :
      isReserved name = false → IsType type → IsParameters (typed name type)
  | cons {name : String} {type rest : List Token} :
      isReserved name = false → IsType type → IsParameters rest →
      IsParameters (typed name type ++ mark ',' :: rest)

/-- A name with its type. -/
def IsTyped (tokens : List Token) : Prop :=
  ∃ name type, tokens = typed name type ∧ isReserved name = false ∧ IsType type

theorem isTyped (name : String) (free : isReserved name = false) (isType : IsType type) :
    IsTyped (typed name type) :=
  ⟨name, type, rfl, free, isType⟩

theorem isParameters_commaSeparated (each : ∀ item ∈ items, IsTyped item) :
    IsParameters (commaSeparated items) := by
  induction items with
  | nil => exact .nil
  | cons first others ih =>
    obtain ⟨⟨name, type, rfl, free, isType⟩, later⟩ := List.forall_mem_cons.mp each
    cases others with
    | nil =>
      rw [commaSeparated, List.intercalate_singleton]
      exact .last free isType
    | cons second others =>
      rw [commaSeparated_cons_cons]
      exact .cons free isType (ih later)

theorem isParameters_commaTerminated (each : ∀ item ∈ items, IsTyped item) :
    IsParameters (commaTerminated items) := by
  induction items with
  | nil => exact .nil
  | cons first others ih =>
    obtain ⟨⟨name, type, rfl, free, isType⟩, later⟩ := List.forall_mem_cons.mp each
    rw [commaTerminated, List.flatMap_cons, List.append_assoc]
    exact .cons free isType (ih later)

theorem receiverParameter_name (free : isReserved name = false) (rest written : List Token)
    (unread : Option Delimiter) (limit : Nat) :
    attempt (receiverParameter nested) ⟨.name name :: rest, written, unread, limit⟩ =
      .ok (none, ⟨.name name :: rest, written, unread, limit⟩) := by
  have noSelf : (Sign.word "self").starts (.name name :: rest) = false :=
    not_starts_word free rfl
  have fails : take (.word "self") ⟨.name name :: rest, written, unread, limit⟩ =
      .error (.missing (Sign.word "self").wanted false) := by
    rw [take, upcoming_bind]
    simp only [noSelf, Bool.false_eq_true, ↓reduceIte]
    rfl
  have reads : receiverParameter nested ⟨.name name :: rest, written, unread, limit⟩ =
      .error (.missing (Sign.word "self").wanted false) := by
    rw [receiverParameter, accept_bind_missing (starts_mark_name (by decide))]
    simp only [Bool.false_eq_true, ↓reduceIte]
    rw [bind_apply (discard_apply (accept_missing (not_starts_word free rfl)))]
    simp only [bind, StateT.bind, fails, Except.bind]
  rw [attempt, reads]

theorem accepts_typedParameter (free : isReserved name = false) (isType : IsType type)
    (deep : 8 * type.length < depth) :
    Accepts (typedParameter (nestedUpTo depth)) (typed name type) true EndsPath := by
  obtain ⟨depth, rfl⟩ : ∃ fewer, depth = fewer + 1 := ⟨depth - 1, by omega⟩
  have split : typed name type = word name ++ ([mark ':'] ++ type) := rfl
  have named : Accepts (discard (nestedUpTo (depth + 1) .pattern)) (word name) () EndsPattern :=
    (accepts_pattern free).discard
  have noAngle (rest : List Token) : (Sign.name.starts (typed name type ++ rest) &&
      (Sign.mark "<").starts (afterFirst (typed name type ++ rest))) = false := by
    rw [Bool.and_comm]
    rfl
  have plain : Accepts (discard (nestedUpTo (depth + 1) .pattern) >>= fun _ =>
      take (.mark ":") >>= fun _ => do
        if ← accept (.mark "...") then return false
        else
          discard (nestedUpTo (depth + 1)).type
          return true) (typed name type) true EndsPath := by
    rw [split]
    refine .bind named ?_ fun _ _ => ⟨rfl, rfl⟩
    refine .step _ (fun _ _ _ _ => rfl) ?_
    refine .skip (fun rest _ => (isType.begins rest).dots) ?_
    exact (isType.accepts (by omega) true).map (f := fun _ => true)
  refine plain.of_eq fun rest _ _ _ _ => ?_
  rw [typedParameter, comes_bind, comesSecond_bind]
  simp only [noAngle, Bool.false_eq_true, ↓reduceIte]

theorem functionParametersUpTo_typed (free : isReserved name = false) (isType : IsType type)
    (deep : 8 * type.length < depth) (first received : Bool) (bound : Nat)
    {written : List Token} {unread : Option Delimiter} {limit : Nat} (follows : EndsPath rest)
    (enough : (typed name type ++ rest).length < limit) :
    functionParametersUpTo (nestedUpTo depth) first received (bound + 1)
        ⟨typed name type ++ rest, written, unread, limit⟩ =
      (do
        if ← ends then return
        take (.mark ",")
        functionParametersUpTo (nestedUpTo depth) false received bound)
          ⟨rest, (apart (typed name type)).reverse ++ written, unread, limit⟩ := by
  have goesOn : atEnd (typed name type ++ rest) = false := rfl
  have unmarked : discard (outerAttributes (nestedUpTo depth))
      ⟨typed name type ++ rest, written, unread, limit⟩ =
      .ok ((), ⟨typed name type ++ rest, written, unread, limit⟩) := outerAttributes_name _ _ _ _
  have noReceiver : attempt (receiverParameter (nestedUpTo depth))
      ⟨typed name type ++ rest, written, unread, limit⟩ =
      .ok (none, ⟨typed name type ++ rest, written, unread, limit⟩) :=
    receiverParameter_name free _ _ _ _
  rw [functionParametersUpTo, ends_bind]
  simp only [goesOn, Bool.false_eq_true, ↓reduceIte]
  rw [bind_apply unmarked, bind_apply noReceiver]
  simp only [Option.isSome_none, Bool.false_and, Bool.false_eq_true, ↓reduceIte, Bool.or_false]
  rw [accept_bind_missing (starts_mark_name (by decide))]
  simp only [Bool.false_eq_true, ↓reduceIte]
  rw [bind_apply (accepts_typedParameter free isType deep _ _ _ _ follows enough)]
  rfl

theorem functionParametersUpTo_end (first received : Bool) (bound : Nat) :
    Accepts (functionParametersUpTo nested first received bound) [] () Closing := by
  rintro _ written unread limit ⟨delimiter, back, rfl⟩ _
  cases bound with
  | zero => rfl
  | succ bound => rfl

theorem accepts_functionParameters (isParameters : IsParameters tokens) (received : Bool)
    (deep : 8 * tokens.length ≤ depth) (first : Bool) {bound : Nat}
    (more : tokens.length < bound) :
    Accepts (functionParametersUpTo (nestedUpTo depth) first received bound) tokens () Closing := by
  induction isParameters generalizing first bound with
  | nil => exact functionParametersUpTo_end first received bound
  | @last name type free isType =>
    obtain ⟨bound, rfl⟩ : ∃ fewer, bound = fewer + 1 := ⟨bound - 1, by omega⟩
    simp only [typed, List.length_cons] at deep
    rintro _ written unread limit ⟨delimiter, back, rfl⟩ enough
    rw [functionParametersUpTo_typed free isType (by omega) first received bound
      (endsPath_closing _ _) enough]
    rfl
  | @cons name type rest free isType _ ih =>
    obtain ⟨bound, rfl⟩ : ∃ fewer, bound = fewer + 1 := ⟨bound - 1, by omega⟩
    simp only [typed, List.length_append, List.length_cons] at deep more
    intro behind written unread limit follows enough
    have shorter : (rest ++ behind).length < limit := by
      simp only [List.length_append, List.length_cons] at enough ⊢
      omega
    have accepts : Accepts (functionParametersUpTo (nestedUpTo depth) false received bound) rest ()
        Closing := ih (by omega) false (by omega)
    have later := accepts behind (mark ',' :: ((apart (typed name type)).reverse ++ written)) unread
      limit follows shorter
    rw [List.append_assoc] at enough ⊢
    rw [List.cons_append] at enough ⊢
    rw [functionParametersUpTo_typed free isType (by omega) first received bound
      (endsPath_comma _) enough]
    have comma : (do
        if ← ends then return
        take (.mark ",")
        functionParametersUpTo (nestedUpTo depth) false received bound : Reader Unit)
          ⟨mark ',' :: (rest ++ behind), (apart (typed name type)).reverse ++ written, unread,
            limit⟩ =
        functionParametersUpTo (nestedUpTo depth) false received bound
          ⟨rest ++ behind, mark ',' :: ((apart (typed name type)).reverse ++ written), unread,
            limit⟩ := rfl
    rw [comma, later]
    simp [Token.apart, mark]

/-- The receiver of a method is its first parameter. -/
theorem functionParametersUpTo_receiver (bound : Nat) {written : List Token}
    {unread : Option Delimiter} {limit : Nat} (noDots : (Sign.mark "...").starts rest = false) :
    functionParametersUpTo nested true false (bound + 1)
        ⟨referenceTo (word "self") ++ rest, written, unread, limit⟩ =
      (do
        if ← ends then return
        take (.mark ",")
        functionParametersUpTo nested false true bound)
          ⟨rest, .name "self" :: mark '&' :: written, unread, limit⟩ := by
  have goesOn : atEnd (referenceTo (word "self") ++ rest) = false := rfl
  have unmarked : discard (outerAttributes nested)
      ⟨referenceTo (word "self") ++ rest, written, unread, limit⟩ =
      .ok ((), ⟨referenceTo (word "self") ++ rest, written, unread, limit⟩) :=
    discard_apply (outerAttributes_none rfl)
  have received : attempt (receiverParameter nested)
      ⟨referenceTo (word "self") ++ rest, written, unread, limit⟩ =
      .ok (some (), ⟨rest, .name "self" :: mark '&' :: written, unread, limit⟩) := rfl
  rw [functionParametersUpTo, ends_bind]
  simp only [goesOn, Bool.false_eq_true, ↓reduceIte]
  rw [bind_apply unmarked, bind_apply received]
  simp only [Option.isSome_some, Bool.not_true, Bool.and_false, Bool.false_eq_true, ↓reduceIte,
    Bool.or_true]
  rw [accept_bind_missing noDots]
  rfl

/-- The tokens are read as the parameters of a function, the first of which may be a receiver. -/
def AreParameters (tokens : List Token) : Prop :=
  ∀ depth bound, 8 * tokens.length ≤ depth → tokens.length < bound →
    Accepts (functionParametersUpTo (nestedUpTo depth) true false bound) tokens () Closing

theorem IsParameters.areParameters (isParameters : IsParameters tokens) : AreParameters tokens :=
  fun _ _ deep more => accepts_functionParameters isParameters false deep true more

theorem areParameters_self : AreParameters (referenceTo (word "self")) := by
  intro depth bound deep more
  obtain ⟨bound, rfl⟩ : ∃ fewer, bound = fewer + 1 := ⟨bound - 1, by omega⟩
  rintro _ written unread limit ⟨delimiter, back, rfl⟩ _
  rw [functionParametersUpTo_receiver bound rfl]
  rfl

theorem areParameters_receiver (isParameters : IsParameters tokens) :
    AreParameters (receiver ++ tokens) := by
  intro depth bound deep more
  obtain ⟨bound, rfl⟩ : ∃ fewer, bound = fewer + 1 := ⟨bound - 1, by omega⟩
  have long : (receiver ++ tokens).length = tokens.length + 3 := by
    rw [List.length_append, Nat.add_comm]
    rfl
  rw [long] at deep more
  intro rest written unread limit follows enough
  rw [List.length_append, long] at enough
  have shorter : (tokens ++ rest).length < limit := by
    rw [List.length_append]
    omega
  have accepts : Accepts (functionParametersUpTo (nestedUpTo depth) false true bound) tokens ()
      Closing := accepts_functionParameters isParameters true (by omega) false (by omega)
  have later := accepts rest (mark ',' :: .name "self" :: mark '&' :: written) unread limit follows
    shorter
  have split : receiver ++ tokens ++ rest =
      referenceTo (word "self") ++ mark ',' :: (tokens ++ rest) := by simp [receiver]
  have comma : (do
      if ← ends then return
      take (.mark ",")
      functionParametersUpTo (nestedUpTo depth) false true bound : Reader Unit)
        ⟨mark ',' :: (tokens ++ rest), .name "self" :: mark '&' :: written, unread, limit⟩ =
      functionParametersUpTo (nestedUpTo depth) false true bound
        ⟨tokens ++ rest, mark ',' :: .name "self" :: mark '&' :: written, unread, limit⟩ := rfl
  rw [split, functionParametersUpTo_receiver bound rfl, comma, later]
  simp [receiver, referenceTo, word, Token.apart, mark]

section

variable {parameters returns : List Token}

theorem accepts_signature (free : isReserved name = false)
    (areParameters : AreParameters parameters) (isType : IsType returns)
    (deepParameters : 8 * parameters.length ≤ depth)
    (deepReturns : 8 * returns.length ≤ depth) :
    Accepts (signature (nestedUpTo depth))
      (word "fn" ++ (word name ++ (enclose .paren parameters ++ (arrow ++ returns)))) ()
        fun rest => ∃ back, rest = .opening .brace :: back := by
  have inside : Accepts (get >>= fun here =>
      functionParametersUpTo (nestedUpTo depth) true false here.limit) parameters () Closing := by
    intro rest written unread limit follows enough
    rw [get_bind]
    refine areParameters depth limit deepParameters ?_ rest written unread limit follows enough
    rw [List.length_append] at enough
    omega
  have returned : Accepts (returned (nestedUpTo depth) true) (arrow ++ returns) () EndsPath :=
    .step true (fun _ _ _ _ => rfl) (isType.accepts deepReturns true)
  have nothing : Accepts (requirements (nestedUpTo depth)) [] ()
      fun rest => ∃ back, rest = .opening .brace :: back := by
    rintro _ written unread limit ⟨back, rfl⟩ _
    rfl
  refine .idle _ (fun _ _ _ _ _ => rfl) ?_
  refine .step _ (fun _ _ _ _ => rfl) ?_
  refine .step _ (fun _ _ _ _ => take_name free) ?_
  refine .idle _ (fun _ _ _ _ _ => rfl) ?_
  have enclosed : Accepts (brackets .paren (get >>= fun here =>
      functionParametersUpTo (nestedUpTo depth) true false here.limit))
        (enclose .paren parameters) () fun _ => True := inside.brackets
  refine enclosed.bind ?_ fun _ _ => trivial
  rw [← List.append_nil (arrow ++ returns)]
  refine returned.bind nothing ?_
  rintro _ ⟨back, rfl⟩
  exact ⟨rfl, rfl, rfl, rfl⟩

/-- A function with its body. -/
theorem accepts_function (free : isReserved name = false) (areParameters : AreParameters parameters)
    (isType : IsType returns) (isStatements : IsStatements body)
    (deep : 8 * (methodOf name parameters returns body).length ≤ depth) :
    Accepts (function (nestedUpTo depth) origin)
      (word "fn" ++ (word name ++ (enclose .paren parameters ++ (arrow ++ returns))) ++ block body)
        () behind := by
  simp only [methodOf, block, enclose, List.length_append, List.length_cons] at deep
  refine .bind (accepts_signature free areParameters isType (by omega) (by omega)) ?_
    fun _ _ => ⟨_, rfl⟩
  exact .skip (fun _ _ => rfl) (accepts_block isStatements (by omega))

end

/-! ## 5. Items and members -/

/-- What comes first is neither the end nor an attribute for what is around. -/
structure BeginsPart (tokens : List Token) : Prop where
  goesOn : atEnd tokens = false
  outer : ((Sign.mark "#").starts tokens && (Sign.mark "!").starts (afterFirst tokens)) = false

theorem beginsPart_attributes (each : ∀ part ∈ parts, IsAttribute part)
    (begins : BeginsPart (tokens ++ rest)) : BeginsPart (parts.flatten ++ tokens ++ rest) := by
  cases parts with
  | nil => exact begins
  | cons first others =>
    obtain ⟨inside, rfl⟩ := (each first List.mem_cons_self).begins
    exact ⟨rfl, rfl⟩

/-- The tokens are read as one of the parts that a module or an implementation consists of. -/
structure IsPart (reader : Nested → Reader Unit) (tokens : List Token) : Prop where
  begins : ∀ rest, BeginsPart (tokens ++ rest)
  reads : ∀ depth, 8 * tokens.length ≤ depth →
    Accepts (reader (nestedUpTo depth)) tokens () fun _ => True

/-- The tokens are read as such a part behind whatever attributes. -/
def IsAttributable (reader : Nested → Reader Unit) (tokens : List Token) : Prop :=
  ∀ parts : List (List Token),
    (∀ part ∈ parts, IsAttribute part) → IsPart reader (parts.flatten ++ tokens)

theorem IsAttributable.cons {reader : Nested → Reader Unit} {front : List Token}
    (isAttributable : IsAttributable reader tokens) (isAttribute : IsAttribute front) :
    IsAttributable reader (front ++ tokens) := by
  intro parts each
  have both := List.forall_mem_append.mpr ⟨each, List.forall_mem_singleton.mpr isAttribute⟩
  have part := isAttributable (parts ++ [front]) both
  rwa [List.flatten_append, List.flatten_singleton, List.append_assoc] at part

section

variable {core : Progress → Bool → Reader Unit} (each : ∀ part ∈ parts, IsAttribute part)

include each

/-- What is public, behind its attributes. -/
theorem accepts_public (reads : ∀ origin, Accepts (core origin true) tokens () behind)
    (deep : 8 * parts.flatten.length ≤ depth)
    (closed : ∀ rest, (Sign.opening .paren).starts (tokens ++ rest) = false) :
    Accepts (publishable (nestedUpTo depth) core) (parts.flatten ++ (word "pub" ++ tokens)) ()
      behind := by
  have later (origin : Progress) : Accepts (discard (outerAttributes (nestedUpTo depth)) >>=
      fun _ => comes (.word "pub") >>= fun visible => visibility >>= fun _ => core origin visible)
        (parts.flatten ++ (word "pub" ++ tokens)) () behind := by
    refine .bind (accepts_outerAttributes each deep) ?_ fun _ _ => rfl
    refine .idle true (fun _ _ _ _ _ => rfl) ?_
    exact .bind accepts_visibility (reads origin) fun rest _ => closed rest
  exact fun rest written unread limit => later _ rest written unread limit

/-- What is not public, behind its attributes. -/
theorem accepts_private (reads : ∀ origin, Accepts (core origin false) tokens () behind)
    (deep : 8 * parts.flatten.length ≤ depth)
    (hidden : ∀ rest, (Sign.word "pub").starts (tokens ++ rest) = false)
    (unmarked : ∀ rest, (Sign.mark "#").starts (tokens ++ rest) = false) :
    Accepts (publishable (nestedUpTo depth) core) (parts.flatten ++ tokens) () behind := by
  have later (origin : Progress) : Accepts (discard (outerAttributes (nestedUpTo depth)) >>=
      fun _ => comes (.word "pub") >>= fun visible => visibility >>= fun _ => core origin visible)
        (parts.flatten ++ tokens) () behind := by
    refine .bind (accepts_outerAttributes each deep) ?_ fun rest _ => unmarked rest
    refine .look (fun rest _ => hidden rest) ?_
    refine .idle _ (fun rest _ _ _ _ => bind_apply (accept_missing (hidden rest))) ?_
    exact reads origin
  exact fun rest written unread limit => later _ rest written unread limit

end

/-- What is public in a module is read as an item. -/
theorem isItem_public (closed : ∀ rest, (Sign.opening .paren).starts (tokens ++ rest) = false)
    (reads : ∀ depth core origin, BehindItems (nestedUpTo depth) core →
      8 * tokens.length ≤ depth → Accepts (core origin true) tokens () fun _ => True) :
    IsAttributable item (word "pub" ++ tokens) := by
  refine fun parts each => ⟨fun _ => beginsPart_attributes each ⟨rfl, rfl⟩, fun depth deep => ?_⟩
  simp only [List.length_append] at deep
  obtain ⟨core, reader⟩ := exists_behindItems (nestedKeeps_nestedUpTo depth)
  rw [reader.item]
  exact accepts_public each (fun origin => reads depth core origin reader (by omega)) (by omega)
    closed

theorem isItem_constant (free : isReserved name = false) (isType : IsType type)
    (isExpression : IsExpression value) :
    IsAttributable item
      (word "pub" ++ (word "const" ++ statement (definition name type value))) := by
  refine isItem_public (fun _ => rfl) fun depth core origin reader deep => ?_
  rw [List.length_append] at deep
  have accepts : Accepts (constant (nestedUpTo depth) origin true)
      (word "const" ++ statement (definition name type value)) () fun _ => True :=
    accepts_constant free isType isExpression (by omega)
  exact accepts.of_eq fun _ _ _ _ _ => reader.constant origin true _ name _ free rfl

theorem isItem_staticValue (free : isReserved name = false) (isType : IsType type)
    (isExpression : IsExpression value) :
    IsAttributable item
      (word "pub" ++ (word "static" ++ statement (definition name type value))) := by
  refine isItem_public (fun _ => rfl) fun depth core origin reader deep => ?_
  rw [List.length_append] at deep
  have accepts : Accepts (staticValue (nestedUpTo depth) origin)
      (word "static" ++ statement (definition name type value)) () fun _ => True :=
    accepts_staticValue free isType isExpression (by omega)
  exact accepts.of_eq fun _ _ _ _ _ => reader.staticValue origin true _ _ rfl

theorem isItem_record (free : isReserved name = false) (each : ∀ item ∈ items, IsFieldItem item) :
    IsAttributable item
      (word "pub" ++ (word "struct" ++ (word name ++ block (commaTerminated items)))) := by
  refine isItem_public (fun _ => rfl) fun depth core origin reader deep => ?_
  simp only [block, enclose, List.length_append, List.length_cons] at deep
  have accepts : Accepts (record (nestedUpTo depth))
      (word "struct" ++ (word name ++ block (commaTerminated items))) () fun _ => True :=
    accepts_record free each (by omega)
  exact accepts.of_eq fun _ _ _ _ _ => reader.record origin true _ _ rfl

/-- A public function of an implementation. -/
theorem isMember_function {parameters returns : List Token} (free : isReserved name = false)
    (areParameters : AreParameters parameters) (isType : IsType returns)
    (isStatements : IsStatements body) :
    IsAttributable implementationMember (methodOf name parameters returns body) := by
  refine fun parts each => ⟨fun _ => beginsPart_attributes each ⟨rfl, rfl⟩, fun depth deep => ?_⟩
  rw [List.length_append] at deep
  obtain ⟨core, reader⟩ := exists_behindMembers (nestedKeeps_nestedUpTo depth)
  have split : methodOf name parameters returns body = word "pub" ++ (word "fn" ++ (word name ++
      (enclose .paren parameters ++ (arrow ++ returns))) ++ block body) := by
    simp [methodOf, word]
  rw [reader.member, split]
  refine accepts_public each (fun origin => ?_) (by omega) fun _ => rfl
  have accepts : Accepts (function (nestedUpTo depth) origin) (word "fn" ++ (word name ++
      (enclose .paren parameters ++ (arrow ++ returns))) ++ block body) () fun _ => True :=
    accepts_function free areParameters isType isStatements (by omega)
  exact accepts.of_eq fun _ _ _ _ _ => reader.function origin true _ _ _ _

theorem outer_of_atEnd (ended : atEnd rest = true) :
    ((Sign.mark "#").starts rest && (Sign.mark "!").starts (afterFirst rest)) = false := by
  unfold atEnd at ended
  split at ended
  · rfl
  · rfl
  · cases ended

/-- Parts, one after the other, up to the end. -/
theorem accepts_parts {reader : Nested → Reader Unit} (each : ∀ part ∈ parts, IsPart reader part)
    (deep : 8 * parts.flatten.length ≤ depth) (ended : ∀ rest, behind rest → atEnd rest = true) :
    Accepts (innerAttributes nested >>= fun _ =>
      repeatWhile (untilEnd (reader (nestedUpTo depth)))) parts.flatten () behind := by
  have stops : Accepts (untilEnd (reader (nestedUpTo depth))) [] false behind := by
    intro rest written unread limit follows _
    rw [untilEnd, ends_bind]
    simp only [List.nil_append, ended rest follows, ↓reduceIte]
    rfl
  have accepted : Accepts (repeatWhile (untilEnd (reader (nestedUpTo depth))))
      (parts.flatten ++ []) () behind := by
    refine (Repeats.each (fun part listed => ?_) (.last stops)).accepts
    have isPart := each part listed
    have short := (List.infix_of_mem_flatten listed).length_le
    have goesOn (rest : List Token) : atEnd (part ++ rest) = false := (isPart.begins rest).goesOn
    have read : Accepts (reader (nestedUpTo depth) >>= fun _ => pure true) part true
        fun _ => True := (isPart.reads depth (by omega)).map (f := fun _ => true)
    refine ⟨?_, .idle false (fun rest _ _ _ _ => ?_) read⟩
    · rintro rfl
      exact absurd (goesOn []) (by decide)
    · rw [ends_eq, goesOn]
  rw [List.append_nil] at accepted
  -- No part begins as an attribute of what is around would.
  refine .idle () (fun rest written unread limit follows => ?_) accepted
  refine innerAttributes_none ?_
  cases parts with
  | nil => exact outer_of_atEnd (ended rest follows)
  | cons first others =>
    rw [List.flatten_cons, List.append_assoc]
    exact ((each first List.mem_cons_self).begins _).outer

/-! ## 6. Implementations and modules -/

/-- An implementation of a type by itself, without a trait. -/
theorem accepts_implementation (free : isReserved name = false)
    (each : ∀ part ∈ parts, IsPart implementationMember part)
    (deep : 8 * (word name ++ block parts.flatten).length ≤ depth) :
    Accepts (implementation (nestedUpTo depth) origin)
      (word "impl" ++ (word name ++ block parts.flatten)) () behind := by
  simp only [block, enclose, List.length_append, List.length_cons] at deep
  have isType : IsType (word name) :=
    isType_name free
  obtain ⟨form, named⟩ := isType.reads depth true (by omega)
  have members : Accepts (membersInside (nestedUpTo depth)
      (implementationMember (nestedUpTo depth))) (block parts.flatten) () behind := by
    refine .brackets (accepts_parts each (by omega) ?_)
    rintro _ ⟨delimiter, back, rfl⟩
    rfl
  refine .skipDiscarded (fun _ _ => rfl) ?_
  refine .skipDiscarded (fun _ _ => rfl) ?_
  refine .step _ (fun _ _ _ _ => rfl) ?_
  refine .idle false (fun _ _ _ _ _ => rfl) ?_
  refine .idle false (fun _ _ _ _ _ => rfl) ?_
  refine .idle false (fun _ _ _ _ _ => rfl) ?_
  refine .look (fun _ _ => not_starts_word free rfl) ?_
  refine .idle false (fun _ _ _ _ _ => rfl) ?_
  refine .idle true (fun _ _ _ _ _ => rfl) ?_
  refine .bind named ?_ fun _ _ => ⟨rfl, rfl, rfl, rfl⟩
  refine .skip (fun _ _ => rfl) ?_
  refine .idle _ (fun _ _ _ _ _ => rfl) ?_
  exact members.map (f := fun _ => ())

theorem isItem_implementation (free : isReserved name = false)
    (each : ∀ part ∈ parts, IsPart implementationMember part) :
    IsAttributable item (word "impl" ++ (word name ++ block parts.flatten)) := by
  refine fun attributes eachAttribute =>
    ⟨fun _ => beginsPart_attributes eachAttribute ⟨rfl, rfl⟩, fun depth deep => ?_⟩
  rw [List.length_append, List.length_append] at deep
  obtain ⟨core, reader⟩ := exists_behindItems (nestedKeeps_nestedUpTo depth)
  rw [reader.item]
  refine accepts_private eachAttribute (fun origin => ?_) (by omega) (fun _ => rfl) fun _ => rfl
  have taken : Accepts (implementation (nestedUpTo depth) origin >>= fun _ => pure ())
      (word "impl" ++ (word name ++ block parts.flatten)) () fun _ => True :=
    (accepts_implementation free each (by omega)).map (f := fun _ => ())
  exact taken.of_eq fun _ _ _ _ _ => reader.implementation origin false _ _ rfl

/-- The tokens are read as such parts, one after the other, once documentation is spelled. -/
def AreParts (reader : Nested → Reader Unit) (tokens : List Token) : Prop :=
  ∃ parts : List (List Token),
    spellDocs tokens = parts.flatten ∧ ∀ part ∈ parts, IsPart reader part

namespace AreParts

variable {reader : Nested → Reader Unit}

theorem single (spelled : spellDocs tokens = tokens)
    (isAttributable : IsAttributable reader tokens) : AreParts reader tokens := by
  refine ⟨[tokens], by rw [spelled, List.flatten_singleton], List.forall_mem_singleton.mpr ?_⟩
  exact isAttributable [] (List.forall_mem_nil _)

/-- A part behind its documentation. -/
theorem documented (content : String) (spelled : spellDocs tokens = tokens)
    (isAttributable : IsAttributable reader tokens) : AreParts reader (.doc content :: tokens) := by
  refine ⟨[docAttribute content ++ tokens], ?_, List.forall_mem_singleton.mpr ?_⟩
  · rw [spellDocs_doc, spelled, List.flatten_singleton]
  · exact isAttributable.cons (isAttribute_documentation content) [] (List.forall_mem_nil _)

theorem append (first : AreParts reader tokens) (second : AreParts reader rest) :
    AreParts reader (tokens ++ rest) := by
  obtain ⟨front, spelledFront, eachFront⟩ := first
  obtain ⟨back, spelledBack, eachBack⟩ := second
  refine ⟨front ++ back, ?_, List.forall_mem_append.mpr ⟨eachFront, eachBack⟩⟩
  rw [spellDocs_append, spelledFront, spelledBack, List.flatten_append]

theorem flatten (each : ∀ part ∈ parts, AreParts reader part) : AreParts reader parts.flatten := by
  induction parts with
  | nil => exact ⟨[], rfl, List.forall_mem_nil _⟩
  | cons first others ih =>
    obtain ⟨one, later⟩ := List.forall_mem_cons.mp each
    exact one.append (ih later)

/-- Members make an implementation, which may have an attribute in front. -/
theorem implementation (free : isReserved name = false) {front : List Token}
    (isAttribute : IsAttribute front) (spelled : spellDocs front = front)
    (members : AreParts implementationMember body) :
    AreParts item (front ++ (word "impl" ++ (word name ++ block body))) := by
  obtain ⟨parts, spelledBody, each⟩ := members
  have isPart := (isItem_implementation free each).cons isAttribute [] (List.forall_mem_nil _)
  refine ⟨[_], ?_, List.forall_mem_singleton.mpr isPart⟩
  have spelledBlock : spellDocs (block body) = block parts.flatten := by
    rw [block, spellDocs_enclose, spelledBody, block]
  rw [List.flatten_singleton, spellDocs_append, spellDocs_append, spellDocs_append, spelled,
    spelledBlock]
  rfl

end AreParts

/-- A module of such items is read, and no bars of what is written are joint. -/
theorem readModule_of_areParts (items : AreParts item tokens) :
    readModule tokens = .ok (apart (spellDocs tokens)) := by
  obtain ⟨parts, spelled, each⟩ := items
  -- Of all levels of nesting, the outermost one is for the item itself.
  let depth := 8 * parts.flatten.length + 7
  let nested := nestedUpTo (depth + 1)
  have accepts : Accepts (innerAttributes nested >>= fun _ =>
      repeatWhile (untilEnd (item (nestedUpTo depth)))) parts.flatten () fun rest => rest = [] :=
    accepts_parts each (by omega) fun _ same => same ▸ rfl
  rw [← discard_item] at accepts
  show (do
    let spelled := spellDocs tokens
    let nested := nestedUpTo (depthOf spelled)
    return (← readAll (do
      innerAttributes nested
      repeatWhile (untilEnd (discard (nested .item)))) spelled).2) = _
  simp only [spelled]
  exact congrArg (fun found => found >>= fun both => pure both.2) accepts.readAll

end ContractBinder.Code
