import ContractBinder.Code.Grammar.Reading
import ContractBinder.Code.Phrase
import ContractBinder.Proofs.Code.Accepting.Paths
import ContractBinder.Proofs.Code.Reading.Modules

/-!
# Types that are read as they are written

`IsType` says of tokens that they are read as a type by every reader of code that is nested deeply
enough. Between two tokens there are fewer than eight levels, so the number of tokens bounds the
depth, as it does where whole modules are read.

Results:

1. `isType_path` and `isType_applied`: a path is a type, with types as arguments or without any.
2. `isType_reference` and `isType_tuple`: so are references to types and tuples of types.
-/

namespace ContractBinder.Code

open Reader Grammar PathReading

variable {nested : Nested} {name last : String} {front names : List String} {sums : Bool}
  {tokens rest wrote : List Token} {items types : List (List Token)} {depth : Nat}
  {behind : List Token → Prop}

/-! ## 1. What comes first -/

theorem literal?_name (free : isReserved name = false) : literal? (.name name :: rest) = none := by
  have noTrue : name ≠ "true" := ne_of_isReserved free rfl
  have noFalse : name ≠ "false" := ne_of_isReserved free rfl
  unfold literal?
  split <;> simp_all

namespace BeginsPath

/-- A word other than those that a path can begin with does not come. -/
theorem no_word (begins : BeginsPath tokens) (word : String) (reserved : isReserved word = true)
    (other : word ∉ enclosingWords) : (Sign.word word).starts tokens = false := by
  cases begins with
  | separator => rfl
  | enclosing listed => exact starts_word_name fun same => other (same ▸ listed)
  | name free => exact not_starts_word free reserved

theorem no_mark (begins : BeginsPath tokens) (spelling : String) {first : Char}
    {others : List Char} (spelled : spelling.toList = first :: others) (other : first ≠ ':') :
    (Sign.mark spelling).starts tokens = false := by
  have noColon : ':' ≠ first := other.symm
  cases begins with
  | separator =>
    show startsOperatorOf spelling.toList _ = false
    rw [spelled]
    cases others <;> simp [startsOperatorOf, pathSep, noColon]
  | enclosing | name => exact starts_mark_name (by simp [spelled])

theorem literal?_eq_none (begins : BeginsPath tokens) : literal? tokens = none := by
  cases begins with
  | separator => rfl
  | enclosing listed =>
    simp only [enclosingWords, List.mem_cons, List.not_mem_nil, or_false] at listed
    rcases listed with rfl | rfl | rfl | rfl <;> rfl
  | name free => exact literal?_name free

theorem no_opening (begins : BeginsPath tokens) (delimiter : Delimiter) :
    (Sign.opening delimiter).starts tokens = false := by
  cases begins <;> rfl

theorem no_lifetime (begins : BeginsPath tokens) : Sign.lifetime.starts tokens = false := by
  cases begins <;> rfl

theorem atEnd_eq_false (begins : BeginsPath tokens) : atEnd tokens = false := by
  cases begins <;> rfl

/-- One of the signs of paths comes. -/
theorem some_start (begins : BeginsPath tokens) (signs : List Sign) (named : .name ∈ signs)
    (separated : .mark "::" ∈ signs) (enclosed : ∀ word ∈ enclosingWords, .word word ∈ signs) :
    signs.any (·.starts tokens) = true := by
  refine List.any_eq_true.mpr ?_
  cases begins with
  | separator => exact ⟨_, separated, rfl⟩
  | enclosing listed => exact ⟨_, enclosed _ listed, decide_eq_true rfl⟩
  | name free => exact ⟨_, named, starts_name free⟩

end BeginsPath

/-- What comes first is neither a lifetime nor a constant nor a bound nor dots, and no end of a
list. -/
structure BeginsType (tokens : List Token) : Prop where
  lifetime : Sign.lifetime.starts tokens = false
  constant : ([.literal, .opening .brace] : List Sign).any (·.starts tokens) = false
  mutable : (Sign.word "mut").starts tokens = false
  optional : (Sign.mark "?").starts tokens = false
  closes : (Sign.mark ">").starts tokens = false
  dots : (Sign.mark "...").starts tokens = false
  goesOn : atEnd tokens = false

theorem BeginsPath.beginsType (begins : BeginsPath tokens) : BeginsType tokens where
  lifetime := begins.no_lifetime
  constant := by
    have literal : Sign.literal.starts tokens = false := by
      show (literal? tokens).isSome = false
      rw [begins.literal?_eq_none]
      rfl
    simp [literal, begins.no_opening]
  mutable := begins.no_word _ rfl (by decide)
  optional := begins.no_mark _ rfl (by decide)
  closes := begins.no_mark _ rfl (by decide)
  dots := begins.no_mark _ rfl (by decide)
  goesOn := begins.atEnd_eq_false

/-! ## 2. Types -/

/-- The tokens are read as a type and written as they are, if nothing behind them belongs to it. -/
structure IsType (tokens : List Token) : Prop where
  begins : ∀ rest, BeginsType (tokens ++ rest)
  reads : ∀ depth sums, 8 * tokens.length ≤ depth →
    ∃ form, Accepts (nestedUpTo depth (.type sums)) tokens form EndsPath

theorem IsType.accepts (isType : IsType tokens) (deep : 8 * tokens.length ≤ depth) (sums : Bool) :
    Accepts (discard (nestedUpTo depth (.type sums))) tokens () EndsPath := by
  obtain ⟨form, reads⟩ := isType.reads depth sums deep
  exact reads.discard

/-- What follows a type in angle brackets. -/
structure BetweenTypes (rest : List Token) : Prop extends EndsPath rest where
  equals : (Sign.mark "=").starts rest = false
  colon : (Sign.mark ":").starts rest = false

theorem betweenTypes_comma (rest : List Token) : BetweenTypes (mark ',' :: rest) :=
  ⟨⟨rfl, rfl, rfl, rfl⟩, rfl, rfl⟩

theorem betweenTypes_close (rest : List Token) : BetweenTypes (mark '>' :: rest) :=
  ⟨⟨rfl, rfl, rfl, rfl⟩, rfl, rfl⟩

theorem IsType.argument (isType : IsType tokens) (deep : 8 * tokens.length ≤ depth) :
    Accepts (argument (nestedUpTo depth)) tokens false BetweenTypes := by
  intro rest written unread limit follows enough
  obtain ⟨form, reads⟩ := isType.reads depth true deep
  have begins := isType.begins rest
  rw [Grammar.argument, comes_bind, comesSecond_bind]
  simp only [begins.lifetime, Bool.false_and, Bool.false_eq_true, ↓reduceIte]
  rw [comesConstant, comesAny_bind]
  simp only [begins.constant, Bool.false_eq_true, ↓reduceIte]
  rw [Nested.type, bind_apply (reads _ _ _ _ follows.toEndsPath enough)]
  split
  · rw [accept_bind_missing follows.equals]
    simp only [Bool.false_eq_true, ↓reduceIte]
    rw [accept_bind_missing follows.colon]
    rfl
  · rfl

/-- Types in angle brackets. -/
theorem accepts_typeItems (each : ∀ type ∈ types, IsType type)
    (deep : 8 * (commaSeparated types).length ≤ depth) :
    Accepts (discard (angleItems (argument (nestedUpTo depth)) (take (.mark ","))))
      (mark '<' :: commaSeparated types ++ [mark '>']) () behind :=
  (Accepts.angleItems
    (fun type listed => (each type listed).argument
      ((Nat.mul_le_mul_left 8 (length_le_commaSeparated listed)).trans deep))
    (fun type listed rest => ((each type listed).begins rest).closes) betweenTypes_comma
    betweenTypes_close).discard

theorem accepts_angleArguments (each : ∀ type ∈ types, IsType type)
    (deep : 8 * (commaSeparated types).length ≤ depth) :
    Accepts (angleArguments (nestedUpTo depth)) (mark '<' :: commaSeparated types ++ [mark '>']) ()
      behind :=
  .skipDiscarded (fun _ _ => rfl) (accepts_typeItems each deep)

/-! ## 3. Paths as types -/

theorem type_of_beginsPath {progress : Progress} (begins : BeginsPath progress.rest) :
    type nested sums progress = namedType nested sums false [] progress := by
  have noFor := begins.no_word "for" rfl (by decide)
  have noCapture : Reader.capture (pure () : Reader Unit) progress = .ok (((), []), progress) := rfl
  have noPointer : ([.word "fn", .word "unsafe", .word "extern"] : List Sign).any
      (·.starts progress.rest) = false := by
    simp [begins.no_word "fn" rfl (by decide),
      begins.no_word "unsafe" rfl (by decide),
      begins.no_word "extern" rfl (by decide)]
  have path := begins.some_start ([.name, .mark "::", .mark "<", .word "super",
    .word "self", .word "Self", .word "crate"]) (by decide) (by decide) (by decide)
  rw [type, comes_bind, noFor]
  simp only [Bool.false_eq_true, ↓reduceIte]
  rw [bind_apply noCapture]
  simp only [Bool.false_and, Bool.false_eq_true, ↓reduceIte]
  rw [comesAny_bind, comes_bind, begins.no_opening]
  simp only [Bool.false_eq_true, ↓reduceIte]
  rw [comesAny_bind, noPointer]
  simp only [Bool.false_eq_true, ↓reduceIte]
  rw [comesAny_bind, path]
  rfl

/-- A path that is written as it is is a type, as nothing is added to it. -/
theorem accepts_namedType {found : Path} (begins : ∀ rest, BeginsPath (tokens ++ rest))
    (taken : Takes (path nested false) tokens [] found EndsPath)
    (written : found.tokens = apart tokens) :
    ∃ form, Accepts (namedType nested sums false []) tokens form EndsPath := by
  refine ⟨if !found.absolute && found.segments.length = 1 then .nameType else .pathType, ?_⟩
  intro rest wrote unread limit follows enough
  have noAngle := (begins rest).no_mark "<" rfl (by decide)
  have noMacro (progress : Progress) (same : progress.rest = rest) :
      comesMacro found progress = .ok (false, progress) := by
    rw [comesMacro, comes_bind, comes_bind, same, follows.bang, Bool.and_false, Bool.false_and]
    rfl
  rw [namedType, comes_bind]
  simp only [noAngle, Bool.false_eq_true, ↓reduceIte]
  rw [bind_apply (taken _ _ _ _ follows enough), bind_apply (noMacro _ rfl)]
  simp only [Bool.false_eq_true, ↓reduceIte, List.nil_append, List.reverse_nil]
  have write : Reader.write found.tokens ⟨rest, wrote, unread, limit⟩ =
      .ok ((), ⟨rest, (apart tokens).reverse ++ wrote, unread, limit⟩) := by
    rw [← written]
    rfl
  rw [bind_apply write, comes_bind]
  simp only [follows.plus, Bool.and_false, Bool.false_eq_true, ↓reduceIte]
  split <;> rfl

theorem isType_of_takes_path {found : Path} (nonempty : tokens ≠ [])
    (begins : ∀ rest, BeginsPath (tokens ++ rest))
    (taken : ∀ depth, 8 * tokens.length ≤ depth + 1 →
      Takes (path (nestedUpTo depth) false) tokens [] found EndsPath)
    (written : found.tokens = apart tokens) : IsType tokens where
  begins rest := (begins rest).beginsType
  reads := by
    intro depth sums deep
    have some := List.length_pos_iff.mpr nonempty
    obtain ⟨depth, rfl⟩ : ∃ fewer, depth = fewer + 1 := ⟨depth - 1, by omega⟩
    obtain ⟨form, accepts⟩ :
        ∃ form, Accepts (namedType (nestedUpTo depth) sums false []) tokens form EndsPath :=
      accepts_namedType begins (taken depth deep) written
    exact ⟨form, accepts.of_eq fun _ _ _ _ _ => type_of_beginsPath (begins _)⟩

/-- A path whose names are good for segments, and that can begin wherever a path can stand. -/
structure IsPath (absolute : Bool) (names : List String) : Prop where
  fits : ∀ name ∈ names, IsSegment name
  start : absolute = true ∨ names.head? ≠ some "try"

theorem isPath_word (fits : IsSegment name) (other : name ≠ "try") : IsPath false [name] :=
  ⟨List.forall_mem_singleton.mpr fits, .inr fun same => other (Option.some.inj same)⟩

theorem isPath_name (free : isReserved name = false) : IsPath false [name] :=
  isPath_word (.inl free) (ne_of_isReserved free rfl)

/-- A text that is read as a path that fits everywhere spells such names. -/
theorem exists_isPath_of_parse {text : String} {found : Path}
    (parsed : Path.parse text = .ok found) (fits : found.fitsEverywhere = true) :
    ∃ names, names ≠ [] ∧ found = ⟨found.absolute, names.map plainSegment⟩ ∧
      IsPath found.absolute names := by
  unfold Path.parse at parsed
  split at parsed
  · cases parsed
  rename_i tokens lexed
  obtain ⟨after, read⟩ : ∃ after, path (nestedUpTo (depthOf (spellDocs tokens))) false
      (start (spellDocs tokens)) = .ok (found, after) := by
    obtain ⟨⟨_, _⟩, done, same⟩ := Outcome.bind_eq_ok_iff.mp parsed
    obtain ⟨after, read, _⟩ := readAll_ok done
    cases same
    exact ⟨after, read⟩
  obtain ⟨nonempty, segments⟩ := isSegment_of_path (matched_of_tokens? lexed).spellDocs.closes read
  obtain ⟨plain, start⟩ := (Bool.and_eq_true _ _).mp fits
  have bare : found.segments.map (plainSegment ∘ Segment.name) = found.segments := by
    refine (List.map_congr_left fun segment listed => ?_).trans (List.map_id _)
    have noArguments := List.isEmpty_iff.mp (List.all_eq_true.mp plain segment listed)
    cases segment
    exact congrArg (Segment.mk _) noArguments.symm
  refine ⟨found.segments.map Segment.name, ?_, ?_, List.forall_mem_map.mpr segments, ?_⟩
  · simpa using nonempty
  · rw [List.map_map, bare]
  · rw [List.head?_map]
    simpa using start

theorem IsPath.beginsPath {absolute : Bool} (isPath : IsPath absolute names) (nonempty : names ≠ [])
    (rest : List Token) : BeginsPath (pathOf absolute names ++ rest) :=
  beginsPath_pathOf nonempty isPath.fits isPath.start rest

theorem pathOf_ne_nil {absolute : Bool} (nonempty : names ≠ []) : pathOf absolute names ≠ [] := by
  cases names with
  | nil => exact absurd rfl nonempty
  | cons first others =>
    rw [pathOf_cons]
    exact List.append_ne_nil_of_right_ne_nil _ (List.cons_ne_nil _ _)

/-- A path without arguments is read as such a path, in types and in expressions. -/
theorem takes_plainPath {absolute : Bool} (isPath : IsPath absolute names) (nonempty : names ≠ [])
    (inExpression : Bool) :
    Takes (path nested inExpression) (pathOf absolute names) []
      ⟨absolute, names.map plainSegment⟩ EndsPath := by
  obtain ⟨front, last, rfl⟩ : ∃ front last, names = front ++ [last] :=
    ⟨names.dropLast, names.getLast nonempty, (List.dropLast_append_getLast nonempty).symm⟩
  have fits := List.forall_mem_append.mp isPath.fits
  have ending : Takes (Grammar.segment nested inExpression) [.name last] [] ⟨last, []⟩ EndsPath :=
    takes_segment (fits.2 last List.mem_cons_self) fun _ ends =>
      ends.opensArguments_eq_false inExpression
  have taken : Takes (path nested inExpression) (pathOf absolute (front ++ [last]) ++ []) []
      ⟨absolute, front.map plainSegment ++ [⟨last, []⟩]⟩ EndsPath :=
    takes_path fits.1 ending fun _ ends => ends.separator
  rw [List.append_nil] at taken
  rw [List.map_append]
  exact taken

theorem tokens_plainPath {absolute : Bool} (nonempty : names ≠ []) :
    Path.tokens ⟨absolute, names.map plainSegment⟩ = pathOf absolute names := by
  obtain ⟨front, last, rfl⟩ : ∃ front last, names = front ++ [last] :=
    ⟨names.dropLast, names.getLast nonempty, (List.dropLast_append_getLast nonempty).symm⟩
  rw [List.map_append]
  exact (tokens_path absolute front last []).trans (List.append_nil _)

/-- A path with arguments behind its last name is read as such a path. -/
theorem takes_path_arguments {absolute : Bool} {arguments : List Token} {inExpression : Bool}
    (isPath : IsPath absolute (front ++ [last])) (free : isReserved last = false)
    (opens : ∀ rest, opensArguments inExpression (arguments ++ rest) = true)
    (taken : Accepts (angleArguments nested) arguments () EndsPath) :
    Takes (path nested inExpression) (pathOf absolute (front ++ [last]) ++ arguments) []
      ⟨absolute, front.map plainSegment ++ [⟨last, apart arguments⟩]⟩ EndsPath :=
  have fits := List.forall_mem_append.mp isPath.fits
  takes_path fits.1 (takes_segment_arguments free opens taken) fun _ ends => ends.separator

theorem isType_path {absolute : Bool} (isPath : IsPath absolute names) (nonempty : names ≠ []) :
    IsType (pathOf absolute names) :=
  isType_of_takes_path (pathOf_ne_nil nonempty) (isPath.beginsPath nonempty)
    (fun _ _ => takes_plainPath isPath nonempty false)
    (by rw [tokens_plainPath nonempty, apart_pathOf])

theorem isType_name (free : isReserved name = false) : IsType (word name) := by
  have isType : IsType (pathOf false [name]) :=
    isType_path (isPath_name free) (List.cons_ne_nil _ _)
  exact isType

theorem isType_applied {absolute : Bool} (isPath : IsPath absolute (front ++ [last]))
    (free : isReserved last = false) (each : ∀ type ∈ types, IsType type) :
    IsType (applied (pathOf absolute (front ++ [last])) types) := by
  have split : applied (pathOf absolute (front ++ [last])) types =
      pathOf absolute (front ++ [last]) ++ (mark '<' :: commaSeparated types ++ [mark '>']) := by
    simp [applied]
  rw [split]
  refine isType_of_takes_path (by simp) (fun rest => ?_) (fun depth deep => ?_)
    ((tokens_path ..).trans (by rw [apart_append, apart_pathOf]))
  · rw [List.append_assoc]
    exact isPath.beginsPath (by simp) _
  · refine takes_path_arguments isPath free (fun _ => rfl) (accepts_angleArguments each ?_)
    simp only [List.length_append, List.length_cons] at deep
    omega

/-! ## 4. References and tuples -/

theorem isType_reference (isType : IsType tokens) : IsType (referenceTo tokens) where
  begins _ := ⟨rfl, rfl, rfl, rfl, rfl, rfl, rfl⟩
  reads := by
    intro depth sums deep
    rw [referenceTo, List.length_cons] at deep
    obtain ⟨depth, rfl⟩ : ∃ fewer, depth = fewer + 1 := ⟨depth - 1, by omega⟩
    refine ⟨.plain, ?_⟩
    intro rest written unread limit follows enough
    have begins := isType.begins rest
    have shorter : (tokens ++ rest).length < limit := Nat.lt_of_succ_lt enough
    have accepts : Accepts (Functor.discard (nestedUpTo depth (.type false))) tokens () EndsPath :=
      isType.accepts (by omega) false
    have inner := accepts rest (mark '&' :: written) unread limit follows shorter
    have marked : nestedUpTo (depth + 1) (.type sums)
        ⟨referenceTo tokens ++ rest, written, unread, limit⟩ =
        (Functor.discard (accept .lifetime) >>= fun _ =>
          Functor.discard (accept (.word "mut")) >>= fun _ =>
          Functor.discard (nestedUpTo depth (.type false)) >>= fun _ => pure .plain)
          ⟨tokens ++ rest, mark '&' :: written, unread, limit⟩ := rfl
    have wrote : (apart (referenceTo tokens)).reverse ++ written =
        (apart tokens).reverse ++ mark '&' :: written := by
      simp [referenceTo, Token.apart, mark]
    rw [marked, bind_apply (discard_apply (accept_missing begins.lifetime)),
      bind_apply (discard_apply (accept_missing begins.mutable)), bind_apply inner, wrote]
    rfl

theorem ends_eq (progress : Progress) : ends progress = .ok (atEnd progress.rest, progress) :=
  rfl

/-- Items with commas between them, up to the end of their brackets. -/
theorem accepts_commaItemsInside {item : Reader Unit} {middle : List Token → Prop}
    (each : ∀ tokens ∈ items, Accepts item tokens () middle)
    (starts : ∀ tokens ∈ items, ∀ rest, atEnd (tokens ++ rest) = false)
    (comma : ∀ rest, middle (mark ',' :: rest))
    (ended : ∀ rest, behind rest → atEnd rest = true ∧ middle rest) :
    Accepts (commaItemsInside item) (commaSeparated items) () behind ∧
      Accepts (commaItemsInside item) (commaTerminated items) () behind :=
  have taken : ∀ tokens ∈ items, Accepts (item >>= fun _ => pure true) tokens true middle :=
    fun tokens listed => (each tokens listed).map (f := fun _ => true)
  ⟨.commaSeparated ends_eq taken starts comma (fun _ => rfl) ended,
    .commaTerminated ends_eq taken starts comma (fun _ => rfl) fun rest follows =>
      (ended rest follows).1⟩

theorem endsPath_closing (delimiter : Delimiter) (rest : List Token) :
    EndsPath (.closing delimiter :: rest) :=
  ⟨rfl, rfl, rfl, rfl⟩

theorem endsPath_comma (rest : List Token) : EndsPath (mark ',' :: rest) :=
  ⟨rfl, rfl, rfl, rfl⟩

/-- Types in round brackets are read, and what they are is not an optional bound. -/
theorem accepts_parenthesised (each : ∀ type ∈ types, IsType type)
    (deep : 8 * (commaSeparated types).length ≤ depth) :
    ∃ found, found ≠ .optionalBound ∧ Accepts (parenthesised (nestedUpTo depth))
      (enclose .paren (commaSeparated types)) found behind := by
  cases types with
  | nil =>
    refine ⟨.closed, by simp, Accepts.brackets ?_⟩
    rintro _ written unread limit ⟨delimiter, back, rfl⟩ _
    rfl
  | cons first others =>
    have begins := (each first List.mem_cons_self).begins
    have short : first.length ≤ (commaSeparated (first :: others)).length :=
      length_le_commaSeparated List.mem_cons_self
    obtain ⟨form, reads⟩ := (each first List.mem_cons_self).reads depth true (by omega)
    cases others with
    | nil =>
      rw [commaSeparated_singleton]
      refine ⟨.single form, by simp, Accepts.brackets ?_⟩
      rintro _ written unread limit ⟨delimiter, back, rfl⟩ enough
      have begins := begins (.closing delimiter :: back)
      rw [ends_bind]
      simp only [begins.goesOn, Bool.false_eq_true, ↓reduceIte]
      rw [comes_bind]
      simp only [begins.lifetime, Bool.false_eq_true, ↓reduceIte]
      rw [comes_bind]
      simp only [begins.optional, Bool.false_eq_true, ↓reduceIte]
      rw [Nested.type, bind_apply (reads _ _ _ _ (endsPath_closing _ _) enough)]
      rfl
    | cons second others =>
      have rest := fun type listed => each type (List.mem_cons_of_mem first listed)
      have split : commaSeparated (first :: second :: others) =
          first ++ (mark ',' :: commaSeparated (second :: others)) := commaSeparated_cons_cons ..
      have later : Accepts (commaItemsInside (discard (nestedUpTo depth (.type true))))
          (commaSeparated (second :: others)) () Closing := by
        refine (accepts_commaItemsInside (fun type listed => (rest type listed).accepts ?_ true)
          (fun type listed back => ((rest type listed).begins back).goesOn) endsPath_comma ?_).1
        · have := length_le_commaSeparated listed
          rw [split, List.length_append, List.length_cons] at deep
          omega
        · rintro _ ⟨delimiter, back, rfl⟩
          exact ⟨rfl, endsPath_closing _ _⟩
      refine ⟨.closed, by simp, Accepts.brackets ?_⟩
      rw [split]
      intro rest written unread limit follows enough
      have begins := begins (mark ',' :: (commaSeparated (second :: others) ++ rest))
      rw [List.append_assoc, List.cons_append] at enough ⊢
      rw [ends_bind]
      simp only [begins.goesOn, Bool.false_eq_true, ↓reduceIte]
      rw [comes_bind]
      simp only [begins.lifetime, Bool.false_eq_true, ↓reduceIte]
      rw [comes_bind]
      simp only [begins.optional, Bool.false_eq_true, ↓reduceIte]
      rw [Nested.type, bind_apply (reads _ _ _ _ (endsPath_comma _) enough)]
      have comma : accept (.mark ",") ⟨mark ',' :: (commaSeparated (second :: others) ++ rest),
            (apart first).reverse ++ written, unread, limit⟩ =
          .ok (true, ⟨commaSeparated (second :: others) ++ rest,
            mark ',' :: ((apart first).reverse ++ written), unread, limit⟩) := rfl
      have shorter : (commaSeparated (second :: others) ++ rest).length < limit := by
        simp only [List.length_append, List.length_cons] at enough ⊢
        omega
      rw [bind_apply comma]
      simp only [↓reduceIte]
      rw [bind_apply (later _ _ _ _ follows shorter)]
      simp [Token.apart, mark]
      rfl

theorem isType_tuple (each : ∀ type ∈ types, IsType type) :
    IsType (enclose .paren (commaSeparated types)) where
  begins _ := ⟨rfl, rfl, rfl, rfl, rfl, rfl, rfl⟩
  reads := by
    intro depth sums deep
    simp only [enclose, List.cons_append, List.length_cons, List.length_append] at deep
    obtain ⟨depth, rfl⟩ : ∃ fewer, depth = fewer + 1 := ⟨depth - 1, by omega⟩
    obtain ⟨found, other, reads⟩ : ∃ found, found ≠ .optionalBound ∧
        Accepts (parenthesised (nestedUpTo depth)) (enclose .paren (commaSeparated types)) found
          EndsPath := accepts_parenthesised each (by omega)
    refine ⟨.plain, ?_⟩
    intro rest written unread limit follows enough
    have marked : nestedUpTo (depth + 1) (.type sums)
        ⟨enclose .paren (commaSeparated types) ++ rest, written, unread, limit⟩ =
        parenthesisedType (nestedUpTo depth) sums
          ⟨enclose .paren (commaSeparated types) ++ rest, written, unread, limit⟩ := rfl
    rw [marked, parenthesisedType, bind_apply (reads _ _ _ _ follows enough), comes_bind]
    cases found with
    | closed => rfl
    | optionalBound => exact absurd rfl other
    | single form =>
      have nothing : addedBounds (nestedUpTo depth)
          ⟨rest, (apart (enclose .paren (commaSeparated types))).reverse ++ written, unread,
            limit⟩ = .ok ((), ⟨rest, (apart (enclose .paren (commaSeparated types))).reverse ++
              written, unread, limit⟩) :=
        repeatWhile_none (bind_apply (accept_missing follows.plus))
      dsimp only
      split
      · rw [bind_apply nothing]
        rfl
      · rfl

end ContractBinder.Code
