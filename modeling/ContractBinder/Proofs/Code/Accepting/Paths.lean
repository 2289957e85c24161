import ContractBinder.Proofs.Code.Accepting.Steps

/-!
# Paths that are read as they are written

A path of names, of which some may be the words for enclosing modules and types, is read with the
arguments behind its last name (`takes_path`). What follows must not look like a part of the path
(`EndsPath`). Arguments in angle brackets are read one by one, if none of them is a lifetime
(`Accepts.angleItems`).
-/

namespace ContractBinder.Code

open Reader Grammar PathReading

variable {nested : Nested} {name last : String} {front names : List String}
  {tokens arguments rest wrote : List Token} {items : List (List Token)} {inExpression : Bool}
  {behind middle : List Token → Prop}

/-! ## 1. Where paths start and end -/

/-- A name that can stand for a segment of a path. -/
def IsSegment (name : String) : Prop :=
  isReserved name = false ∨ name ∈ "try" :: enclosingWords

/-- Tokens that begin a path wherever one can stand: with a separator, with a word for what is
around, or with a name that is not reserved. -/
inductive BeginsPath : List Token → Prop
  | separator (rest : List Token) : BeginsPath (pathSep ++ rest)
  | enclosing {word : String} (listed : word ∈ enclosingWords) (rest : List Token) :
      BeginsPath (.name word :: rest)
  | name {name : String} (free : isReserved name = false) (rest : List Token) :
      BeginsPath (.name name :: rest)

/-- What follows is not a part of a path, of a macro, or of a sum. -/
structure EndsPath (rest : List Token) : Prop where
  separator : (Sign.mark "::").starts rest = false
  angle : (Sign.mark "<").starts rest = false
  bang : (Sign.mark "!").starts rest = false
  plus : (Sign.mark "+").starts rest = false

/-- Whether arguments in angle brackets come first. -/
def opensArguments (inExpression : Bool) (tokens : List Token) : Bool :=
  !inExpression && (Sign.mark "<").starts tokens &&
      !([.mark "<=", .mark "<<="] : List Sign).any (·.starts tokens) ||
    (Sign.mark "::").starts tokens && (Sign.mark "<").starts (afterFirst (afterFirst tokens))

theorem comesArguments_eq (progress : Progress) :
    comesArguments inExpression progress =
      .ok (opensArguments inExpression progress.rest, progress) :=
  rfl

theorem EndsPath.opensArguments_eq_false (ends : EndsPath rest) (inExpression : Bool) :
    opensArguments inExpression rest = false := by
  simp [opensArguments, ends.separator, ends.angle]

theorem opensArguments_separator (name : String) (rest : List Token) (inExpression : Bool) :
    opensArguments inExpression (pathSep ++ .name name :: rest) = false := by
  cases inExpression <;> rfl

/-! ## 2. Segments -/

theorem takes_segment (fits : IsSegment name)
    (none : ∀ rest, behind rest → opensArguments inExpression rest = false) :
    Takes (Grammar.segment nested inExpression) [.name name] [] ⟨name, []⟩ behind := by
  intro rest written unread limit follows _
  have noArguments (progress : Progress) (same : progress.rest = rest) :
      comesArguments inExpression progress = .ok (false, progress) := by
    rw [comesArguments_eq, same, none rest follows]
  rcases fits with free | listed
  · have noWord (word : String) (reserved : isReserved word = true) :
        (Sign.word word).starts (.name name :: rest) = false :=
      not_starts_word free reserved
    have noBare : bareSegments.any (·.starts (.name name :: rest)) = false := by
      simp [bareSegments, noWord "super" rfl, noWord "self" rfl, noWord "crate" rfl,
        noWord "try" rfl]
    rw [Grammar.segment, comesAny_bind]
    simp only [List.singleton_append, noBare, Bool.false_eq_true, ↓reduceIte]
    rw [comes_bind, noWord "Self" rfl]
    simp only [Bool.false_eq_true, ↓reduceIte]
    rw [bind_apply (readName_apply free rfl), bind_apply (noArguments _ rfl)]
    rfl
  · simp only [enclosingWords, List.mem_cons, List.not_mem_nil, or_false] at listed
    rcases listed with rfl | rfl | rfl | rfl | rfl
    · rfl
    · rfl
    · rfl
    · -- Of these words only the one for the type itself can have arguments.
      have read : readAnyName ⟨.name "Self" :: rest, written, unread, limit⟩ =
          .ok ("Self", ⟨rest, written, unread, limit⟩) := rfl
      have noBare : bareSegments.any (·.starts (.name "Self" :: rest)) = false := rfl
      have itself : (Sign.word "Self").starts (.name "Self" :: rest) = true := rfl
      rw [Grammar.segment, comesAny_bind]
      simp only [List.singleton_append, noBare, Bool.false_eq_true, ↓reduceIte]
      rw [comes_bind, itself]
      simp only [↓reduceIte]
      rw [bind_apply read, bind_apply (noArguments _ rfl)]
      rfl
    · rfl

/-- A name with arguments behind it. -/
theorem takes_segment_arguments (free : isReserved name = false)
    (opens : ∀ rest, opensArguments inExpression (arguments ++ rest) = true)
    (taken : Accepts (angleArguments nested) arguments () behind) :
    Takes (Grammar.segment nested inExpression) (.name name :: arguments) []
      ⟨name, apart arguments⟩ behind := by
  intro rest written unread limit follows enough
  have noWord (word : String) (reserved : isReserved word = true) :
      (Sign.word word).starts (.name name :: (arguments ++ rest)) = false :=
    not_starts_word free reserved
  have noBare : bareSegments.any (·.starts (.name name :: (arguments ++ rest))) = false := by
    simp [bareSegments, noWord "super" rfl, noWord "self" rfl, noWord "crate" rfl,
      noWord "try" rfl]
  have shorter : (arguments ++ rest).length < limit := by
    rw [List.cons_append, List.length_cons] at enough
    omega
  rw [Grammar.segment, comesAny_bind]
  simp only [List.cons_append, noBare, Bool.false_eq_true, ↓reduceIte]
  rw [comes_bind, noWord "Self" rfl]
  simp only [Bool.false_eq_true, ↓reduceIte]
  rw [bind_apply (readName_apply free rfl), bind_apply (comesArguments_eq _)]
  simp only [opens, ↓reduceIte]
  rw [bind_apply (taken.capture _ _ _ _ follows shorter)]
  rfl

/-! ## 3. Paths -/

/-- Names with a separator behind each of them. -/
def leading (names : List String) : List Token :=
  names.flatMap fun name => .name name :: pathSep

theorem intercalate_concat (separator : List Token) (front : List (List Token))
    (last : List Token) :
    separator.intercalate (front ++ [last]) = front.flatMap (· ++ separator) ++ last := by
  induction front with
  | nil => simp
  | cons first others ih =>
    cases others with
    | nil => simp
    | cons second others =>
      rw [List.cons_append, List.cons_append, List.intercalate_cons_cons, ← List.cons_append, ih]
      simp

theorem pathOf_concat (absolute : Bool) (front : List String) (last : String) :
    pathOf absolute (front ++ [last]) =
      (if absolute then pathSep else []) ++ (leading front ++ [.name last]) := by
  rw [pathOf, List.map_append, List.map_singleton, intercalate_concat, List.flatMap_map]
  rfl

theorem tokens_path (absolute : Bool) (front : List String) (last : String)
    (arguments : List Token) :
    Path.tokens ⟨absolute, front.map plainSegment ++ [⟨last, arguments⟩]⟩ =
      pathOf absolute (front ++ [last]) ++ arguments := by
  rw [pathOf_concat, Path.tokens, List.map_append, List.map_singleton, intercalate_concat,
    List.map_map, List.flatMap_map]
  simp [leading, plainSegment]

theorem length_le_leading (names : List String) : names.length ≤ (leading names).length := by
  induction names with
  | nil => exact Nat.le_refl 0
  | cons first others ih =>
    simp only [leading, List.flatMap_cons, List.length_append, List.length_cons] at ih ⊢
    omega

theorem segmentsUpTo_eq (fits : ∀ name ∈ front, IsSegment name)
    (ending : Takes (Grammar.segment nested inExpression) (.name last :: arguments) []
      ⟨last, apart arguments⟩ behind)
    (ends : ∀ rest, behind rest → (Sign.mark "::").starts rest = false) {bound : Nat}
    (more : front.length < bound) :
    Takes (segmentsUpTo nested inExpression bound) (leading front ++ .name last :: arguments) []
      (front.map plainSegment ++ [⟨last, apart arguments⟩]) behind := by
  intro rest written unread limit follows enough
  induction front generalizing bound with
  | nil =>
    obtain ⟨bound, rfl⟩ : ∃ fewer, bound = fewer + 1 := ⟨bound - 1, by omega⟩
    show segmentsUpTo nested inExpression (bound + 1)
      ⟨.name last :: arguments ++ rest, written, unread, limit⟩ = _
    rw [segmentsUpTo, bind_apply (ending _ _ _ _ follows enough), comes_bind, comesThird_bind]
    simp only [ends rest follows, Bool.false_and, Bool.false_eq_true, ↓reduceIte]
    rfl
  | cons first others ih =>
    obtain ⟨bound, rfl⟩ : ∃ fewer, bound = fewer + 1 := ⟨bound - 1, by omega⟩
    obtain ⟨second, back, same⟩ : ∃ second back,
        leading others ++ .name last :: arguments ++ rest = .name second :: back := by
      cases others with
      | nil => exact ⟨_, _, rfl⟩
      | cons second others => exact ⟨_, _, rfl⟩
    have split : leading (first :: others) ++ .name last :: arguments ++ rest =
        [.name first] ++ (pathSep ++ .name second :: back) := by
      rw [← same]
      simp [leading]
    have shorter : (leading others ++ .name last :: arguments ++ rest).length < limit := by
      rw [split, ← same] at enough
      simp only [List.length_append, List.length_cons] at enough ⊢
      omega
    have one : Takes (Grammar.segment nested inExpression) [.name first] [] ⟨first, []⟩
        fun rest => rest = pathSep ++ .name second :: back :=
      takes_segment (fits first List.mem_cons_self) fun _ same =>
        same ▸ opensArguments_separator _ _ _
    have later := ih (fun name listed => fits name (List.mem_cons_of_mem _ listed))
      (Nat.lt_of_succ_lt_succ more) shorter
    have step : Reader.silently (take (.mark "::"))
        ⟨pathSep ++ .name second :: back, written, unread, limit⟩ =
          .ok ((), ⟨.name second :: back, written, unread, limit⟩) := silently_take_separator rfl
    rw [same] at later
    rw [split] at enough ⊢
    have goesOn : ((Sign.mark "::").starts (pathSep ++ .name second :: back) &&
        !(Sign.opening .paren).starts (afterFirst (afterFirst (pathSep ++ .name second :: back)))) =
        true := rfl
    rw [segmentsUpTo, bind_apply (one _ _ _ _ rfl enough), comes_bind, comesThird_bind]
    simp only [goesOn, ↓reduceIte, List.reverse_nil, List.nil_append]
    rw [bind_apply step, bind_apply later]
    rfl

/-- A path with the arguments behind its last name is read as such a path. -/
theorem takes_path {absolute : Bool} (fits : ∀ name ∈ front, IsSegment name)
    (ending : Takes (Grammar.segment nested inExpression) (.name last :: arguments) []
      ⟨last, apart arguments⟩ behind)
    (ends : ∀ rest, behind rest → (Sign.mark "::").starts rest = false) :
    Takes (path nested inExpression) (pathOf absolute (front ++ [last]) ++ arguments) []
      ⟨absolute, front.map plainSegment ++ [⟨last, apart arguments⟩]⟩ behind := by
  intro rest written unread limit follows enough
  have split : pathOf absolute (front ++ [last]) ++ arguments ++ rest =
      (if absolute then pathSep else []) ++ (leading front ++ .name last :: arguments ++ rest) := by
    simp [pathOf_concat]
  have short := length_le_leading front
  rw [split] at enough ⊢
  have shorter : (leading front ++ .name last :: arguments ++ rest).length < limit := by
    rw [List.length_append] at enough
    omega
  have fewer : front.length < limit := by
    simp only [List.length_append] at shorter
    omega
  have segments := segmentsUpTo_eq fits ending ends fewer rest written unread limit follows shorter
  have begins : Reader.silently (accept (.mark "::"))
      ⟨(if absolute then pathSep else []) ++ (leading front ++ .name last :: arguments ++ rest),
        written, unread, limit⟩ =
      .ok (absolute, ⟨leading front ++ .name last :: arguments ++ rest, written, unread,
        limit⟩) := by
    cases absolute with
    | true => exact silently_accept_separator rfl
    | false =>
      cases front with
      | nil => exact silently_accept_name rfl
      | cons first others => exact silently_accept_name rfl
  rw [path, bind_apply begins, get_bind, bind_apply segments]
  rfl

theorem beginsPath_pathOf {absolute : Bool} (nonempty : names ≠ [])
    (fits : ∀ name ∈ names, IsSegment name)
    (start : absolute = true ∨ names.head? ≠ some "try") (rest : List Token) :
    BeginsPath (pathOf absolute names ++ rest) := by
  cases names with
  | nil => exact absurd rfl nonempty
  | cons first others =>
    rw [pathOf_cons]
    cases absolute with
    | true =>
      rw [if_pos rfl, List.append_assoc]
      exact .separator _
    | false =>
      rcases fits first List.mem_cons_self with free | listed
      · exact .name free _
      · rcases List.mem_cons.mp listed with rfl | listed
        · rcases start with no | no
          · cases no
          · exact absurd rfl no
        · exact .enclosing listed _

@[simp] theorem apart_pathOf (absolute : Bool) (names : List String) :
    apart (pathOf absolute names) = pathOf absolute names := by
  have others (names : List String) : apart (separatedTokens names) = separatedTokens names := by
    induction names with
    | nil => rfl
    | cons name names ih => exact congrArg (pathSep ++ .name name :: ·) ih
  cases names with
  | nil => cases absolute <;> rfl
  | cons first names =>
    rw [pathOf_cons, apart_append, apart_cons, others]
    cases absolute <;> rfl

/-! ## 4. Arguments in angle brackets -/

/-- Items that are no lifetimes, as they are written. -/
def plainlyListed : List (List Token) → List Listed
  | [] => []
  | [last] => [⟨false, apart last, false⟩]
  | item :: rest => ⟨false, apart item, true⟩ :: plainlyListed rest

theorem joinListed_plainlyListed (items : List (List Token)) :
    joinListed (plainlyListed items) = apart (commaSeparated items) := by
  induction items with
  | nil => rfl
  | cons first others ih =>
    cases others with
    | nil => simp [plainlyListed, joinListed, commaSeparated]
    | cons second others =>
      have more : plainlyListed (first :: second :: others) =
          ⟨false, apart first, true⟩ :: plainlyListed (second :: others) := rfl
      have nonempty : plainlyListed (second :: others) ≠ [] := by
        cases others <;> exact List.cons_ne_nil _ _
      rw [commaSeparated_cons_cons, more, apart_append, apart_cons, ← ih]
      cases listed : plainlyListed (second :: others) with
      | nil => exact absurd listed nonempty
      | cons item rest => rfl

theorem isEmpty_plainlyListed (items : List (List Token)) :
    (plainlyListed items).isEmpty = items.isEmpty := by
  cases items with
  | nil => rfl
  | cons first others => cases others <;> rfl

theorem partition_plainlyListed (items : List (List Token)) :
    (plainlyListed items).partition Listed.isLifetime = ([], plainlyListed items) := by
  have others : ∀ item ∈ plainlyListed items, item.isLifetime = false := by
    induction items with
    | nil => exact fun _ listed => absurd listed List.not_mem_nil
    | cons first rest ih =>
      cases rest with
      | nil => exact List.forall_mem_singleton.mpr rfl
      | cons second rest => exact List.forall_mem_cons.mpr ⟨rfl, ih⟩
  rw [List.partition_eq_filter_filter, List.filter_eq_nil_iff.mpr, List.filter_eq_self.mpr]
  · exact fun item listed => by simp [others item listed]
  · exact fun item listed => by simp [others item listed]

section

variable {item : Reader Bool}
  (each : ∀ tokens ∈ items, Accepts item tokens false middle)
  (starts : ∀ tokens ∈ items, ∀ rest, (Sign.mark ">").starts (tokens ++ rest) = false)
  (comma : ∀ rest, middle (mark ',' :: rest)) (close : ∀ rest, middle (mark '>' :: rest))

include each starts comma close

theorem takes_listedUpTo {bound : Nat} (more : items.length < bound) :
    Takes (listedUpTo item (take (.mark ",")) bound) (commaSeparated items) [] (plainlyListed items)
      fun rest => ∃ back, rest = mark '>' :: back := by
  rintro _ written unread limit ⟨back, rfl⟩ enough
  induction items generalizing bound with
  | nil =>
    obtain ⟨bound, rfl⟩ : ∃ fewer, bound = fewer + 1 := ⟨bound - 1, by omega⟩
    rfl
  | cons first others ih =>
    obtain ⟨bound, rfl⟩ : ∃ fewer, bound = fewer + 1 := ⟨bound - 1, by omega⟩
    have taken := (each first List.mem_cons_self).capture
    have begins := starts first List.mem_cons_self
    cases others with
    | nil =>
      rw [commaSeparated_singleton] at enough ⊢
      rw [listedUpTo, comes_bind]
      simp only [begins, Bool.false_eq_true, ↓reduceIte]
      rw [bind_apply (taken _ _ _ _ (close back) enough)]
      rfl
    | cons second others =>
      have split : commaSeparated (first :: second :: others) ++ mark '>' :: back =
          first ++ mark ',' :: (commaSeparated (second :: others) ++ mark '>' :: back) := by
        rw [commaSeparated_cons_cons, List.append_assoc]
        rfl
      have shorter : (commaSeparated (second :: others) ++ mark '>' :: back).length < limit := by
        rw [split, List.length_append, List.length_cons] at enough
        omega
      have later := ih (fun tokens listed => each tokens (List.mem_cons_of_mem _ listed))
        (fun tokens listed => starts tokens (List.mem_cons_of_mem _ listed))
        (Nat.lt_of_succ_lt_succ more) shorter
      have step : Reader.silently (take (.mark ","))
          ⟨mark ',' :: (commaSeparated (second :: others) ++ mark '>' :: back), written, unread,
            limit⟩ =
          .ok ((), ⟨commaSeparated (second :: others) ++ mark '>' :: back, written, unread,
            limit⟩) := rfl
      rw [split] at enough ⊢
      rw [listedUpTo, comes_bind]
      simp only [begins, Bool.false_eq_true, ↓reduceIte]
      rw [bind_apply (taken _ _ _ _ (comma _) enough)]
      have goesOn : (Sign.mark ">").starts
          (mark ',' :: (commaSeparated (second :: others) ++ mark '>' :: back)) = false := rfl
      rw [comes_bind]
      simp only [goesOn, Bool.false_eq_true, ↓reduceIte, List.reverse_nil, List.nil_append]
      rw [bind_apply step, bind_apply later]
      rfl

/-- Items in angle brackets, none of which is a lifetime. -/
theorem Accepts.angleItems :
    Accepts (Reader.angleItems item (take (.mark ",")))
      (mark '<' :: Code.commaSeparated items ++ [mark '>'])
      (!items.isEmpty) behind := by
  intro rest written unread limit _ enough
  have whole : mark '<' :: Code.commaSeparated items ++ [mark '>'] ++ rest =
      mark '<' :: (Code.commaSeparated items ++ mark '>' :: rest) := by simp
  have shorter : (Code.commaSeparated items ++ mark '>' :: rest).length < limit := by
    rw [whole, List.length_cons] at enough
    omega
  have fewer : items.length < limit := by
    have lengths : items.length ≤ (Code.commaSeparated items).length + 1 := by
      clear each starts whole enough shorter
      induction items with
      | nil => exact Nat.zero_le _
      | cons first others ih =>
        cases others with
        | nil => simp
        | cons second others =>
          simp only [Code.commaSeparated, List.intercalate_cons_cons, List.length_append,
            List.length_cons] at ih ⊢
          omega
    rw [List.length_append, List.length_cons] at shorter
    omega
  have listed := takes_listedUpTo each starts comma close fewer (mark '>' :: rest)
    (mark '<' :: written) unread limit ⟨rest, rfl⟩ shorter
  have opened : take (.mark "<")
      ⟨mark '<' :: (Code.commaSeparated items ++ mark '>' :: rest), written, unread, limit⟩ =
        .ok ((), ⟨Code.commaSeparated items ++ mark '>' :: rest, mark '<' :: written, unread,
          limit⟩) :=
    rfl
  have wrote := joinListed_plainlyListed items
  rw [whole, Reader.angleItems, bind_apply opened, get_bind, bind_apply listed]
  simp only [partition_plainlyListed, List.nil_append, wrote, isEmpty_plainlyListed]
  have closed : (Reader.write (apart (Code.commaSeparated items)) >>= fun _ => take (.mark ">") >>=
      fun _ => pure (!items.isEmpty)) ⟨mark '>' :: rest, mark '<' :: written, unread, limit⟩ =
      .ok (!items.isEmpty, ⟨rest, mark '>' :: ((apart (Code.commaSeparated items)).reverse ++
        mark '<' :: written), unread, limit⟩) := rfl
  exact closed.trans (by simp [Token.apart, mark])

end

/-! ## 5. Paths that were read -/

/-- A word that is read as a segment is one that can be. -/
theorem isSegment_of_readAnyName {before after : Progress} {signs : List Sign}
    (words : ∀ sign ∈ signs, ∃ word ∈ "try" :: enclosingWords, sign = .word word)
    (comes : signs.any (·.starts before.rest) = true)
    (read : readAnyName before = .ok (name, after)) : IsSegment name := by
  obtain ⟨rest, written, unread, limit⟩ := before
  obtain ⟨sign, listed, starts⟩ := List.any_eq_true.mp comes
  obtain ⟨word, isWord, rfl⟩ := words sign listed
  cases rest with
  | nil => cases starts
  | cons token rest =>
    cases token with
    | name spelling =>
      cases read
      exact .inr ((of_decide_eq_true starts : name = word) ▸ isWord)
    | mark | text | number | literal | opening | closing | doc => cases starts

theorem isReserved_of_readName {before after : Progress}
    (read : readName before = .ok (name, after)) : isReserved name = false := by
  obtain ⟨rest, written, unread, limit⟩ := before
  rw [readName, upcoming_bind] at read
  cases rest with
  | nil => cases read
  | cons token rest =>
    cases token with
    | name spelling =>
      dsimp only at read
      split at read
      · cases read
      · rename_i free
        cases read
        simpa using free
    | mark | text | number | literal | opening | closing | doc => cases read

theorem isSegment_of_segment {before after : Progress} {found : Segment}
    (read : Grammar.segment nested inExpression before = .ok (found, after)) :
    IsSegment found.name := by
  have named {name : String} {before after : Progress} (fits : IsSegment name)
      (read : (do
        if ← comesArguments inExpression then
          let taken ← capture (angleArguments nested)
          return ⟨name, taken.2⟩
        else return ⟨name, []⟩ : Reader Segment) before = .ok (found, after)) :
      IsSegment found.name := by
    rw [bind_apply (comesArguments_eq before)] at read
    split at read
    · obtain ⟨_, _, _, same⟩ := bind_ok read
      cases same
      exact fits
    · cases read
      exact fits
  rw [Grammar.segment, comesAny_bind] at read
  split at read
  · rename_i bare
    obtain ⟨name, between, readName, same⟩ := bind_ok read
    cases same
    exact isSegment_of_readAnyName (by decide) bare readName
  · rw [comes_bind] at read
    split at read
    · rename_i own
      obtain ⟨name, between, readName, later⟩ := bind_ok read
      have comes : [Sign.word "Self"].any (·.starts before.rest) = true := by simpa using own
      exact named (isSegment_of_readAnyName (by decide) comes readName) later
    · obtain ⟨name, between, readName, later⟩ := bind_ok read
      exact named (.inl (isReserved_of_readName readName)) later

theorem isSegment_of_segmentsUpTo {bound : Nat} {before after : Progress} {found : List Segment}
    (read : segmentsUpTo nested inExpression bound before = .ok (found, after)) :
    ∀ segment ∈ found, IsSegment segment.name := by
  induction bound generalizing before found after with
  | zero =>
    cases read
    exact List.forall_mem_nil _
  | succ bound ih =>
    rw [segmentsUpTo] at read
    obtain ⟨first, between, readFirst, read⟩ := bind_ok read
    have fits := isSegment_of_segment readFirst
    rw [comes_bind, comesThird_bind] at read
    split at read
    · obtain ⟨_, _, _, read⟩ := bind_ok read
      obtain ⟨others, _, readOthers, same⟩ := bind_ok read
      cases same
      exact List.forall_mem_cons.mpr ⟨fits, ih readOthers⟩
    · cases read
      exact List.forall_mem_singleton.mpr fits

/-- A path that is read from the start has segments, and their names are good for them. -/
theorem isSegment_of_path {after : Progress} {found : Path} (closes : ClosesEach tokens)
    (read : path nested inExpression (start tokens) = .ok (found, after)) :
    found.segments ≠ [] ∧ ∀ segment ∈ found.segments, IsSegment segment.name := by
  obtain ⟨absolute, between, accepted, read⟩ := bind_ok read
  rw [get_bind] at read
  obtain ⟨segments, _, readSegments, same⟩ := bind_ok read
  cases same
  refine ⟨?_, isSegment_of_segmentsUpTo readSegments⟩
  have started : Step true (start tokens) (start tokens) := .refl closes
  have kept : between.limit = tokens.length + 1 :=
    (Keeps.silently (fun _ => .accept rfl) _ _ _ accepted started).limit
  rw [kept, segmentsUpTo] at readSegments
  obtain ⟨first, _, _, read⟩ := bind_ok readSegments
  rw [comes_bind, comesThird_bind] at read
  split at read
  · obtain ⟨_, _, _, read⟩ := bind_ok read
    obtain ⟨others, _, _, same⟩ := bind_ok read
    cases same
    exact List.cons_ne_nil _ _
  · cases read
    exact List.cons_ne_nil _ _

end ContractBinder.Code
