import ContractBinder.Proofs.Code.Lexing
import ContractBinder.Proofs.Lists

/-!
# Names and what is skipped around them

What code skips is described without the reader that skips it: `Skips` has a rule for a
separator, one for a comment to the end of a line, and one for a comment in brackets, which
`Closes` says the end of.

Results:

1. `exists_closes_of_afterBlock`, `Closes.afterBlock`: a comment in brackets is read up to
   where it is closed.
2. `skips_skipTrivia`, `Skips.skipTrivia_eq`: what is skipped is such a beginning of the text,
   and with every such beginning all of it is skipped.
3. `soleName?_eq_some_iff`: a text holds only one name exactly if everything around this name
   is skipped.
-/

namespace ContractBinder.Code

variable {text rest comment : List Char} {c : Char} {depth : Nat}

/-! ## 1. Comments in brackets -/

/-- `Closes depth comment`: in a text in which `depth` comments are open, `comment` is what
comes up to the end of the outermost one. Comments may be opened and closed inside it. -/
inductive Closes : Nat → List Char → Prop
  | opens {depth : Nat} {rest : List Char} :
      Closes (depth + 1) rest → Closes depth ('/' :: '*' :: rest)
  | closes {depth : Nat} {rest : List Char} :
      Closes (depth + 1) rest → Closes (depth + 2) ('*' :: '/' :: rest)
  | ends {depth : Nat} : depth ≤ 1 → Closes depth ['*', '/']
  | other {depth : Nat} {c : Char} {rest : List Char} :
      (c = '/' → rest.head? ≠ some '*') → (c = '*' → rest.head? ≠ some '/') →
      Closes depth rest → Closes depth (c :: rest)

theorem Closes.two_le_length (closes : Closes depth comment) : 2 ≤ comment.length := by
  induction closes with
  | opens _ _ => simp
  | closes _ _ => simp
  | ends _ => simp
  | other _ _ _ ih => simp only [List.length_cons]; omega

theorem exists_closes_of_afterBlock (found : afterBlock depth text = some rest) :
    ∃ comment, text = comment ++ rest ∧ Closes depth comment := by
  fun_induction afterBlock depth text with
  | case1 depth tail ih =>
    obtain ⟨comment, rfl, closes⟩ := ih found
    exact ⟨'/' :: '*' :: comment, rfl, .opens closes⟩
  | case2 depth tail small =>
    cases found
    exact ⟨['*', '/'], rfl, .ends small⟩
  | case3 depth tail large ih =>
    obtain ⟨comment, rfl, closes⟩ := ih found
    obtain ⟨outer, rfl⟩ : ∃ outer, depth = outer + 2 := ⟨depth - 2, by omega⟩
    exact ⟨'*' :: '/' :: comment, rfl, .closes closes⟩
  | case4 depth head tail noOpening noClosing ih =>
    obtain ⟨comment, rfl, closes⟩ := ih found
    refine ⟨head :: comment, rfl, .other ?_ ?_ closes⟩
    · rintro rfl star
      obtain ⟨inner, rfl⟩ := List.head?_eq_some_iff.mp star
      exact noOpening _ rfl rfl
    · rintro rfl slash
      obtain ⟨inner, rfl⟩ := List.head?_eq_some_iff.mp slash
      exact noClosing _ rfl rfl
  | case5 => cases found

theorem Closes.afterBlock (closes : Closes depth comment) (rest : List Char) :
    Code.afterBlock depth (comment ++ rest) = some rest := by
  induction closes with
  | opens _ ih => exact ih
  | @closes depth _ _ ih =>
    rw [List.cons_append, List.cons_append, Code.afterBlock, if_neg (by omega)]
    exact ih
  | ends small => rw [List.cons_append, List.cons_append, Code.afterBlock, if_pos small]; rfl
  | @other depth c tail noOpening noClosing closes ih =>
    have long := closes.two_le_length
    obtain ⟨second, others, rfl⟩ := List.exists_cons_of_length_pos (Nat.zero_lt_of_lt long)
    rw [List.cons_append, Code.afterBlock]
    · exact ih
    · rintro _ rfl spelled
      exact noOpening rfl (by rw [← (List.cons.inj spelled).1]; rfl)
    · rintro _ rfl spelled
      exact noClosing rfl (by rw [← (List.cons.inj spelled).1]; rfl)

/-! ## 2. Comments and separators -/

/-- A text starts with what the first part of it starts with, if this is long enough. -/
theorem startsWith_append_of_le {lead : String} (long : lead.toList.length ≤ comment.length) :
    startsWith (comment ++ rest) lead = startsWith comment lead := by
  rw [startsWith, startsWith, Bool.eq_iff_iff, List.isPrefixOf_iff_prefix,
    List.isPrefixOf_iff_prefix]
  exact ⟨fun starts => List.prefix_of_prefix_length_le starts (List.prefix_append _ _) long,
    fun starts => starts.trans (List.prefix_append _ _)⟩

/-- A text at which a line is over. -/
def EndsLine (rest : List Char) : Prop :=
  ∀ c, rest.head? = some c → c = '\n'

/-- What a line starts with does not depend on the lines behind it. -/
theorem startsWith_append_of_endsLine {lead : String} (oneLine : '\n' ∉ lead.toList)
    (ended : EndsLine rest) : startsWith (comment ++ rest) lead = startsWith comment lead := by
  by_cases long : lead.toList.length ≤ comment.length
  · exact startsWith_append_of_le long
  rw [startsWith, startsWith, Bool.eq_iff_iff, List.isPrefixOf_iff_prefix,
    List.isPrefixOf_iff_prefix]
  refine ⟨fun starts => ?_, fun starts => starts.trans (List.prefix_append _ _)⟩
  obtain ⟨more, spelled⟩ := List.prefix_of_prefix_length_le (List.prefix_append comment rest)
    starts (by omega)
  rw [← spelled, List.prefix_append_right_inj] at starts
  cases more with
  | nil => exact ⟨[], by simpa using spelled.symm⟩
  | cons c others =>
    obtain ⟨behind, rfl⟩ := starts
    have newline := ended c rfl
    exact absurd (by rw [← spelled, newline]; simp) oneLine

theorem startsLineComment_append (ended : EndsLine rest) :
    startsLineComment (comment ++ rest) = startsLineComment comment := by
  have same (lead : String) (oneLine : '\n' ∉ lead.toList) :
      startsWith (comment ++ rest) lead = startsWith comment lead :=
    startsWith_append_of_endsLine oneLine ended
  simp only [startsLineComment, same "//" (by decide), same "///" (by decide),
    same "////" (by decide), same "//!" (by decide)]

theorem startsBlockComment_append (long : 4 ≤ comment.length) :
    startsBlockComment (comment ++ rest) = startsBlockComment comment := by
  have same (lead : String) (short : lead.toList.length ≤ 4) :
      startsWith (comment ++ rest) lead = startsWith comment lead :=
    startsWith_append_of_le (Nat.le_trans short long)
  simp only [startsBlockComment, same "/**/" (by decide), same "/*" (by decide),
    same "/**" (by decide), same "/***" (by decide), same "/*!" (by decide)]

theorem exists_of_startsLineComment (line : startsLineComment text = true) :
    ∃ rest, text = '/' :: '/' :: rest := by
  simp only [startsLineComment, Bool.and_eq_true] at line
  obtain ⟨rest, rfl⟩ := List.isPrefixOf_iff_prefix.mp line.1.1
  exact ⟨rest, rfl⟩

theorem exists_of_startsBlockComment (block : startsBlockComment text = true) :
    ∃ rest, text = '/' :: '*' :: rest := by
  have starts : startsWith text "/*" = true := by
    simp only [startsBlockComment, Bool.or_eq_true, Bool.and_eq_true] at block
    rcases block with empty | other
    · obtain ⟨rest, rfl⟩ := List.isPrefixOf_iff_prefix.mp empty
      rfl
    · exact other.1.1
  obtain ⟨rest, rfl⟩ := List.isPrefixOf_iff_prefix.mp starts
  exact ⟨rest, rfl⟩

theorem startsLineComment_of_startsBlockComment (block : startsBlockComment text = true) :
    startsLineComment text = false := by
  obtain ⟨rest, rfl⟩ := exists_of_startsBlockComment block
  exact Bool.eq_false_iff.mpr fun line => nomatch exists_of_startsLineComment line

/-- The asterisk that opens a comment does not close it, too. -/
theorem Closes.four_le_length (closes : Closes 0 comment)
    (block : startsBlockComment (comment ++ rest) = true) : 4 ≤ comment.length := by
  obtain ⟨behind, spelled⟩ := exists_of_startsBlockComment block
  cases closes with
  | opens inner => have := inner.two_le_length; simp only [List.length_cons]; omega
  | ends _ => cases spelled
  | @other _ _ tail noOpening _ inner =>
    have long := inner.two_le_length
    obtain ⟨second, others, rfl⟩ := List.exists_cons_of_length_pos (Nat.zero_lt_of_lt long)
    cases spelled
    exact absurd rfl (noOpening rfl)

/-- `Skips text rest`: `rest` is what follows some separators and comments at the start of
`text`. Comments that document something are not among them. -/
inductive Skips : List Char → List Char → Prop
  | done (rest : List Char) : Skips rest rest
  | spacing {c : Char} {text rest : List Char} :
      isSpacing c = true → Skips text rest → Skips (c :: text) rest
  | line {comment text rest : List Char} :
      startsLineComment comment = true → '\n' ∉ comment → EndsLine text → Skips text rest →
      Skips (comment ++ text) rest
  | block {comment text rest : List Char} :
      startsBlockComment comment = true → Closes 0 comment → Skips text rest →
      Skips (comment ++ text) rest

theorem skips_of_afterTrivium? {next : List Char} (found : afterTrivium? text = some next)
    (skips : Skips next rest) : Skips text rest := by
  unfold afterTrivium? at found
  split at found
  · next line =>
    cases found
    have ended : EndsLine (text.dropWhile (· != '\n')) := by
      intro c head
      have stopped := List.head?_dropWhile_not (· != '\n') text
      simpa [head] using stopped
    have within : '\n' ∉ text.takeWhile (· != '\n') := fun member => by
      simpa using List.all_eq_true.mp List.all_takeWhile _ member
    rw [← List.takeWhile_append_dropWhile (p := (· != '\n')) (l := text)] at line ⊢
    rw [startsLineComment_append ended] at line
    exact .line line within ended skips
  split at found
  · next block =>
    obtain ⟨comment, rfl, closes⟩ := exists_closes_of_afterBlock found
    rw [startsBlockComment_append (closes.four_le_length block)] at block
    exact .block block closes skips
  split at found
  · cases found
  split at found
  · next space =>
    cases found
    exact .spacing space skips
  · cases found

theorem skips_skipTrivia (text : List Char) : Skips text (skipTrivia text) := by
  fun_induction skipTrivia text with
  | case1 text next found ih => exact skips_of_afterTrivium? found ih
  | case2 text solid => exact .done text

theorem skipTrivia_of_some {next : List Char} (found : afterTrivium? text = some next) :
    skipTrivia text = skipTrivia next := by
  rw [skipTrivia]
  split
  · next same => rw [Option.some.inj (found.symm.trans same)]
  · next solid => cases found.symm.trans solid

theorem afterTrivium?_spacing (space : isSpacing c = true) :
    afterTrivium? (c :: rest) = some rest := by
  have noComment : c ≠ '/' := by
    rintro rfl
    cases space
  have noLine : startsLineComment (c :: rest) = false := Bool.eq_false_iff.mpr fun line => by
    obtain ⟨_, spelled⟩ := exists_of_startsLineComment line
    exact noComment (List.cons.inj spelled).1
  have noBlock : startsBlockComment (c :: rest) = false := Bool.eq_false_iff.mpr fun block => by
    obtain ⟨_, spelled⟩ := exists_of_startsBlockComment block
    exact noComment (List.cons.inj spelled).1
  simp [afterTrivium?, noLine, noBlock, space]

theorem afterTrivium?_line (line : startsLineComment comment = true) (within : '\n' ∉ comment)
    (ended : EndsLine rest) : afterTrivium? (comment ++ rest) = some rest := by
  have inside : ∀ c ∈ comment, (c != '\n') = true := by
    intro c member
    rw [bne_iff_ne]
    rintro rfl
    exact within member
  have stops : ∀ c, rest.head? = some c → (c != '\n') = false := by
    intro c head
    simp [ended c head]
  unfold afterTrivium?
  rw [startsLineComment_append ended, if_pos line, dropWhile_append_eq inside stops]

theorem afterTrivium?_block (block : startsBlockComment comment = true)
    (closes : Closes 0 comment) : afterTrivium? (comment ++ rest) = some rest := by
  have long : 4 ≤ comment.length := closes.four_le_length (comment.append_nil.symm ▸ block)
  have whole : startsBlockComment (comment ++ rest) = true :=
    (startsBlockComment_append long).trans block
  unfold afterTrivium?
  rw [startsLineComment_of_startsBlockComment whole, if_pos whole, closes.afterBlock]
  rfl

theorem Skips.skipTrivia_eq (skips : Skips text rest) : skipTrivia text = skipTrivia rest := by
  induction skips with
  | done rest => rfl
  | spacing space _ ih => rw [skipTrivia_of_some (afterTrivium?_spacing space), ih]
  | line line within ended _ ih =>
    rw [skipTrivia_of_some (afterTrivium?_line line within ended), ih]
  | block block closes _ ih => rw [skipTrivia_of_some (afterTrivium?_block block closes), ih]

/-- What can be skipped starts with a separator or with a comment. -/
theorem Skips.head (skips : Skips (c :: text) []) : isSpacing c = true ∨ c = '/' := by
  generalize spelled : c :: text = whole at skips
  cases skips with
  | done => cases spelled
  | spacing space _ =>
    cases spelled
    exact .inl space
  | line line _ _ _ =>
    obtain ⟨_, rfl⟩ := exists_of_startsLineComment line
    exact .inr (List.cons.inj spelled).1
  | block block _ _ =>
    obtain ⟨_, rfl⟩ := exists_of_startsBlockComment block
    exact .inr (List.cons.inj spelled).1

/-- Without comments only separators are skipped. -/
theorem Skips.exists_spacing (skips : Skips text rest) (noSlash : '/' ∉ text) :
    ∃ before, text = before ++ rest ∧ ∀ c ∈ before, isSpacing c = true := by
  induction skips with
  | done rest => exact ⟨[], rfl, fun _ member => absurd member List.not_mem_nil⟩
  | @spacing c _ _ space _ ih =>
    obtain ⟨before, rfl, separates⟩ := ih fun member => noSlash (List.mem_cons_of_mem _ member)
    exact ⟨c :: before, rfl, List.forall_mem_cons.mpr ⟨space, separates⟩⟩
  | line line _ _ _ _ =>
    obtain ⟨_, rfl⟩ := exists_of_startsLineComment line
    exact absurd List.mem_cons_self noSlash
  | block block _ _ _ =>
    obtain ⟨_, rfl⟩ := exists_of_startsBlockComment block
    exact absurd List.mem_cons_self noSlash

/-! ## 3. Names -/

/-- The names that code can hold: plain ones, which may be reserved, and raw ones. -/
def IsName (name : String) : Prop :=
  isPlain name = true ∨
    ∃ base, name = "r#" ++ base ∧ isPlain base = true ∧ base ≠ "_" ∧ base ∉ enclosingWords

theorem IsName.head {name : String} (isName : IsName name) :
    ∃ c others, name.toList = c :: others ∧ isIdentStart c = true := by
  rcases isName with plain | ⟨base, rfl, _⟩
  · obtain ⟨c, others, spelled, start, _⟩ := isPlain_iff.mp plain
    exact ⟨c, others, spelled, start⟩
  · exact ⟨'r', '#' :: base.toList, by rw [String.toList_append]; rfl, rfl⟩

/-- A text that does not go on with the name before it, and makes nothing else of it. -/
def EndsName (rest : List Char) : Prop :=
  ∀ c, rest.head? = some c → isIdentContinue c = false ∧ c ∉ ['"', '\'', '#']

theorem Skips.endsName (skips : Skips rest []) : EndsName rest := by
  intro c head
  obtain ⟨others, rfl⟩ := List.head?_eq_some_iff.mp head
  rcases skips.head with space | rfl
  · refine ⟨Bool.eq_false_iff.mpr fun continues => ?_, fun member => ?_⟩
    · rw [isSpacing_of_isIdentContinue continues] at space
      cases space
    · have solid : ['"', '\'', '#'].any isSpacing = false := by decide
      exact List.any_eq_false.mp solid c member space
  · decide

theorem anyIdentifier?_eq_some {name : String} (found : anyIdentifier? text = some (name, rest)) :
    IsName name ∧ text = name.toList ++ rest := by
  unfold anyIdentifier? at found
  split at found
  · obtain ⟨⟨base, after⟩, read, kept⟩ := Option.bind_eq_some_iff.mp found
    obtain ⟨plain, rfl⟩ := eq_append_of_identifier? read
    simp only at kept
    split at kept
    · cases kept
    · next free =>
      cases kept
      simp only [Bool.or_eq_true, decide_eq_true_eq, List.contains_iff_mem, not_or] at free
      refine ⟨.inr ⟨base, rfl, plain, free.1, free.2⟩, ?_⟩
      rw [String.toList_append]
      rfl
  · obtain ⟨plain, spelled⟩ := eq_append_of_identifier? found
    exact ⟨.inl plain, spelled⟩

theorem name?_eq_some {token : Token} (found : name? text = some (token, rest)) :
    ∃ name, token = .name name ∧ IsName name ∧ text = name.toList ++ rest := by
  unfold name? at found
  split at found
  · cases found
  · obtain ⟨⟨name, after⟩, read, same⟩ := Option.map_eq_some_iff.mp found
    cases same
    exact ⟨name, rfl, anyIdentifier?_eq_some read⟩

theorem dropWhile_name {name : String} (plain : isPlain name = true) (ended : EndsName rest) :
    (name.toList ++ rest).dropWhile isIdentContinue = rest :=
  dropWhile_append_eq (fun _ => isIdentContinue_of_isPlain plain) fun c head => (ended c head).1

theorem anyIdentifier?_plain {name : String} (plain : isPlain name = true)
    (ended : EndsName rest) : anyIdentifier? (name.toList ++ rest) = some (name, rest) := by
  have behind := dropWhile_name plain ended
  unfold anyIdentifier?
  split
  · next base raw =>
    rw [raw] at behind
    exact absurd (by simp) (ended '#' (behind ▸ rfl)).2
  · exact identifier?_append plain fun c head => (ended c head).1

theorem noQuote_plain {name : String} (plain : isPlain name = true) (ended : EndsName rest) :
    quotedBeginnings.any (startsWith (name.toList ++ rest)) = false := by
  -- Both texts have the same first character that no name has, but it is a mark in only one.
  have marked : ∀ lead ∈ quotedBeginnings,
      (lead.toList.dropWhile isIdentContinue).head?.any (['"', '\'', '#'].contains ·) = true := by
    decide
  refine List.any_eq_false.mpr fun lead member starts => ?_
  obtain ⟨c, first, mark⟩ := (Option.any_eq_true _ _).mp (marked lead member)
  obtain ⟨more, spelled⟩ := List.head?_eq_some_iff.mp first
  obtain ⟨others, whole⟩ := List.isPrefixOf_iff_prefix.mp starts
  have behind := dropWhile_name plain ended
  rw [← whole, List.dropWhile_append, spelled] at behind
  exact (ended c (behind ▸ rfl)).2 (List.contains_iff_mem.mp mark)

theorem name?_plain {name : String} (plain : isPlain name = true) (ended : EndsName rest) :
    name? (name.toList ++ rest) = some (.name name, rest) := by
  simp [name?, noQuote_plain plain ended, anyIdentifier?_plain plain ended]

theorem name?_raw {base : String} (plain : isPlain base = true) (longer : base ≠ "_")
    (free : base ∉ enclosingWords) (ended : EndsName rest) :
    name? ("r#".toList ++ base.toList ++ rest) = some (.name ("r#" ++ base), rest) := by
  have read : identifier? (base.toList ++ rest) = some (base, rest) :=
    identifier?_append plain fun c head => (ended c head).1
  obtain ⟨first, others, spelled, start, _⟩ := isPlain_iff.mp plain
  have noQuote : first ≠ '"' ∧ first ≠ '#' := by
    constructor
    · rintro rfl
      cases start
    · rintro rfl
      cases start
  have open_ : quotedBeginnings.any (startsWith ('r' :: '#' :: (base.toList ++ rest))) = false := by
    simp [quotedBeginnings, startsWith, List.isPrefixOf, spelled, noQuote.1.symm, noQuote.2.symm]
  have whole : "r#".toList ++ base.toList ++ rest = 'r' :: '#' :: (base.toList ++ rest) := rfl
  rw [whole, name?, open_]
  simp [anyIdentifier?, read, longer, free]

theorem name?_append {name : String} (isName : IsName name) (ended : EndsName rest) :
    name? (name.toList ++ rest) = some (.name name, rest) := by
  rcases isName with plain | ⟨base, rfl, plain, longer, free⟩
  · exact name?_plain plain ended
  · rw [String.toList_append]
    exact name?_raw plain longer free ended

/-- A text holds only one name exactly if everything around this name can be skipped. -/
theorem soleName?_eq_some_iff {text sole : String} :
    soleName? text = some sole ↔
      IsName sole ∧ ∃ after,
        Skips (dropByteOrderMark text.toList) (sole.toList ++ after) ∧ Skips after [] := by
  unfold soleName?
  constructor
  · intro found
    have before := skips_skipTrivia (dropByteOrderMark text.toList)
    split at found
    · next name after read =>
      obtain ⟨_, same, isName, spelled⟩ := name?_eq_some read
      cases same
      split at found
      · next nothing =>
        cases found
        have behind := skips_skipTrivia after
        rw [List.isEmpty_iff.mp nothing] at behind
        exact ⟨isName, after, spelled ▸ before, behind⟩
      · cases found
    · cases found
  · rintro ⟨isName, after, before, behind⟩
    obtain ⟨c, others, spelled, start⟩ := isName.head
    have starts := startsName_of_isIdentStart start
    have solid : skipTrivia (sole.toList ++ after) = sole.toList ++ after := by
      rw [spelled, List.cons_append, skipTrivia_cons starts.noSlash starts.solid]
    simp [before.skipTrivia_eq, solid, name?_append isName behind.endsName, behind.skipTrivia_eq]

end ContractBinder.Code
