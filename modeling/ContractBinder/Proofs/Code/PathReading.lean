import ContractBinder.Code.Grammar.Reading
import ContractBinder.Proofs.Code.Lexing

/-!
# Reading plain paths

A path of names that are not reserved is read as the path that it spells
(`parse_pathText`). Its segments have no arguments, so what comes after a name
is a separator with another name behind it, or the end.
-/

namespace ContractBinder.Code

open Reader (start)

/-- The segment of a name without arguments. -/
def plainSegment (name : String) : Segment :=
  ⟨name, []⟩

namespace PathReading

/-! ## 1. Steps of readers -/

variable {progress : Progress}

theorem bind_apply {α β : Type} {first : Reader α} {next : α → Reader β} {progress after : Progress}
    {result : α} (done : first progress = .ok (result, after)) :
    (first >>= next) progress = next result after := by
  simp only [bind, StateT.bind, done, Except.bind]

theorem get_apply (progress : Progress) :
    (get : Reader Progress) progress = .ok (progress, progress) := rfl

theorem comes_apply (sign : Sign) (progress : Progress) :
    Reader.comes sign progress = .ok (sign.starts progress.rest, progress) := rfl

theorem comesAny_apply (signs : List Sign) (progress : Progress) :
    Reader.comesAny signs progress = .ok (signs.any (·.starts progress.rest), progress) := rfl

theorem comesThird_apply (sign : Sign) (progress : Progress) :
    Reader.comesThird sign progress =
      .ok (sign.starts (afterFirst (afterFirst progress.rest)), progress) := rfl

theorem silently_accept_separator {rest : List Token} (h : progress.rest = pathSep ++ rest) :
    Reader.silently (Reader.accept (.mark "::")) progress = .ok (true, { progress with rest }) := by
  obtain ⟨_, written, unread, limit⟩ := progress
  subst h
  rfl

theorem silently_accept_name {name : String} {rest : List Token}
    (h : progress.rest = .name name :: rest) :
    Reader.silently (Reader.accept (.mark "::")) progress = .ok (false, progress) := by
  obtain ⟨_, written, unread, limit⟩ := progress
  subst h
  rfl

theorem silently_take_separator {rest : List Token} (h : progress.rest = pathSep ++ rest) :
    Reader.silently (Reader.take (.mark "::")) progress = .ok ((), { progress with rest }) := by
  obtain ⟨_, written, unread, limit⟩ := progress
  subst h
  rfl

theorem readName_apply {name : String} {rest : List Token} (free : isReserved name = false)
    (h : progress.rest = .name name :: rest) :
    Reader.readName progress = .ok (name, { progress with rest }) := by
  have ahead : Reader.upcoming progress = .ok (.name name :: rest, progress) := by
    rw [← h]
    rfl
  rw [Reader.readName, bind_apply ahead]
  simp only [free]
  rfl

/-! ## 2. Segments -/

theorem not_starts_word {name spelling : String} {rest : List Token}
    (free : isReserved name = false) (reserved : isReserved spelling = true) :
    (Sign.word spelling).starts (.name name :: rest) = false := by
  have different : name ≠ spelling := by
    rintro rfl
    rw [reserved] at free
    cases free
  simpa [Sign.starts] using different

theorem comesArguments_apply {names : List String} (h : progress.rest = separatedTokens names) :
    Grammar.comesArguments false progress = .ok (false, progress) := by
  obtain ⟨_, written, unread, limit⟩ := progress
  subst h
  cases names <;> rfl

theorem segment_apply {nested : Nested} {name : String} {names : List String}
    (free : isReserved name = false)
    (h : progress.rest = .name name :: separatedTokens names) :
    Grammar.segment nested false progress =
      .ok (⟨name, []⟩, { progress with rest := separatedTokens names }) := by
  have noWord : ∀ spelling, isReserved spelling = true →
      (Sign.word spelling).starts progress.rest = false :=
    fun spelling reserved => h ▸ not_starts_word free reserved
  have noBare : Grammar.bareSegments.any (·.starts progress.rest) = false := by
    simp [Grammar.bareSegments, noWord "super" rfl, noWord "self" rfl, noWord "crate" rfl,
      noWord "try" rfl]
  rw [Grammar.segment, bind_apply (comesAny_apply _ _), noBare]
  simp only [Bool.false_eq_true, if_false]
  rw [bind_apply (comes_apply _ _), noWord "Self" rfl]
  simp only [Bool.false_eq_true, if_false]
  rw [bind_apply (readName_apply free h), bind_apply (comesArguments_apply rfl)]
  rfl

theorem goesOn_iff (names : List String) :
    ((Sign.mark "::").starts (separatedTokens names) &&
      !(Sign.opening .paren).starts (afterFirst (afterFirst (separatedTokens names)))) =
        !names.isEmpty := by
  cases names <;> rfl

theorem segmentsUpTo_apply {nested : Nested} {first : String} {others : List String}
    (free : ∀ name ∈ first :: others, isReserved name = false) {bound : Nat}
    (enough : others.length < bound)
    (h : progress.rest = .name first :: separatedTokens others) :
    Grammar.segmentsUpTo nested false bound progress =
      .ok ((first :: others).map plainSegment, { progress with rest := [] }) := by
  induction others generalizing first bound progress with
  | nil =>
    obtain ⟨bound, rfl⟩ : ∃ more, bound = more + 1 := ⟨bound - 1, by omega⟩
    rw [Grammar.segmentsUpTo, bind_apply (segment_apply (free first List.mem_cons_self) h),
      bind_apply (comes_apply _ _), bind_apply (comesThird_apply _ _), goesOn_iff]
    rfl
  | cons second others ih =>
    obtain ⟨bound, rfl⟩ : ∃ more, bound = more + 1 := ⟨bound - 1, by omega⟩
    have later : ∀ name ∈ second :: others, isReserved name = false :=
      fun name member => free name (List.mem_cons_of_mem first member)
    let behind : Progress := { progress with rest := .name second :: separatedTokens others }
    have step : Reader.silently (Reader.take (.mark "::"))
        { progress with rest := separatedTokens (second :: others) } = .ok ((), behind) :=
      silently_take_separator rfl
    have inner := ih later (Nat.lt_of_succ_lt_succ enough) (rfl : behind.rest = _)
    rw [Grammar.segmentsUpTo, bind_apply (segment_apply (free first List.mem_cons_self) h),
      bind_apply (comes_apply _ _), bind_apply (comesThird_apply _ _), goesOn_iff]
    simp only [List.isEmpty_cons, Bool.not_false, if_true]
    rw [bind_apply step]
    exact (bind_apply inner).trans rfl

theorem path_apply (nested : Nested) {absolute : Bool} {first : String} {others : List String}
    (free : ∀ name ∈ first :: others, isReserved name = false)
    (h : progress.rest = pathOf absolute (first :: others))
    (enough : others.length < progress.limit) :
    Grammar.path nested false progress =
      .ok (⟨absolute, (first :: others).map plainSegment⟩, { progress with rest := [] }) := by
  rw [pathOf_cons] at h
  cases absolute with
  | false =>
    rw [Grammar.path, bind_apply (silently_accept_name h), bind_apply (get_apply progress)]
    exact (bind_apply (segmentsUpTo_apply free enough h)).trans rfl
  | true =>
    rw [Grammar.path, bind_apply (silently_accept_separator h), bind_apply (get_apply _)]
    exact (bind_apply (segmentsUpTo_apply free enough rfl)).trans rfl

end PathReading

open PathReading

theorem spellDocs_pathOf (absolute : Bool) (first : String) (others : List String) :
    spellDocs (pathOf absolute (first :: others)) = pathOf absolute (first :: others) := by
  have behind : spellDocs (separatedTokens others) = separatedTokens others := by
    induction others with
    | nil => rfl
    | cons second others ih => exact congrArg (pathSep ++ .name second :: ·) ih
  rw [pathOf_cons]
  cases absolute with
  | false => exact congrArg (Token.name first :: ·) behind
  | true => exact congrArg (pathSep ++ .name first :: ·) behind

theorem length_separatedTokens (names : List String) :
    (separatedTokens names).length = 3 * names.length := by
  induction names with
  | nil => rfl
  | cons name names ih =>
    rw [separatedTokens, List.flatMap_cons, List.length_append]
    change 3 + (separatedTokens names).length = _
    rw [ih, List.length_cons]
    omega

/-- The text of a path of plain names is read as this path. -/
theorem parse_pathText {absolute : Bool} {names : List String} (nonempty : names ≠ [])
    (identifiers : ∀ name ∈ names, IsIdentifier name) :
    Path.parse (pathText absolute names) = .ok ⟨absolute, names.map plainSegment⟩ := by
  cases names with
  | nil => exact absurd rfl nonempty
  | cons first others =>
    have tokens : tokens? (pathText absolute (first :: others)) =
        some (pathOf absolute (first :: others)) :=
      tokens?_pathText nonempty fun name member => (identifiers name member).plain
    have enough : others.length < (pathOf absolute (first :: others)).length + 1 := by
      rw [pathOf_cons, List.length_append, List.length_cons, length_separatedTokens]
      omega
    have whole : (Reader.start (pathOf absolute (first :: others))).rest =
        pathOf absolute (first :: others) := rfl
    have free : ∀ name ∈ first :: others, isReserved name = false :=
      fun name member => (identifiers name member).free
    have read := path_apply
      (Grammar.nestedUpTo (Grammar.depthOf (pathOf absolute (first :: others)))) free whole enough
    simp only [Path.parse, tokens, Path.ofTokens, spellDocs_pathOf, Reader.readAll, StateT.run,
      read]
    rfl

end ContractBinder.Code
