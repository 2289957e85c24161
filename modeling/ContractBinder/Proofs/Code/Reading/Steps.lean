import ContractBinder.Code.Grammar.Construct
import ContractBinder.Proofs.Code.Brackets
import ContractBinder.Proofs.Code.PathReading

/-!
# What every step of reading preserves

A reader takes tokens from the front of what comes next, and writes tokens behind what was
written. Both have matching brackets, so no reader leaves the brackets that it was started in.

Results:

1. `Step` says what is true between two places that a reader passes; `Step.trans` puts steps
   together.
2. `Keeps` says of a reader that it makes such steps, whatever it reads. Readers that are put
   together from readers that keep to this keep to it, too: a lemma for each way to put readers
   together.
3. `Keeps.brackets`: brackets are taken with all that they hold, even if something was left over
   inside.
-/

namespace ContractBinder.Code

open Reader PathReading

/-- Tokens with matching brackets were taken between two places. The word that makes items public
was not taken outside brackets unless `pubs` says so. -/
structure Took (pubs : Bool) (origin progress : Progress) : Prop where
  closes : ClosesEach origin.rest
  taken : ∃ taken, Matched pubs taken ∧ origin.rest = taken ++ progress.rest
  limit : progress.limit = origin.limit

/-- Tokens with matching brackets were written, too. -/
structure Step (pubs : Bool) (origin progress : Progress) : Prop extends
    Took pubs origin progress where
  wrote : ∃ wrote, Matched true wrote ∧ progress.written = wrote.reverse ++ origin.written

/-- What is true at this place is true where the reader gets from there. -/
def KeepsAt (invariant : Progress → Prop) (before : Progress) {α : Type} (reader : Reader α) :
    Prop :=
  ∀ result after, reader before = .ok (result, after) → invariant before → invariant after

/-- What is true somewhere is true where the reader gets from there. -/
def Keeps (invariant : Progress → Prop) {α : Type} (reader : Reader α) : Prop :=
  ∀ before, KeepsAt invariant before reader

/-- What is true at this place is true where the reader gets from there, and its result is good. -/
def YieldsAt (invariant : Progress → Prop) (before : Progress) {α : Type} (good : α → Prop)
    (reader : Reader α) : Prop :=
  ∀ result after, reader before = .ok (result, after) → invariant before →
    invariant after ∧ good result

/-- What is true somewhere is true where the reader gets from there, and its result is good. -/
def Yields (invariant : Progress → Prop) {α : Type} (good : α → Prop) (reader : Reader α) : Prop :=
  ∀ before, YieldsAt invariant before good reader

variable {pubs : Bool} {origin before after : Progress} {α β : Type} {good : α → Prop}
  {reader : Reader α} {next : α → Reader β} {invariant : Progress → Prop}

/-! ## 1. Steps -/

namespace Took

theorem refl (closes : ClosesEach origin.rest) : Took pubs origin origin where
  closes := closes
  taken := ⟨[], .nil, rfl⟩
  limit := rfl

theorem closes_rest (took : Took pubs origin before) : ClosesEach before.rest := by
  obtain ⟨taken, _, rest⟩ := took.taken
  exact took.closes.of_suffix ⟨taken, rest.symm⟩

theorem trans (first : Took pubs origin before) (second : Took pubs before after) :
    Took pubs origin after where
  closes := first.closes
  taken := by
    obtain ⟨taken, matched, rest⟩ := first.taken
    obtain ⟨more, matchedMore, restMore⟩ := second.taken
    exact ⟨taken ++ more, matched.append matchedMore, by rw [rest, restMore, List.append_assoc]⟩
  limit := second.limit.trans first.limit

theorem weaken (took : Took pubs origin before) : Took true origin before where
  closes := took.closes
  taken := by
    obtain ⟨taken, matched, rest⟩ := took.taken
    exact ⟨taken, matched.weaken, rest⟩
  limit := took.limit

/-- The bound for repetitions stays larger than what is left. -/
theorem length_lt_limit (took : Took pubs origin before)
    (enough : origin.rest.length < origin.limit) : before.rest.length < before.limit := by
  obtain ⟨taken, _, rest⟩ := took.taken
  rw [rest, List.length_append] at enough
  rw [took.limit]
  omega

end Took

namespace Step

theorem refl (closes : ClosesEach origin.rest) : Step pubs origin origin where
  toTook := .refl closes
  wrote := ⟨[], .nil, rfl⟩

theorem trans (first : Step pubs origin before) (second : Step pubs before after) :
    Step pubs origin after where
  toTook := first.toTook.trans second.toTook
  wrote := by
    obtain ⟨wrote, matched, written⟩ := first.wrote
    obtain ⟨more, matchedMore, writtenMore⟩ := second.wrote
    refine ⟨wrote ++ more, matched.append matchedMore, ?_⟩
    rw [writtenMore, written, List.reverse_append, List.append_assoc]

theorem weaken (step : Step pubs origin before) : Step true origin before where
  toTook := step.toTook.weaken
  wrote := step.wrote

/-- What was written stays written. -/
theorem written_prefix (step : Step pubs origin before) :
    origin.written.reverse <+: before.written.reverse := by
  obtain ⟨wrote, _, written⟩ := step.wrote
  rw [written, List.reverse_append, List.reverse_reverse]
  exact List.prefix_append _ _

theorem extend (step : Step pubs origin before) {taken wrote rest : List Token}
    (matched : Matched pubs taken) (matchedWrote : Matched true wrote)
    (whole : before.rest = taken ++ rest) {unread : Option Delimiter} :
    Step pubs origin ⟨rest, wrote.reverse ++ before.written, unread, before.limit⟩ :=
  step.trans ⟨⟨step.closes_rest, ⟨taken, matched, whole⟩, rfl⟩, ⟨wrote, matchedWrote, rfl⟩⟩

end Step

/-- What stays true where readers make steps. -/
structure Lasting (pubs : Bool) (invariant : Progress → Prop) : Prop where
  closes : ∀ {before}, invariant before → ClosesEach before.rest
  step : ∀ {before after}, invariant before → Step pubs before after → invariant after

theorem Step.lasting : Lasting pubs (Step pubs origin) where
  closes := fun step => step.closes_rest
  step := Step.trans

theorem Took.lasting : Lasting pubs (Took pubs origin) where
  closes := Took.closes_rest
  step := fun took step => took.trans step.toTook

theorem bind_ok {result : β} (done : (reader >>= next) before = .ok (result, after)) :
    ∃ value between, reader before = .ok (value, between) ∧
      next value between = .ok (result, after) := by
  cases first : reader before with
  | error fault =>
    simp only [bind, StateT.bind, first, Except.bind] at done
    cases done
  | ok found =>
    rw [bind_apply first] at done
    exact ⟨found.1, found.2, rfl, done⟩

theorem discard_apply {result : α} (done : reader before = .ok (result, after)) :
    discard reader before = .ok ((), after) :=
  have same : discard reader before = (reader >>= fun _ => pure ()) before := rfl
  same.trans (bind_apply done)

theorem discard_ok {result : Unit} (done : discard reader before = .ok (result, after)) :
    ∃ value, reader before = .ok (value, after) := by
  have read : (reader >>= fun _ => pure ()) before = .ok (result, after) := done
  obtain ⟨value, between, read, same⟩ := bind_ok read
  cases same
  exact ⟨value, read⟩

/-! ## 2. Readers that are put together -/

namespace KeepsAt

theorem bind (first : KeepsAt invariant before reader)
    (later : ∀ value, Keeps invariant (next value)) :
    KeepsAt invariant before (reader >>= next) := by
  intro result after done step
  obtain ⟨value, between, one, two⟩ := bind_ok done
  exact later value between result after two (first value between one step)

/-- Looking ahead leaves a reader where it is. -/
theorem look {value : α} (looks : reader before = .ok (value, before))
    (later : KeepsAt invariant before (next value)) :
    KeepsAt invariant before (reader >>= next) := by
  intro result after done step
  rw [bind_apply looks] at done
  exact later result after done step

theorem lift (lasting : Lasting pubs invariant) (keeps : KeepsAt (Step pubs before) before reader) :
    KeepsAt invariant before reader := by
  intro result after done holds
  exact lasting.step holds (keeps result after done (Step.refl (lasting.closes holds)))

theorem ite {condition : Prop} [Decidable condition] {first second : Reader α}
    (yes : condition → KeepsAt invariant before first)
    (no : ¬condition → KeepsAt invariant before second) :
    KeepsAt invariant before (if condition then first else second) := by
  split
  · exact yes ‹_›
  · exact no ‹_›

theorem guard {condition : Bool} {first second : Reader α}
    (no : KeepsAt invariant before first)
    (yes : condition = true → KeepsAt invariant before second) :
    KeepsAt invariant before (if !condition then first else second) := by
  cases condition with
  | true => exact yes rfl
  | false => exact no

end KeepsAt

namespace Keeps

variable {value : α} {first second : Reader α} {condition : Prop} [Decidable condition]

theorem pure (value : α) : Keeps invariant (Pure.pure value : Reader α) := by
  intro before result after done step
  cases done
  exact step

theorem fails (fault : SyntaxFault) : Keeps invariant (throw fault : Reader α) := by
  intro before result after done
  cases done

theorem bind (first : Keeps invariant reader) (later : ∀ value, Keeps invariant (next value)) :
    Keeps invariant (reader >>= next) :=
  fun before => (first before).bind later

theorem bindGood (first : Yields invariant good reader)
    (later : ∀ value, good value → Keeps invariant (next value)) :
    Keeps invariant (reader >>= next) := by
  intro before result after done step
  obtain ⟨value, between, one, two⟩ := bind_ok done
  obtain ⟨made, isGood⟩ := first before value between one step
  exact later value isGood between result after two made

theorem ite (yes : Keeps invariant first) (no : Keeps invariant second) :
    Keeps invariant (if condition then first else second) := by
  split
  · exact yes
  · exact no

/-- A part that is read on a condition only. -/
theorem optional {part : Reader Unit} {next : Unit → Reader β} (first : Keeps invariant part)
    (later : ∀ value, Keeps invariant (next value)) :
    Keeps invariant (if condition then part >>= next else next ()) :=
  ite (first.bind later) (later ())

/-- One of two parts is read. -/
theorem either (one : Keeps invariant first) (other : Keeps invariant second)
    (later : ∀ value, Keeps invariant (next value)) :
    Keeps invariant (if condition then first >>= next else second >>= next) :=
  ite (one.bind later) (other.bind later)

theorem discard (keeps : Keeps invariant reader) : Keeps invariant (discard reader) :=
  keeps.bind fun _ => pure _

/-- A reader that remembers where it starts. -/
theorem fromHere {next : Progress → Reader β} (later : ∀ here, Keeps (Step pubs here) (next here)) :
    Keeps (Step pubs origin) (get >>= next) := by
  intro before result after done step
  rw [bind_apply (get_apply before)] at done
  exact step.trans (later before before result after done (Step.refl step.closes_rest))

/-- Steps keep what stays true where readers make steps. -/
theorem lift (lasting : Lasting pubs invariant) (keeps : ∀ here, Keeps (Step pubs here) reader) :
    Keeps invariant reader :=
  fun before => .lift lasting (keeps before before)

theorem get : Keeps invariant get := by
  intro before result after done step
  cases done
  exact step

end Keeps

namespace YieldsAt

variable {better : β → Prop}

theorem bind (first : KeepsAt invariant before reader)
    (later : ∀ value, Yields invariant better (next value)) :
    YieldsAt invariant before better (reader >>= next) := by
  intro result after done step
  obtain ⟨value, between, one, two⟩ := bind_ok done
  exact later value between result after two (first value between one step)

theorem look {value : α} (looks : reader before = .ok (value, before))
    (later : YieldsAt invariant before better (next value)) :
    YieldsAt invariant before better (reader >>= next) := by
  intro result after done step
  rw [bind_apply looks] at done
  exact later result after done step

theorem ite {condition : Prop} [Decidable condition] {first second : Reader α}
    (yes : condition → YieldsAt invariant before good first)
    (no : ¬condition → YieldsAt invariant before good second) :
    YieldsAt invariant before good (if condition then first else second) := by
  split
  · exact yes ‹_›
  · exact no ‹_›

end YieldsAt

namespace Yields

theorem pure {value : α} (isGood : good value) :
    Yields invariant good (Pure.pure value : Reader α) := by
  intro before result after done step
  cases done
  exact ⟨step, isGood⟩

theorem bind {better : β → Prop} (first : Keeps invariant reader)
    (later : ∀ value, Yields invariant better (next value)) :
    Yields invariant better (reader >>= next) :=
  fun before => .bind (first before) later

theorem bindGood {better : β → Prop} (first : Yields invariant good reader)
    (later : ∀ value, good value → Yields invariant better (next value)) :
    Yields invariant better (reader >>= next) := by
  intro before result after done step
  obtain ⟨value, between, one, two⟩ := bind_ok done
  obtain ⟨made, isGood⟩ := first before value between one step
  exact later value isGood between result after two made

theorem ite {condition : Prop} [Decidable condition] {first second : Reader α}
    (yes : Yields invariant good first) (no : Yields invariant good second) :
    Yields invariant good (if condition then first else second) := by
  split
  · exact yes
  · exact no

theorem keeps (yields : Yields invariant good reader) : Keeps invariant reader :=
  fun before result after done step => (yields before result after done step).1

end Yields

/-! ## 3. Looking ahead -/

namespace Keeps

/-- Looking ahead changes nothing. -/
theorem looks {answer : Progress → α}
    (same : ∀ before, reader before = .ok (answer before, before)) :
    Keeps invariant reader := by
  intro before result after done step
  rw [same] at done
  cases done
  exact step

theorem upcoming : Keeps invariant upcoming :=
  looks fun _ => rfl

theorem comes (sign : Sign) : Keeps invariant (comes sign) :=
  looks fun _ => rfl

theorem comesAny (signs : List Sign) : Keeps invariant (comesAny signs) :=
  looks fun _ => rfl

theorem comesSecond (sign : Sign) : Keeps invariant (comesSecond sign) :=
  looks fun _ => rfl

theorem comesThird (sign : Sign) : Keeps invariant (comesThird sign) :=
  looks fun _ => rfl

theorem ends : Keeps invariant ends :=
  looks fun _ => rfl

theorem missing (wanted : String) : Keeps invariant (missing wanted : Reader α) :=
  ends.bind fun _ => fails _

theorem missingAny (signs : List Sign) : Keeps invariant (missingAny signs : Reader α) :=
  missing _

theorem forbid (restriction : Restriction) : Keeps invariant (forbid restriction : Reader α) :=
  fails _

/-- Nothing is read behind a fault. -/
theorem failsFirst {fault : Progress → SyntaxFault}
    (always : ∀ before, reader before = .error (fault before)) :
    Keeps invariant (reader >>= next) := by
  intro before result after done
  obtain ⟨value, between, one, _⟩ := bind_ok done
  rw [always] at one
  cases one

theorem missingFirst (wanted : String) {next : α → Reader β} :
    Keeps invariant (Reader.missing wanted >>= next) :=
  failsFirst fun _ => rfl

theorem forbidFirst (restriction : Restriction) {next : α → Reader β} :
    Keeps invariant (Reader.forbid restriction >>= next) :=
  failsFirst fun _ => rfl

end Keeps

/-! ## 4. Taking and writing tokens -/

/-- Whether what the sign stands for is no bracket, and the word that makes items public only if
that is allowed. -/
def Sign.isTame (pubs : Bool) : Sign → Bool
  | .word spelling => spelling ≠ "pub" || pubs
  | .anyName => pubs
  | .opening _ => false
  | _ => true

/-- Whether the sign stands for names other than the word that makes items public. -/
def Sign.isTameName : Sign → Bool
  | .word spelling => spelling ≠ "pub"
  | .name => true
  | _ => false

theorem matched_take_of_startsOperatorOf (pubs : Bool) {characters : List Char}
    {tokens : List Token} (starts : startsOperatorOf characters tokens = true) :
    Matched pubs (tokens.take characters.length) := by
  fun_induction startsOperatorOf characters tokens with
  | case1 => exact .nil
  | case2 => exact .single rfl
  | case3 symbol others found joint rest _ ih =>
    simp only [Bool.and_eq_true] at starts
    exact .cons rfl (ih starts.2)
  | case4 => cases starts

theorem matched_operatorTokens (spelling : String) : Matched true (operatorTokens spelling) := by
  unfold operatorTokens
  split
  · exact .nil
  · refine .append (.of_forall fun token member => ?_) (.single rfl)
    obtain ⟨symbol, _, rfl⟩ := List.mem_map.mp (List.mem_reverse.mp member)
    rfl

theorem matched_of_literal? (pubs : Bool) {tokens wrote rest : List Token}
    (found : literal? tokens = some (wrote, rest)) :
    ∃ taken, tokens = taken ++ rest ∧ Matched pubs taken ∧ Matched true wrote := by
  unfold literal? at found
  split at found
  · cases found
    exact ⟨[_], rfl, .single rfl, .single rfl⟩
  · cases found
    exact ⟨[_], rfl, .single rfl, .single rfl⟩
  · cases found
    exact ⟨[_], rfl, .single rfl, .single rfl⟩
  · cases found
    exact ⟨[_], rfl, .single rfl, .single rfl⟩
  · cases found
    exact ⟨[_], rfl, .single rfl, .single rfl⟩
  · split at found
    · cases found
      exact ⟨[_, _], rfl, .cons rfl (.single rfl), .cons rfl (.single rfl)⟩
    · cases found
  · cases found
    exact ⟨[_, _], rfl, .cons rfl (.single rfl), .cons rfl (.single rfl)⟩
  · cases found

theorem starts_word_iff {spelling : String} {tokens : List Token} :
    (Sign.word spelling).starts tokens = true ↔ ∃ rest, tokens = .name spelling :: rest := by
  constructor
  · intro starts
    cases tokens with
    | nil => cases starts
    | cons token rest =>
      cases token with
      | name found => exact ⟨rest, by rw [of_decide_eq_true starts]⟩
      | mark | text | number | literal | opening | closing | doc => cases starts
  · rintro ⟨rest, rfl⟩
    exact decide_eq_true rfl

theorem exists_name_of_starts_name {tokens : List Token} (starts : Sign.name.starts tokens = true) :
    ∃ name rest, tokens = .name name :: rest ∧ isReserved name = false := by
  cases tokens with
  | nil => cases starts
  | cons token rest =>
    cases token with
    | name found => exact ⟨found, rest, rfl, (Bool.not_eq_true' _).mp starts⟩
    | mark | text | number | literal | opening | closing | doc => cases starts

theorem isTame_of_not_isReserved (pubs : Bool) {name : String} (free : isReserved name = false) :
    (Token.name name).isTame pubs = true := by
  have other : name ≠ "pub" := by
    rintro rfl
    cases free
  rw [Token.isTame, decide_eq_true other, Bool.true_or]

/-- What a sign for names stands for is taken as it is, outside brackets, too. -/
theorem exists_name_of_isTameName (pubs : Bool) {sign : Sign} {tokens : List Token}
    (tame : sign.isTameName = true) (starts : sign.starts tokens = true) :
    ∃ name rest, tokens = .name name :: rest ∧ (Token.name name).isTame pubs = true := by
  cases sign with
  | word spelling =>
    obtain ⟨rest, rfl⟩ := starts_word_iff.mp starts
    refine ⟨spelling, rest, rfl, ?_⟩
    rw [Token.isTame, show decide (spelling ≠ "pub") = true from tame, Bool.true_or]
  | name =>
    obtain ⟨name, rest, rfl, free⟩ := exists_name_of_starts_name starts
    exact ⟨name, rest, rfl, isTame_of_not_isReserved pubs free⟩
  | mark | anyName | lifetime | literal | text | opening => cases tame

theorem Keeps.write {tokens : List Token} (matched : Matched true tokens) :
    Keeps (Step pubs origin) (write tokens) := by
  intro before result after done step
  cases done
  exact step.extend .nil matched rfl

namespace KeepsAt

/-- A reader goes on behind some tokens. -/
theorem goOn {taken rest : List Token} (matched : Matched pubs taken)
    (whole : before.rest = taken ++ rest) :
    KeepsAt (Step pubs origin) before (continueWith rest) := by
  intro result after done step
  cases done
  exact step.extend matched .nil whole

theorem copy {token : Token} {rest : List Token} (tame : token.isTame pubs = true)
    (next : before.rest = token :: rest) :
    KeepsAt (Step pubs origin) before (do continueWith rest; Reader.write [token]) :=
  (goOn (.single tame) next).bind fun _ => .write (.single (Token.isTame_weaken tame))

theorem takeLiteral {sign : Sign} :
    KeepsAt (Step pubs origin) before
      (match literal? before.rest with
        | some (tokens, rest) =>
          if sign.starts before.rest then do
            continueWith rest
            Reader.write tokens
          else Reader.missing sign.wanted
        | none => Reader.missing sign.wanted) := by
  split
  · rename_i tokens rest found
    obtain ⟨taken, whole, matched, matchedWrote⟩ := matched_of_literal? pubs found
    exact .ite (fun _ => (goOn matched whole).bind fun _ => .write matchedWrote)
      fun _ => Keeps.missing _ _
  · exact Keeps.missing _ _

theorem takeToken {sign : Sign}
    (tame : ∀ token rest, before.rest = token :: rest → sign.starts before.rest = true →
      token.isTame pubs = true) :
    KeepsAt (Step pubs origin) before
      (match before.rest with
        | token :: rest =>
          if sign.starts before.rest then do
            continueWith rest
            Reader.write [token]
          else Reader.missing sign.wanted
        | [] => Reader.missing sign.wanted) := by
  split
  · rename_i token rest next
    exact .ite (fun starts => .copy (tame token rest next (next ▸ starts)) next)
      fun _ => Keeps.missing _ _
  · exact Keeps.missing _ _

/-- Any name may be taken where one of the other signs for names starts. -/
theorem takeAnyName {signs : List Sign} (tame : signs.all Sign.isTameName = true)
    (starts : signs.any (·.starts before.rest) = true) :
    KeepsAt (Step pubs origin) before (take .anyName) := by
  obtain ⟨sign, listed, starts⟩ := List.any_eq_true.mp starts
  obtain ⟨name, rest, next, tameName⟩ :=
    exists_name_of_isTameName pubs (List.all_eq_true.mp tame sign listed) starts
  refine .look rfl (.takeToken fun token others whole _ => ?_)
  rw [next] at whole
  cases whole
  exact tameName

theorem readAnyName {signs : List Sign} (tame : signs.all Sign.isTameName = true)
    (starts : signs.any (·.starts before.rest) = true) :
    KeepsAt (Step pubs origin) before readAnyName := by
  obtain ⟨sign, listed, starts⟩ := List.any_eq_true.mp starts
  obtain ⟨name, rest, next, tameName⟩ :=
    exists_name_of_isTameName pubs (List.all_eq_true.mp tame sign listed) starts
  refine .look rfl ?_
  rw [next]
  exact (goOn (.single tameName) next).bind fun _ => .pure _

end KeepsAt

theorem Keeps.readName : Keeps (Step pubs origin) readName := by
  intro before
  refine .look rfl ?_
  split
  · rename_i name rest next
    refine KeepsAt.ite (fun _ => fails _ _) fun free => ?_
    have tame := isTame_of_not_isReserved pubs (Bool.eq_false_iff.mpr free)
    exact (KeepsAt.goOn (.single tame) next).bind fun _ => .pure _
  · exact missing _ _

theorem Keeps.take {sign : Sign} (tame : sign.isTame pubs = true) :
    Keeps (Step pubs origin) (take sign) := by
  intro before
  cases sign with
  | mark spelling =>
    refine .look rfl (KeepsAt.ite (fun starts => ?_) fun _ => fails _ _)
    have matched := matched_take_of_startsOperatorOf pubs starts
    rw [String.length_toList] at matched
    exact (KeepsAt.goOn matched (List.take_append_drop _ _).symm).bind fun _ =>
      .write (matched_operatorTokens spelling)
  | word spelling =>
    refine .look rfl (.takeToken fun token rest next starts => ?_)
    obtain ⟨_, same⟩ := starts_word_iff.mp starts
    rw [next] at same
    cases same
    exact tame
  | anyName =>
    refine .look rfl (.takeToken fun token rest next starts => ?_)
    cases tame
    rw [next] at starts
    cases token with
    | name spelling => exact Token.isTame_name spelling
    | mark | text | number | literal | opening | closing | doc => cases starts
  | name =>
    exact .look rfl
      (Keeps.readName.bind (fun name => .write (.single (Token.isTame_name name))) before)
  | lifetime =>
    refine .look rfl ?_
    dsimp only
    split
    · rename_i name rest next
      exact (KeepsAt.goOn (.lifetime name .nil) next).bind fun _ => .write (.lifetime name .nil)
    · exact missing _ _
  | literal => exact .look rfl .takeLiteral
  | text => exact .look rfl .takeLiteral
  | opening => cases tame

namespace Keeps

variable {sign : Sign} {signs : List Sign}

theorem accept (tame : sign.isTame pubs = true) : Keeps (Step pubs origin) (accept sign) :=
  .bind (comes _) fun _ => .ite (.bind (take tame) fun _ => pure _) (pure _)

end Keeps

namespace KeepsAt

variable {signs : List Sign}

theorem acceptAny (tame : ∀ sign ∈ signs, sign.starts before.rest = true →
    sign.isTame pubs = true) : KeepsAt (Step pubs origin) before (acceptAny signs) := by
  refine .look rfl ?_
  split
  · rename_i sign found
    have starts : sign.starts before.rest = true := by simpa using List.find?_some found
    have tameSign := tame sign (List.mem_of_find?_eq_some found) starts
    exact Keeps.bind (.take tameSign) (fun _ => .pure _) _
  · exact Keeps.pure _ _

theorem takeAny (tame : ∀ sign ∈ signs, sign.starts before.rest = true →
    sign.isTame pubs = true) : KeepsAt (Step pubs origin) before (takeAny signs) :=
  .bind (.acceptAny tame) fun _ => .ite (.pure _) (.missingAny _)

end KeepsAt

theorem Keeps.acceptAny {signs : List Sign} (tame : signs.all (·.isTame pubs) = true) :
    Keeps (Step pubs origin) (acceptAny signs) :=
  fun _ => .acceptAny fun sign listed _ => List.all_eq_true.mp tame sign listed

theorem Keeps.takeAny {signs : List Sign} (tame : signs.all (·.isTame pubs) = true) :
    Keeps (Step pubs origin) (takeAny signs) :=
  fun _ => .takeAny fun sign listed _ => List.all_eq_true.mp tame sign listed

/-- What does not come next is not accepted, and the reader stays where it is. -/
theorem accept_ok {sign : Sign} {found : Bool}
    (done : Reader.accept sign before = .ok (found, after)) :
    found = sign.starts before.rest ∧ (found = false → after = before) := by
  rw [Reader.accept, bind_apply (comes_apply sign before)] at done
  cases starts : sign.starts before.rest with
  | true =>
    rw [starts, if_pos rfl] at done
    obtain ⟨_, between, _, same⟩ := bind_ok done
    cases same
    exact ⟨rfl, nofun⟩
  | false =>
    rw [starts] at done
    cases done
    exact ⟨rfl, fun _ => rfl⟩

theorem take_mark_ok {spelling : String} {result : Unit}
    (done : Reader.take (.mark spelling) before = .ok (result, after)) :
    (Sign.mark spelling).starts before.rest = true ∧
      after = ⟨before.rest.drop spelling.length,
        (operatorTokens spelling).reverse ++ before.written, before.unread, before.limit⟩ := by
  obtain ⟨ahead, _, found, done⟩ := bind_ok done
  cases found
  simp only at done
  split at done
  · cases done
    exact ⟨‹_›, rfl⟩
  · cases done

theorem exists_mark_of_startsOperatorOf {symbol : Char} {tokens : List Token}
    (starts : startsOperatorOf [symbol] tokens = true) :
    ∃ joint rest, tokens = .mark symbol joint :: rest := by
  cases tokens with
  | nil => cases starts
  | cons token rest =>
    cases token with
    | mark found joint => exact ⟨joint, rest, by rw [of_decide_eq_true starts]⟩
    | name | text | number | literal | opening | closing | doc => cases starts

theorem take_name_eq (progress : Progress) :
    take .name progress = (readName >>= fun name => write [.name name]) progress :=
  rfl

theorem take_name {name : String} {rest written : List Token} {unread : Option Delimiter}
    {limit : Nat} (free : isReserved name = false) :
    take .name ⟨.name name :: rest, written, unread, limit⟩ =
      .ok ((), ⟨rest, .name name :: written, unread, limit⟩) := by
  rw [take_name_eq, bind_apply (readName_apply free rfl)]
  rfl

theorem take_of_accept {sign : Sign} (done : Reader.accept sign before = .ok (true, after)) :
    Reader.take sign before = .ok ((), after) := by
  obtain ⟨comes, _, found, done⟩ := bind_ok done
  cases found
  split at done
  · obtain ⟨_, between, took, same⟩ := bind_ok done
    cases same
    exact took
  · cases done

theorem accept_missing {sign : Sign} (missing : sign.starts before.rest = false) :
    Reader.accept sign before = .ok (false, before) := by
  rw [Reader.accept, bind_apply (comes_apply sign before), missing]
  rfl

theorem KeepsAt.accept {sign : Sign} {next : Bool → Reader β} (tame : sign.isTame pubs = true)
    (yes : Keeps (Step pubs origin) (next true))
    (no : KeepsAt (Step pubs origin) before (next false)) :
    KeepsAt (Step pubs origin) before (Reader.accept sign >>= next) := by
  intro result after done step
  obtain ⟨found, between, one, two⟩ := bind_ok done
  cases found with
  | true => exact yes between result after two (Keeps.accept tame before true between one step)
  | false =>
    obtain ⟨_, same⟩ := accept_ok one
    rw [same rfl] at two
    exact no result after two step

/-! ## 5. Parts that are written elsewhere -/

section

variable {inner : α → Prop}

theorem Yields.capture (yields : ∀ here, Yields (Step pubs here) good reader) :
    Yields (Step pubs origin) (fun captured => good captured.1 ∧ Matched true captured.2)
      (capture reader) := by
  intro before captured after done step
  obtain ⟨outer, _, found, done⟩ := bind_ok done
  cases found
  obtain ⟨_, emptied, found, done⟩ := bind_ok done
  cases found
  obtain ⟨result, between, read, done⟩ := bind_ok done
  cases done
  obtain ⟨made, isGood⟩ := yields _ _ _ _ read (Step.refl step.closes_rest)
  obtain ⟨wrote, matched, written⟩ := made.wrote
  have same : between.written.reverse = wrote := by
    rw [written, List.append_nil, List.reverse_reverse]
  exact ⟨step.trans ⟨⟨made.closes, made.taken, made.limit⟩, ⟨[], .nil, rfl⟩⟩, isGood,
    same ▸ matched⟩

theorem Keeps.yields (keeps : Keeps invariant reader) : Yields invariant (fun _ => True) reader :=
  fun before result after done step => ⟨keeps before result after done step, trivial⟩

theorem Yields.written (keeps : ∀ here, Keeps (Step pubs here) reader) :
    Yields (Step pubs origin) (fun captured => Matched true captured.2)
      (Reader.capture reader) := by
  intro before captured after done step
  obtain ⟨made, _, matched⟩ :=
    Yields.capture (fun here => (keeps here).yields) before captured after done step
  exact ⟨made, matched⟩

theorem Keeps.silently (keeps : ∀ here, Keeps (Step pubs here) reader) :
    Keeps (Step pubs origin) (silently reader) :=
  .bind (Yields.written keeps).keeps fun _ => .pure _

/-- What was taken since the reader started may be written as it is. -/
theorem Keeps.copySince : Keeps (Step pubs origin) (copySince origin) := by
  intro before result after done step
  cases done
  obtain ⟨taken, matched, whole⟩ := step.taken
  refine ⟨⟨step.closes, ⟨taken, matched, whole⟩, step.limit⟩, ⟨taken, matched.weaken, ?_⟩⟩
  have length : origin.rest.length - before.rest.length = taken.length := by
    rw [whole, List.length_append, Nat.add_sub_cancel]
  show (origin.rest.take _).reverse ++ origin.written = _
  rw [length, whole, List.take_left]

/-- What was taken is the same, however it is written. -/
theorem Keeps.tookCopySince {here : Progress} :
    Keeps (Took pubs origin) (Reader.copySince here) := by
  intro before result after done took
  cases done
  exact ⟨took.closes, took.taken, took.limit⟩

theorem Keeps.attempt (keeps : Keeps invariant reader) : Keeps invariant (attempt reader) := by
  intro before result after done step
  unfold Reader.attempt at done
  split at done
  · rename_i value between read
    cases done
    exact keeps _ _ _ read step
  · cases done
    exact step

end

/-! ## 6. Repetitions and brackets -/

namespace Keeps

theorem repeatUpTo {again : Reader Bool} (keeps : Keeps invariant again) (bound : Nat) :
    Keeps invariant (repeatUpTo bound again) := by
  induction bound with
  | zero => exact pure _
  | succ bound ih => exact .bind keeps fun _ => .ite ih (pure _)

theorem repeatWhile {again : Reader Bool} (keeps : Keeps invariant again) :
    Keeps invariant (repeatWhile again) :=
  .bind get fun _ => repeatUpTo keeps _

theorem commaItems {stops item : Reader Bool} (keepsStops : Keeps (Step pubs origin) stops)
    (keeps : Keeps (Step pubs origin) item) : Keeps (Step pubs origin) (commaItems stops item) :=
  repeatWhile <| .bind keepsStops fun _ => .ite (pure _) <| .bind keeps fun _ => .ite (pure _) <|
    .bind keepsStops fun _ => .ite (pure _) <| .bind (take rfl) fun _ => pure _

theorem commaItemsInside {item : Reader Unit} (keeps : Keeps (Step pubs origin) item) :
    Keeps (Step pubs origin) (commaItemsInside item) :=
  commaItems ends (.bind keeps fun _ => pure _)

end Keeps

theorem repeatUpTo_ok {bound : Nat} {again : Reader Bool}
    (done : Reader.repeatUpTo (bound + 1) again before = .ok ((), after)) :
    again before = .ok (false, after) ∨
      ∃ between, again before = .ok (true, between) ∧
        Reader.repeatUpTo bound again between = .ok ((), after) := by
  obtain ⟨goesOn, between, one, two⟩ := bind_ok done
  cases goesOn with
  | true => exact .inr ⟨between, one, two⟩
  | false =>
    cases two
    exact .inl one

theorem repeatWhile_none {again : Reader Bool} (stops : again before = .ok (false, before)) :
    repeatWhile again before = .ok ((), before) := by
  rw [Reader.repeatWhile, bind_apply (get_apply before)]
  cases before.limit with
  | zero => rfl
  | succ limit =>
    rw [Reader.repeatUpTo, bind_apply stops]
    rfl

/-- No attribute for what is around comes next. -/
theorem innerAttributes_none {nested : Nested}
    (outer : ((Sign.mark "#").starts before.rest &&
      (Sign.mark "!").starts (afterFirst before.rest)) = false) :
    Grammar.innerAttributes nested before = .ok ((), before) := by
  refine repeatWhile_none ?_
  rw [bind_apply (comes_apply _ _)]
  refine (bind_apply rfl).trans ?_
  rw [outer]
  rfl

/-- A reader of many items, up to the end of their brackets. -/
def untilEnd (member : Reader Unit) : Reader Bool := do
  if ← ends then return false
  member
  return true

theorem Keeps.untilEnd {member : Reader Unit} (keeps : Keeps invariant member) :
    Keeps invariant (untilEnd member) :=
  .bind .ends fun _ => .ite (.pure _) (.bind keeps fun _ => .pure _)

theorem untilEnd_ok {member : Reader Unit} {again : Bool}
    (done : untilEnd member before = .ok (again, after)) :
    (again = false ∧ atEnd before.rest = true ∧ after = before) ∨
      (again = true ∧ atEnd before.rest = false ∧ member before = .ok ((), after)) := by
  obtain ⟨ended, _, looked, done⟩ := bind_ok done
  cases looked
  split at done
  · cases done
    exact .inl ⟨rfl, ‹_›, rfl⟩
  · obtain ⟨_, between, read, done⟩ := bind_ok done
    cases done
    exact .inr ⟨rfl, Bool.eq_false_iff.mpr ‹_›, read⟩

/-- Where a reader is behind an opening bracket. -/
def Progress.opened (progress : Progress) (delimiter : Delimiter) (inside : List Token) :
    Progress :=
  { progress with rest := inside, written := .opening delimiter :: progress.written }

/-- Where a reader is behind brackets, if it is here inside. -/
def Progress.closed (progress : Progress) (delimiter : Delimiter) : Progress :=
  { progress with
    rest := afterBrackets 0 progress.rest
    written := .closing delimiter :: progress.written
    unread := progress.unread.or (if atEnd progress.rest then none else some delimiter) }

theorem take_opening_ok {delimiter : Delimiter} {result : Unit}
    (done : take (.opening delimiter) before = .ok (result, after)) :
    ∃ inside, before.rest = .opening delimiter :: inside ∧
      after = before.opened delimiter inside := by
  obtain ⟨ahead, _, found, done⟩ := bind_ok done
  cases found
  cases next : before.rest with
  | nil =>
    rw [next] at done
    cases done
  | cons token inside =>
    rw [next] at done
    simp only at done
    split at done
    · rename_i starts
      cases done
      cases token with
      | opening found =>
        cases of_decide_eq_true starts
        exact ⟨inside, rfl, rfl⟩
      | name | mark | text | number | literal | closing | doc => cases starts
    · cases done

/-- A bracket that does not come next is not taken. -/
theorem KeepsAt.takeMissing {delimiter : Delimiter}
    (missing : ¬(Sign.opening delimiter).starts before.rest = true) :
    KeepsAt (Step pubs origin) before (take (.opening delimiter)) := by
  intro result after done
  obtain ⟨inside, next, _⟩ := take_opening_ok done
  rw [next] at missing
  exact absurd (decide_eq_true rfl) missing

theorem brackets_ok {delimiter : Delimiter} {result : α}
    (done : brackets delimiter reader before = .ok (result, after)) :
    ∃ inside between, before.rest = .opening delimiter :: inside ∧
      reader (before.opened delimiter inside) = .ok (result, between) ∧
      after = between.closed delimiter := by
  obtain ⟨_, opened, took, done⟩ := bind_ok done
  obtain ⟨inside, next, rfl⟩ := take_opening_ok took
  obtain ⟨value, between, read, done⟩ := bind_ok done
  cases done
  exact ⟨inside, between, next, read, rfl⟩

theorem brackets_apply {delimiter : Delimiter} {inside : List Token} {result : α}
    {between : Progress} (next : before.rest = .opening delimiter :: inside)
    (read : reader (before.opened delimiter inside) = .ok (result, between)) :
    brackets delimiter reader before = .ok (result, between.closed delimiter) := by
  have opened : take (.opening delimiter) before = .ok ((), before.opened delimiter inside) := by
    obtain ⟨_, written, unread, limit⟩ := before
    subst next
    cases delimiter <;> rfl
  rw [Reader.brackets, bind_apply opened, bind_apply read]
  rfl

theorem Step.opened {delimiter : Delimiter} {held rest : List Token}
    (closes : ClosesEach before.rest)
    (next : before.rest = .opening delimiter :: held ++ .closing delimiter :: rest) :
    ClosesEach (before.opened delimiter (held ++ .closing delimiter :: rest)).rest :=
  closes.of_suffix ⟨[.opening delimiter], next.symm⟩

/-- Behind brackets a reader goes on where they are closed. -/
theorem Step.closed {delimiter : Delimiter} {held rest : List Token} {between : Progress}
    (step : Step pubs origin before) (matched : Matched true held)
    (next : before.rest = .opening delimiter :: held ++ .closing delimiter :: rest)
    (inside : Step true (before.opened delimiter (held ++ .closing delimiter :: rest)) between) :
    Step pubs origin (between.closed delimiter) ∧ (between.closed delimiter).rest = rest := by
  obtain ⟨taken, matchedTaken, whole⟩ := inside.taken
  obtain ⟨wrote, matchedWrote, written⟩ := inside.wrote
  have behind : afterBrackets 0 between.rest = rest := by
    rw [← matchedTaken.afterBrackets_append, ← whole]
    exact matched.afterBrackets_closing rest
  refine ⟨step.trans ⟨⟨step.closes_rest, ⟨_, matched.enclose delimiter, ?_⟩, inside.limit⟩,
    ⟨_, matchedWrote.enclose delimiter, ?_⟩⟩, behind⟩
  · show before.rest = Code.enclose delimiter held ++ afterBrackets 0 between.rest
    rw [behind, next, Code.enclose, List.append_assoc]
    rfl
  · show Token.closing delimiter :: between.written = _
    rw [written]
    simp [Code.enclose, Progress.opened]

theorem Step.brackets (pubs : Bool) {delimiter : Delimiter} {result : α}
    (keeps : ∀ here, Keeps (Step true here) reader) (closes : ClosesEach before.rest)
    (done : brackets delimiter reader before = .ok (result, after)) :
    ∃ held, before.rest = .opening delimiter :: held ++ .closing delimiter :: after.rest ∧
      Matched true held ∧ Step pubs before after := by
  obtain ⟨inside, between, next, read, rfl⟩ := brackets_ok done
  obtain ⟨held, rest, rfl, matched⟩ := closes delimiter inside (next ▸ List.suffix_refl _)
  have made := keeps _ _ _ _ read (Step.refl (Step.opened closes next))
  obtain ⟨step, behind⟩ := (Step.refl closes).closed matched next made
  exact ⟨held, by rw [behind]; exact next, matched, step⟩

theorem Keeps.brackets {delimiter : Delimiter} (keeps : ∀ here, Keeps (Step true here) reader) :
    Keeps (Step pubs origin) (brackets delimiter reader) := by
  intro before result after done step
  obtain ⟨_, _, _, made⟩ := Step.brackets pubs keeps step.closes_rest done
  exact step.trans made

theorem Keeps.takeAnyBrackets : Keeps (Step pubs origin) takeAnyBrackets := by
  refine fromHere fun here before => ?_
  cases next : here.rest with
  | nil => exact missing _ _
  | cons token inside =>
    cases token with
    | opening delimiter =>
      intro result after done step
      obtain ⟨held, rest, rfl, matched⟩ :=
        step.closes delimiter inside (next ▸ List.suffix_refl _)
      have whole : here.rest = Code.enclose delimiter held ++ afterBrackets 0
          (held ++ .closing delimiter :: rest) := by
        rw [matched.afterBrackets_closing, next, Code.enclose, List.append_assoc]
        rfl
      have behind : Step pubs here
          { before with rest := afterBrackets 0 (held ++ .closing delimiter :: rest) } :=
        ⟨⟨step.closes, ⟨_, matched.enclose delimiter, whole⟩, step.limit⟩, step.wrote⟩
      have copied : Keeps (Step pubs here) (Reader.copySince here) := .copySince
      exact copied.bind (fun _ => .pure delimiter) _ result after done behind
    | name | mark | text | number | literal | closing | doc => exact missing _ _

/-! ## 7. Lists in angle brackets -/

/-- The tokens of every item have matching brackets. -/
def MatchedEach (items : List Listed) : Prop :=
  ∀ item ∈ items, Matched true item.tokens

theorem matched_joinListed {items : List Listed} (each : MatchedEach items) :
    Matched true (joinListed items) := by
  fun_induction joinListed items with
  | case1 => exact .nil
  | case2 last =>
    refine .append (each last List.mem_cons_self) ?_
    split
    · exact .single rfl
    · exact .nil
  | case3 item rest _ ih =>
    exact .append (each item List.mem_cons_self)
      (.cons rfl (ih fun other member => each other (List.mem_cons_of_mem _ member)))

theorem Yields.listedUpTo {item : Reader Bool} {comma : Reader Unit}
    (keeps : ∀ here, Keeps (Step pubs here) item)
    (keepsComma : ∀ here, Keeps (Step pubs here) comma)
    (bound : Nat) : Yields (Step pubs origin) MatchedEach (listedUpTo item comma bound) := by
  have none : MatchedEach [] := fun _ member => absurd member List.not_mem_nil
  induction bound with
  | zero => exact .pure none
  | succ bound ih =>
    refine .bind (.comes _) fun _ => .ite (.pure none) ?_
    refine .bindGood (Yields.written keeps) fun captured matched => ?_
    refine .bind (.comes _) fun _ => .ite (.pure ?_) ?_
    · exact List.forall_mem_singleton.mpr matched
    · refine .bind (.silently keepsComma) fun _ => .bindGood ih fun others each => .pure ?_
      exact List.forall_mem_cons.mpr ⟨matched, each⟩

theorem Keeps.angleItems {item : Reader Bool} {comma : Reader Unit}
    (keeps : ∀ here, Keeps (Step pubs here) item)
    (keepsComma : ∀ here, Keeps (Step pubs here) comma) :
    Keeps (Step pubs origin) (angleItems item comma) := by
  refine .bind (.take rfl) fun _ => .bind .get fun here => ?_
  refine .bindGood (.listedUpTo keeps keepsComma _) fun items each => ?_
  have sorted : MatchedEach (items.filter Listed.isLifetime ++
      items.filter fun item => !item.isLifetime) := by
    intro item member
    rw [List.mem_append, List.mem_filter, List.mem_filter] at member
    exact each item (member.elim And.left And.left)
  rw [List.partition_eq_filter_filter]
  exact .bind (.write (matched_joinListed sorted)) fun _ => .bind (.take rfl) fun _ => .pure _

end ContractBinder.Code
