import ContractBinder.Proofs.Code.Reading.Steps

/-!
# Readers that take certain tokens

`Takes reader tokens wrote result behind` says what a reader does where certain tokens come next:
it takes exactly them, it writes `wrote` for them, and it has this result, whatever was read before
and whatever follows, as long as `behind` holds of it. A reader that `Accepts` tokens writes them
as they are.

Results:

1. `Takes.bind`: readers one after the other take their tokens one after the other.
2. `Repeats.accepts`: a step that is repeated takes its tokens again and again.
3. `Accepts.brackets`, `Accepts.commaSeparated` and `Accepts.commaTerminated`: what is inside
   brackets, and items with commas between them or behind them.
-/

namespace ContractBinder.Code

open Reader PathReading

/-- A token as code has it that was read and written again: no two bars are joint. -/
def Token.apart (token : Token) : Token :=
  if token = .mark '|' true then .mark '|' false else token

/-- Tokens as code has them that was read and written again. -/
def apart (tokens : List Token) : List Token :=
  tokens.map Token.apart

variable {α β : Type} {reader : Reader α} {next : α → Reader β} {value : α} {result : β}
  {front back tokens wrote wroteFirst wroteLater rest : List Token}
  {behind middle : List Token → Prop} {progress : Progress}

@[simp] theorem apart_nil : apart [] = [] :=
  rfl

@[simp] theorem apart_cons (token : Token) (tokens : List Token) :
    apart (token :: tokens) = token.apart :: apart tokens :=
  rfl

@[simp] theorem apart_append (front back : List Token) :
    apart (front ++ back) = apart front ++ apart back :=
  List.map_append

@[simp] theorem Token.apart_name (spelling : String) :
    (Token.name spelling).apart = .name spelling :=
  rfl

@[simp] theorem Token.apart_opening (delimiter : Delimiter) :
    (Token.opening delimiter).apart = .opening delimiter :=
  rfl

@[simp] theorem Token.apart_closing (delimiter : Delimiter) :
    (Token.closing delimiter).apart = .closing delimiter :=
  rfl

/-! ## 1. Looking ahead at a place -/

@[simp] theorem comes_bind {sign : Sign} {next : Bool → Reader β} :
    (comes sign >>= next) progress = next (sign.starts progress.rest) progress :=
  rfl

@[simp] theorem comesAny_bind {signs : List Sign} {next : Bool → Reader β} :
    (comesAny signs >>= next) progress = next (signs.any (·.starts progress.rest)) progress :=
  rfl

@[simp] theorem comesSecond_bind {sign : Sign} {next : Bool → Reader β} :
    (comesSecond sign >>= next) progress =
      next (sign.starts (afterFirst progress.rest)) progress :=
  rfl

@[simp] theorem comesThird_bind {sign : Sign} {next : Bool → Reader β} :
    (comesThird sign >>= next) progress =
      next (sign.starts (afterFirst (afterFirst progress.rest))) progress :=
  rfl

@[simp] theorem upcoming_bind {next : List Token → Reader β} :
    (upcoming >>= next) progress = next progress.rest progress :=
  rfl

@[simp] theorem ends_bind {next : Bool → Reader β} :
    (ends >>= next) progress = next (atEnd progress.rest) progress :=
  rfl

@[simp] theorem get_bind {next : Progress → Reader β} :
    ((get : Reader Progress) >>= next) progress = next progress progress :=
  rfl

theorem accept_bind_missing {sign : Sign} {next : Bool → Reader β}
    (missing : sign.starts progress.rest = false) :
    (accept sign >>= next) progress = next false progress :=
  bind_apply (accept_missing missing)

theorem ne_of_isReserved {name word : String} (free : isReserved name = false)
    (reserved : isReserved word = true) : name ≠ word := by
  rintro rfl
  cases free.symm.trans reserved

theorem starts_word_name {name word : String} (other : name ≠ word) :
    (Sign.word word).starts (.name name :: rest) = false :=
  decide_eq_false other

theorem starts_mark_name {name spelling : String} (nonempty : spelling.toList ≠ []) :
    (Sign.mark spelling).starts (.name name :: rest) = false := by
  show startsOperatorOf spelling.toList _ = false
  cases characters : spelling.toList with
  | nil => exact absurd characters nonempty
  | cons first others => cases others <;> rfl

theorem starts_name {name : String} (free : isReserved name = false) :
    Sign.name.starts (.name name :: rest) = true := by
  show (!isReserved name) = true
  rw [free]
  rfl

theorem accept_name {name : String} {written : List Token} {unread : Option Delimiter} {limit : Nat}
    (free : isReserved name = false) :
    accept .name ⟨.name name :: rest, written, unread, limit⟩ =
      .ok (true, ⟨rest, .name name :: written, unread, limit⟩) := by
  rw [accept, comes_bind, starts_name free]
  exact bind_apply (take_name free)

/-! ## 2. Taking tokens -/

/-- Where the tokens come next and `behind` holds of what follows, the reader takes them, writes
`wrote`, and has this result. -/
def Takes (reader : Reader α) (tokens wrote : List Token) (value : α)
    (behind : List Token → Prop) : Prop :=
  ∀ rest written unread limit, behind rest → (tokens ++ rest).length < limit →
    reader ⟨tokens ++ rest, written, unread, limit⟩ =
      .ok (value, ⟨rest, wrote.reverse ++ written, unread, limit⟩)

/-- Brackets are closed here. -/
def Closing (rest : List Token) : Prop :=
  ∃ delimiter back, rest = .closing delimiter :: back

/-- The reader takes the tokens and writes them as they are. -/
abbrev Accepts (reader : Reader α) (tokens : List Token) (value : α)
    (behind : List Token → Prop) : Prop :=
  Takes reader tokens (apart tokens) value behind

namespace Takes

theorem bind (first : Takes reader front wroteFirst value middle)
    (later : Takes (next value) back wroteLater result behind)
    (meets : ∀ rest, behind rest → middle (back ++ rest)) :
    Takes (reader >>= next) (front ++ back) (wroteFirst ++ wroteLater) result behind := by
  intro rest written unread limit follows enough
  have shorter : (back ++ rest).length < limit := by
    simp only [List.length_append] at enough ⊢
    omega
  rw [List.append_assoc] at enough ⊢
  rw [bind_apply (first _ _ _ _ (meets rest follows) enough),
    later _ _ _ _ follows shorter, List.reverse_append, List.append_assoc]

/-- A reader that does the same where the tokens come next takes them, too. -/
theorem of_eq {other : Reader α} (takes : Takes other tokens wrote value behind)
    (same : ∀ rest written unread limit, behind rest →
      reader ⟨tokens ++ rest, written, unread, limit⟩ =
        other ⟨tokens ++ rest, written, unread, limit⟩) :
    Takes reader tokens wrote value behind := by
  intro rest written unread limit follows enough
  rw [same _ _ _ _ follows]
  exact takes _ _ _ _ follows enough

theorem pure : Takes (Pure.pure value : Reader α) [] [] value behind :=
  fun _ _ _ _ _ _ => rfl

theorem map {f : α → β} (takes : Takes reader tokens wrote value behind) :
    Takes (reader >>= fun value => Pure.pure (f value)) tokens wrote (f value) behind := by
  intro rest written unread limit follows enough
  rw [bind_apply (takes _ _ _ _ follows enough)]
  rfl

theorem discard (takes : Takes reader tokens wrote value behind) :
    Takes (discard reader) tokens wrote () behind :=
  takes.map (f := fun _ => ())

/-- What was captured is given and not written. -/
theorem capture (takes : Takes reader tokens wrote value behind) :
    Takes (Reader.capture reader) tokens [] (value, wrote) behind := by
  intro rest written unread limit follows enough
  have inner := takes rest [] unread limit follows enough
  rw [List.append_nil] at inner
  have read : (modify fun progress : Progress => { progress with written := [] } : Reader Unit)
      ⟨tokens ++ rest, written, unread, limit⟩ = .ok ((), ⟨tokens ++ rest, [], unread, limit⟩) :=
    rfl
  rw [Reader.capture, get_bind, bind_apply read, bind_apply inner, get_bind]
  simp only [List.reverse_reverse]
  rfl

/-- A reader that takes all tokens. -/
theorem readAll (takes : Takes reader tokens wrote value fun rest => rest = []) :
    Reader.readAll reader tokens = .ok (value, wrote) := by
  have read := takes [] [] none (tokens.length + 1) rfl (by simp)
  rw [List.append_nil, List.append_nil] at read
  have run : StateT.run reader (start tokens) =
      .ok (value, ⟨[], wrote.reverse, none, tokens.length + 1⟩) := read
  rw [Reader.readAll, run]
  exact congrArg (fun found => Except.ok (value, found)) (List.reverse_reverse wrote)

end Takes

namespace Accepts

theorem bind (first : Accepts reader front value middle)
    (later : Accepts (next value) back result behind)
    (meets : ∀ rest, behind rest → middle (back ++ rest)) :
    Accepts (reader >>= next) (front ++ back) result behind := by
  unfold Accepts
  rw [apart_append]
  exact Takes.bind first later meets

/-- Tokens that are taken whatever follows them. -/
theorem step (value : α) (takes : ∀ rest written unread limit,
      reader ⟨front ++ rest, written, unread, limit⟩ =
        .ok (value, ⟨rest, (apart front).reverse ++ written, unread, limit⟩))
    (later : Accepts (next value) back result behind) :
    Accepts (reader >>= next) (front ++ back) result behind := by
  have first : Accepts reader front value fun _ => True :=
    fun rest written unread limit _ _ => takes rest written unread limit
  exact first.bind later fun _ _ => trivial

/-- A reader that stays where it is. -/
theorem idle (value : α) (stays : ∀ rest written unread limit, behind rest →
      reader ⟨tokens ++ rest, written, unread, limit⟩ =
        .ok (value, ⟨tokens ++ rest, written, unread, limit⟩))
    (later : Accepts (next value) tokens result behind) :
    Accepts (reader >>= next) tokens result behind :=
  later.of_eq fun _ _ _ _ follows => bind_apply (stays _ _ _ _ follows)

/-- What comes next is known. -/
theorem look {sign : Sign} {next : Bool → Reader β} {found : Bool}
    (same : ∀ rest, behind rest → sign.starts (tokens ++ rest) = found)
    (later : Accepts (next found) tokens result behind) :
    Accepts (comes sign >>= next) tokens result behind :=
  .idle _ (fun rest _ _ _ follows => by rw [comes_apply, same rest follows]) later

/-- A part that does not come is left out. -/
theorem skip {sign : Sign} {next : Bool → Reader β}
    (missing : ∀ rest, behind rest → sign.starts (tokens ++ rest) = false)
    (later : Accepts (next false) tokens result behind) :
    Accepts (accept sign >>= next) tokens result behind :=
  .idle _ (fun _ _ _ _ follows => accept_missing (missing _ follows)) later

theorem skipDiscarded {sign : Sign} {next : Unit → Reader β}
    (missing : ∀ rest, behind rest → sign.starts (tokens ++ rest) = false)
    (later : Accepts (next ()) tokens result behind) :
    Accepts (Functor.discard (accept sign) >>= next) tokens result behind :=
  .idle _ (fun _ _ _ _ follows => discard_apply (accept_missing (missing _ follows))) later

/-- Brackets are read in the same way whatever follows them. -/
theorem brackets_eq {delimiter : Delimiter} {unread : Option Delimiter} {limit : Nat}
    {written : List Token} (inside : Accepts reader tokens value Closing)
    (enough : (enclose delimiter tokens ++ rest).length < limit) :
    Reader.brackets delimiter reader ⟨enclose delimiter tokens ++ rest, written, unread, limit⟩ =
      .ok (value, ⟨rest, (apart (enclose delimiter tokens)).reverse ++ written, unread,
        limit⟩) := by
  have held : enclose delimiter tokens ++ rest =
      .opening delimiter :: (tokens ++ .closing delimiter :: rest) := by
    simp [enclose]
  have shorter : (tokens ++ .closing delimiter :: rest).length < limit := by
    rw [held, List.length_cons] at enough
    omega
  rw [held, brackets_apply rfl (inside _ _ _ _ ⟨delimiter, rest, rfl⟩ shorter)]
  simp [Progress.closed, afterBrackets, atEnd, enclose]

theorem brackets {delimiter : Delimiter} (inside : Accepts reader tokens value Closing) :
    Accepts (brackets delimiter reader) (enclose delimiter tokens) value behind :=
  fun _ _ _ _ _ enough => brackets_eq inside enough

end Accepts

/-- Brackets are taken with all that they hold. -/
theorem takeAnyBrackets_eq {delimiter : Delimiter} {unread : Option Delimiter} {limit : Nat}
    {written : List Token} (matched : Matched true tokens) :
    takeAnyBrackets ⟨enclose delimiter tokens ++ rest, written, unread, limit⟩ =
      .ok (delimiter, ⟨rest, (enclose delimiter tokens).reverse ++ written, unread, limit⟩) := by
  have held : enclose delimiter tokens ++ rest =
      .opening delimiter :: (tokens ++ .closing delimiter :: rest) := by
    simp [enclose]
  have behind : afterBrackets 0 (tokens ++ .closing delimiter :: rest) = rest :=
    matched.afterBrackets_closing rest
  have taken : (enclose delimiter tokens ++ rest).take
      ((enclose delimiter tokens ++ rest).length - rest.length) = enclose delimiter tokens := by
    rw [List.length_append, Nat.add_sub_cancel, List.take_left]
  rw [takeAnyBrackets, get_bind]
  simp only [held]
  rw [behind, ← held]
  show Except.ok (delimiter, (⟨rest, ((enclose delimiter tokens ++ rest).take
    ((enclose delimiter tokens ++ rest).length - rest.length)).reverse ++ written, unread,
      limit⟩ : Progress)) = _
  rw [taken]

/-! ## 3. Repetition -/

/-- Where the tokens come next, a step is repeated until all of them are taken. -/
def Repeats (step : Reader Bool) (tokens : List Token) (behind : List Token → Prop) : Prop :=
  ∀ bound rest written unread limit, behind rest → (tokens ++ rest).length < limit →
    (tokens ++ rest).length < bound →
    repeatUpTo bound step ⟨tokens ++ rest, written, unread, limit⟩ =
      .ok ((), ⟨rest, (apart tokens).reverse ++ written, unread, limit⟩)

namespace Repeats

variable {step : Reader Bool}

theorem last (stops : Accepts step tokens false behind) : Repeats step tokens behind := by
  intro bound rest written unread limit follows enough more
  cases bound with
  | zero => omega
  | succ bound =>
    rw [repeatUpTo, bind_apply (stops _ _ _ _ follows enough)]
    rfl

theorem cons (again : Accepts step front true middle) (nonempty : front ≠ [])
    (later : Repeats step back behind) (meets : ∀ rest, behind rest → middle (back ++ rest)) :
    Repeats step (front ++ back) behind := by
  intro bound rest written unread limit follows enough more
  have shorter : (back ++ rest).length < (front ++ back ++ rest).length := by
    have some := List.length_pos_iff.mpr nonempty
    simp only [List.length_append]
    omega
  cases bound with
  | zero => omega
  | succ bound =>
    have rest := later bound rest ((apart front).reverse ++ written) unread limit follows
      (shorter.trans enough) (by omega)
    rw [List.append_assoc] at enough ⊢
    rw [repeatUpTo, bind_apply (again _ _ _ _ (meets _ follows) enough)]
    simp only [↓reduceIte, rest, apart_append, List.reverse_append, List.append_assoc]

/-- Parts that are taken one by one, behind each of which the next one or the end comes. -/
theorem each {parts : List (List Token)} (parted : ∀ part ∈ parts,
      part ≠ [] ∧ Accepts step part true fun _ => True)
    (later : Repeats step back behind) : Repeats step (parts.flatten ++ back) behind := by
  induction parts with
  | nil => exact later
  | cons part parts ih =>
    obtain ⟨nonempty, accepts⟩ := parted part List.mem_cons_self
    have later := ih fun other listed => parted other (List.mem_cons_of_mem _ listed)
    rw [List.flatten_cons, List.append_assoc]
    exact .cons accepts nonempty later fun _ _ => trivial

theorem accepts (repeats : Repeats step tokens behind) :
    Accepts (repeatWhile step) tokens () behind := by
  intro rest written unread limit follows enough
  rw [repeatWhile, get_bind]
  exact repeats _ _ _ _ _ follows enough enough

end Repeats

/-! ## 4. Items with commas -/

section

variable {items : List (List Token)} {item stops : Reader Bool} {sees : List Token → Bool}
  (looks : ∀ progress, stops progress = .ok (sees progress.rest, progress))
  (each : ∀ tokens ∈ items, Accepts item tokens true middle)
  (starts : ∀ tokens ∈ items, ∀ rest, sees (tokens ++ rest) = false)
  (comma : ∀ rest, middle (mark ',' :: rest)) (goesOn : ∀ rest, sees (mark ',' :: rest) = false)
  (ended : ∀ rest, behind rest → sees rest = true)

theorem length_le_commaSeparated (listed : tokens ∈ items) :
    tokens.length ≤ (commaSeparated items).length := by
  induction items with
  | nil => cases listed
  | cons first others ih =>
    cases others with
    | nil =>
      cases List.mem_singleton.mp listed
      rw [commaSeparated_singleton]
    | cons second others =>
      rw [commaSeparated_cons_cons, List.length_append, List.length_cons]
      rcases List.mem_cons.mp listed with rfl | listed
      · exact Nat.le_add_right _ _
      · have := ih listed
        omega

/-- One item of a list, up to the comma behind it. -/
def commaStep (stops item : Reader Bool) : Reader Bool := do
  if ← stops then return false
  if !(← item) then return false
  if ← stops then return false
  take (.mark ",")
  return true

theorem commaItems_eq (stops item : Reader Bool) :
    commaItems stops item = repeatWhile (commaStep stops item) :=
  rfl

include looks

theorem commaStep_end (ended : ∀ rest, behind rest → sees rest = true) :
    Accepts (commaStep stops item) [] false behind := by
  intro rest written unread limit follows _
  rw [commaStep, bind_apply (looks _)]
  simp only [List.nil_append, ended rest follows, ↓reduceIte]
  rfl

theorem commaStep_last (taken : Accepts item tokens true middle)
    (starts : ∀ rest, sees (tokens ++ rest) = false)
    (ended : ∀ rest, behind rest → sees rest = true ∧ middle rest) :
    Accepts (commaStep stops item) tokens false behind := by
  intro rest written unread limit follows enough
  obtain ⟨ends, meets⟩ := ended rest follows
  rw [commaStep, bind_apply (looks _)]
  simp only [starts, Bool.false_eq_true, ↓reduceIte]
  rw [bind_apply (taken _ _ _ _ meets enough)]
  simp only [Bool.not_true, Bool.false_eq_true, ↓reduceIte]
  rw [bind_apply (looks _)]
  simp only [ends, ↓reduceIte]
  rfl

theorem commaStep_comma (taken : Accepts item tokens true middle)
    (starts : ∀ rest, sees (tokens ++ rest) = false)
    (comma : ∀ rest, middle (mark ',' :: rest))
    (goesOn : ∀ rest, sees (mark ',' :: rest) = false) :
    Accepts (commaStep stops item) (tokens ++ [mark ',']) true behind := by
  intro rest written unread limit _ enough
  rw [List.append_assoc, List.singleton_append] at enough ⊢
  rw [commaStep, bind_apply (looks _)]
  simp only [starts, Bool.false_eq_true, ↓reduceIte]
  rw [bind_apply (taken _ _ _ _ (comma rest) enough)]
  simp only [Bool.not_true, Bool.false_eq_true, ↓reduceIte]
  rw [bind_apply (looks _)]
  simp only [goesOn, Bool.false_eq_true, ↓reduceIte, apart_append, List.reverse_append]
  rfl

include each starts comma goesOn

/-- Items with commas between them. -/
theorem Accepts.commaSeparated (ended : ∀ rest, behind rest → sees rest = true ∧ middle rest) :
    Accepts (commaItems stops item) (Code.commaSeparated items) () behind := by
  rw [commaItems_eq]
  refine Repeats.accepts ?_
  induction items with
  | nil => exact .last (commaStep_end looks fun rest follows => (ended rest follows).1)
  | cons first others ih =>
    have taken := each first List.mem_cons_self
    have begins := starts first List.mem_cons_self
    cases others with
    | nil =>
      rw [commaSeparated_singleton]
      exact .last (commaStep_last looks taken begins ended)
    | cons second others =>
      have split : Code.commaSeparated (first :: second :: others) =
          (first ++ [mark ',']) ++ Code.commaSeparated (second :: others) := by
        rw [commaSeparated_cons_cons, List.append_assoc]
        rfl
      have step : Accepts (commaStep stops item) (first ++ [mark ',']) true fun _ => True :=
        commaStep_comma looks taken begins comma goesOn
      rw [split]
      exact .cons step (by simp)
        (ih (fun tokens listed => each tokens (List.mem_cons_of_mem _ listed))
          fun tokens listed => starts tokens (List.mem_cons_of_mem _ listed)) fun _ _ => trivial

/-- Items with a comma behind each of them. -/
theorem Accepts.commaTerminated (ended : ∀ rest, behind rest → sees rest = true) :
    Accepts (commaItems stops item) (Code.commaTerminated items) () behind := by
  rw [commaItems_eq]
  refine Repeats.accepts ?_
  have parts : Code.commaTerminated items = (items.map (· ++ [mark ','])).flatten ++ [] := by
    rw [List.append_nil, Code.commaTerminated, List.flatMap_def]
  rw [parts]
  refine .each ?_ (.last (commaStep_end looks ended))
  refine List.forall_mem_map.mpr fun tokens listed => ⟨by simp, ?_⟩
  exact commaStep_comma looks (each tokens listed) (starts tokens listed) comma goesOn

end

end ContractBinder.Code
