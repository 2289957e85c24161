import ContractBinder.Code.Grammar.Expressions
import ContractBinder.Proofs.Code.Reading.Types

/-!
# Steps of the readers of patterns and expressions

Expressions hold statements, and with them items, in curly brackets only. So nothing is made public
outside brackets.
-/

namespace ContractBinder.Code.Grammar

open Reader PathReading

variable {nested : Nested} {pubs : Bool} {origin before : Progress}

/-! ## 1. Members -/

theorem upcomingNumber_apply (pubs : Bool) (before : Progress) :
    ∃ found, upcomingNumber before = .ok (found, before) ∧ (found.isSome = true →
      ∃ token, before.rest = [token] ++ before.rest.drop 1 ∧ token.isTame pubs = true) := by
  obtain ⟨tokens, written, unread, limit⟩ := before
  cases tokens with
  | nil => exact ⟨none, rfl, nofun⟩
  | cons token rest =>
    cases token with
    | number value => exact ⟨_, rfl, fun _ => ⟨_, rfl, rfl⟩⟩
    | literal spelling => exact ⟨_, rfl, fun _ => ⟨_, rfl, rfl⟩⟩
    | name | mark | text | opening | closing | doc => exact ⟨none, rfl, nofun⟩

theorem keeps_writePosition (spelling : List Char) :
    Keeps (Step pubs origin) (writePosition spelling) := by
  unfold writePosition
  split
  · exact .fails _
  · exact .ite (.fails _) <| .ite (.forbid _) <| .write (.single rfl)

theorem keeps_writePositions (positions : List (List Char)) :
    Keeps (Step pubs origin) (writePositions positions) := by
  fun_induction writePositions positions with
  | case1 => exact .pure _
  | case2 last => exact keeps_writePosition last
  | case3 position rest _ ih =>
    exact .bind (keeps_writePosition position) fun _ => .bind (.write (.single rfl)) fun _ => ih

theorem keeps_acceptPositions : Keeps (Step pubs origin) acceptPositions := by
  intro before
  obtain ⟨found, looks, number⟩ := upcomingNumber_apply pubs before
  refine .look looks ?_
  cases found with
  | none => exact Keeps.pure _ _
  | some spelling =>
    obtain ⟨token, next, tame⟩ := number rfl
    refine .ite (fun _ => Keeps.pure _ _) fun _ => .look rfl <|
      .bind (.goOn (.single tame) next) fun _ => ?_
    split
    · exact .bind (keeps_writePositions _) fun _ => .bind (.write (.single rfl)) fun _ => .pure _
    · exact .bind (keeps_writePositions _) fun _ => .pure _

theorem keeps_member : Keeps (Step pubs origin) member := by
  intro before
  refine .accept rfl (.pure _) ?_
  obtain ⟨found, looks, number⟩ := upcomingNumber_apply pubs before
  refine .look looks ?_
  cases found with
  | none => exact Keeps.missing _ _
  | some spelling =>
    obtain ⟨token, next, tame⟩ := number rfl
    exact .ite (fun _ => Keeps.missing _ _) fun _ => .look rfl <|
      .bind (.goOn (.single tame) next) fun _ => .bind (keeps_writePosition _) fun _ => .pure _

/-! ## 2. Patterns -/

theorem keeps_rangeDots (threeDots : Bool) : Keeps (Step pubs origin) (rangeDots threeDots) :=
  .bind (.accept rfl) fun _ => .ite (.pure _) <| .bind (.comes _) fun _ => .ite
    (.ite
      (.bind (.silently fun _ => .take rfl) fun _ =>
        .bind (.write (matched_operatorTokens _)) fun _ => .pure _)
      (.missing _))
    (.bind (.takeAny rfl) fun _ => .pure _)

section

variable (inner : NestedKeeps nested)

include inner

theorem keeps_constantBlock : Keeps (Step pubs origin) (constantBlock nested) :=
  .bind (.take rfl) fun _ => keeps_attributedBlock inner

theorem keeps_rangeEnd : Keeps (Step pubs origin) (rangeEnd nested) := by
  refine .bind (.comesAny _) fun _ => .bind (.comes _) fun _ => .bind (.comes _) fun _ =>
    .bind .ends fun _ => .ite (.pure _) <| .bind (.accept rfl) fun _ => .ite (.pure _) <|
    .bind (.comesAny _) fun _ => .ite ?_ <| .bind (.comes _) fun _ => .ite
      (.bind (keeps_constantBlock inner) fun _ => .pure _) (.missingAny _)
  refine .bindGood (yields_valuePath inner) fun found each => ?_
  cases found with
  | none => exact .pure _
  | some path => exact .bind (.write (each path rfl).tokens) fun _ => .pure _

theorem keeps_rangeFromDots (started : Bool) :
    Keeps (Step pubs origin) (rangeFromDots nested started) :=
  .bind (keeps_rangeDots started) fun _ => .bind (keeps_rangeEnd inner) fun _ =>
    .ite (.missing _) <| .ite (.pure _) (.pure _)

theorem keeps_alternatives : Keeps (Step pubs origin) (alternatives nested) := by
  unfold alternatives
  extract_lets separates
  have looks {here : Progress} : Keeps (Step pubs here) separates := .looks fun _ => rfl
  have more : Keeps (Step pubs origin) (do
      repeatWhile do
        if ← separates then
          take (.mark "|")
          discard (nested .pattern)
          return true
        else return false
      return Form.plain) :=
    .bind (.repeatWhile <| .bind looks fun _ => .ite (.bind (.take rfl) fun _ =>
      .bind inner.pattern.discard fun _ => .pure _) (.pure _)) fun _ => .pure _
  exact .bind (.accept rfl) fun _ => .bind inner.pattern fun _ => .bind looks fun _ =>
    .ite more (.pure _)

theorem keeps_fieldPattern : Keeps (Step pubs origin) (fieldPattern nested) := by
  refine .bind (keeps_outerAttributes inner).discard fun _ => .bind (.accept rfl) fun _ =>
    .ite (.pure _) <| .fromHere fun here => .bind (.accept rfl) fun boxed =>
    .bind (.accept rfl) fun _ => .bind (.accept rfl) fun _ => ?_
  have valued (condition : Bool) : Keeps (Step pubs here) (do
      if condition then
        take (.mark ":")
        discard (alternatives nested)
      else if boxed then copySince here
      return true) :=
    .ite (.bind (.take rfl) fun _ => .bind (keeps_alternatives inner).discard fun _ => .pure _) <|
      .optional .copySince fun _ => .pure _
  exact .either (.bind (.take rfl) fun _ => .pure _) keeps_member fun _ => .bind (.comes _) fun _ =>
    valued _

/-- A path that names a value is written, and what may be a macro's argument comes next. -/
theorem keeps_writtenPath {next : Bool → Reader Form}
    (later : ∀ calls, Keeps (Step pubs origin) (next calls)) :
    Keeps (Step pubs origin) (do
      let found ← valuePath nested
      write (found.map Path.tokens |>.getD [])
      let calls ← (found.map comesMacro).getD (pure false)
      next calls) := by
  refine .bindGood (yields_valuePath inner) fun found each => ?_
  cases found with
  | none => exact .bind (.write .nil) fun _ => .bind (.pure false) later
  | some path =>
    exact .bind (.write (each path rfl).tokens) fun _ => .bind (keeps_comesMacro path) later

theorem keeps_pathPattern : Keeps (Step pubs origin) (pathPattern nested) := by
  refine keeps_writtenPath inner fun _ => .ite
    (.bind keeps_macroArgument.discard fun _ => .pure _) <| .bind (.comes _) fun _ => .ite ?_ <|
    .bind (.comes _) fun _ => .ite ?_ <| .bind (.comes _) fun _ =>
    .ite (keeps_rangeFromDots inner true) (.pure _)
  · exact .bind (.brackets fun _ => .commaItems .ends (keeps_fieldPattern inner)) fun _ => .pure _
  · exact .bind (.brackets fun _ => .commaItemsInside (keeps_alternatives inner).discard)
      fun _ => .pure _

theorem keeps_namePattern : Keeps (Step pubs origin) (namePattern nested) :=
  have bound : Keeps (Step pubs origin)
      (do if ← accept (.mark "@") then discard (nested .pattern)) :=
    .bind (.accept rfl) fun _ => .ite inner.pattern.discard (.pure _)
  .bind (.discard (.accept rfl)) fun _ => .bind (.discard (.accept rfl)) fun _ =>
    .bind (.accept rfl) fun _ => .optional (.take rfl) fun _ => bound

theorem keeps_elementPattern : Keeps (Step pubs origin) (elementPattern nested) :=
  .bind (keeps_alternatives inner) fun _ => .ite (.forbid _) (.pure _)

theorem keeps_pattern : Keeps (Step pubs origin) (pattern nested) := by
  have bracketed (delimiter : Delimiter) {item : Reader Unit}
      (keeps : ∀ here, Keeps (Step true here) item) {here : Progress} : Keeps (Step pubs here) (do
        brackets delimiter (commaItemsInside item)
        return Form.plain) :=
    .bind (.brackets fun _ => .commaItemsInside (keeps _)) fun _ => .pure _
  refine .fromHere fun here => .bind (.comes _) fun _ => .bind (.looks fun _ => rfl) fun _ =>
    .bind (.comes _) fun _ => .bind (.comesSecond _) fun _ => .bind (.comesAny _) fun _ => ?_
  refine .ite (keeps_pathPattern inner) <| .bind (.accept rfl) fun _ => .ite (.pure _) <|
    .bind (.accept rfl) fun _ => .ite ?_ <| .bind (.comesAny _) fun _ => .ite ?_ <|
    .bind (.comesAny _) fun _ => .ite ?_ <| .bind (.accept rfl) fun _ => .ite ?_ <|
    .bind (.comes _) fun _ => .ite ?_ <| .bind (.comes _) fun _ => .ite ?_ <|
    .bind (.comes _) fun _ => .bind (.comes _) fun _ =>
    .ite (keeps_rangeFromDots inner false) (.missingAny _)
  · exact .bind inner.pattern.discard fun _ => .bind .copySince fun _ => .pure _
  · exact .bind (keeps_rangeEnd inner).discard fun _ => .bind (.comes _) fun _ =>
      .ite (keeps_rangeFromDots inner true) (.pure _)
  · exact .bind (keeps_namePattern inner) fun _ => .pure _
  · exact .bind (.discard (.accept rfl)) fun _ => .bind inner.pattern.discard fun _ => .pure _
  · exact bracketed _ fun _ => (keeps_alternatives inner).discard
  · exact bracketed _ fun _ => keeps_elementPattern inner

/-! ## 3. Operators -/

omit inner in
theorem keeps_checkConversion : Keeps (Step pubs origin) checkConversion := by
  refine .bind (.comes _) fun _ => .bind (.comes _) fun _ => .ite ?_ <| .bind (.comes _) fun _ =>
    .ite (.forbid _) <| .bind (.comes _) fun _ => .ite (.forbid _) <| .bind (.comes _) fun _ =>
    .ite (.forbid _) (.pure _)
  exact .bind (.comesSecond _) fun _ => .bind (.comesThird _) fun _ => .bind (.comesThird _)
    fun _ => .bind (.comesSecond _) fun _ => .ite (.forbid _) <| .ite (.forbid _) (.forbid _)

theorem keeps_rangeTail (records : Bool) : Keeps (Step pubs origin) (rangeTail nested records) :=
  .bind (keeps_rangeDots false) fun _ => .bind (.comesAny _) fun _ => .bind (.comes _) fun _ =>
    .bind (.comes _) fun _ => .bind (.comes _) fun _ => .bind .ends fun _ =>
    .ite (.discard (inner.closed _ _ _ rfl)) (.pure _)

theorem keeps_operationsUpTo (base : Precedence) (records : Bool) (limit : Nat) (first : Form) :
    Keeps (Step pubs origin) (operationsUpTo nested base records limit first) := by
  induction limit generalizing first with
  | zero => exact .pure _
  | succ limit ih =>
    refine .bind .upcoming fun ahead => .ite (.pure _) ?_
    split
    · refine .ite (.pure _) <| .ite (.forbid _) <| .bind (.take rfl) fun _ => ?_
      exact .bind (.discard (inner.closed _ _ _ rfl)) fun _ => ih _
    · refine .ite ?_ <| .ite ?_ <| .ite ?_ (.pure _)
      · exact .bind (.take rfl) fun _ => .bind (.discard (inner.closed _ _ _ rfl)) fun _ => ih _
      · exact .bind (keeps_rangeTail inner records) fun _ => .pure _
      · exact .bind (.take rfl) fun _ => .bind inner.tightType.discard fun _ =>
          .bind keeps_checkConversion fun _ => ih _

theorem keeps_tighterUpTo (precedence : Precedence) (records : Bool) (limit : Nat) (first : Form) :
    Keeps (Step pubs origin) (tighterUpTo nested precedence records limit first) := by
  induction limit generalizing first with
  | zero => exact .pure _
  | succ limit ih =>
    exact .bind .upcoming fun _ => .ite (.bind (inner.closed _ _ _ rfl) fun _ =>
      .bind .upcoming fun _ => .ite (.pure _) (ih _)) (.pure _)

theorem keeps_rightOperand (precedence : Precedence) (records : Bool) :
    Keeps (Step pubs origin) (rightOperand nested precedence records) :=
  .bind (inner.closed _ _ _ rfl) fun _ => .bind .get fun _ => keeps_tighterUpTo inner _ _ _ _

/-! ## 4. Parts behind a value -/

theorem keeps_callArguments : Keeps (Step pubs origin) (callArguments nested) :=
  .brackets fun _ => .commaItemsInside inner.expression.discard

theorem keeps_memberAccess : Keeps (Step pubs origin) (memberAccess nested) := by
  refine .bind keeps_acceptPositions fun _ => .ite (.pure _) <| .bind (.accept rfl) fun _ =>
    .ite (.pure _) <| .bind keeps_member fun _ => .bind (.comes _) fun _ => ?_
  have called (condition : Bool) : Keeps (Step pubs origin) (do
      if condition then callArguments nested) :=
    .ite (keeps_callArguments inner) (.pure _)
  refine .ite (.bind (.take rfl) fun _ => .bind (.discard (.angleItems
    (fun _ => keeps_argument inner) fun _ => .take rfl)) fun _ => ?_) ?_
  · exact .bind (.comes _) fun _ => called _
  · exact .bind (.comes _) fun _ => called _

theorem keeps_trailersUpTo (limit : Nat) (form : Form) :
    Keeps (Step pubs origin) (trailersUpTo nested limit form) := by
  induction limit generalizing form with
  | zero => exact .pure _
  | succ limit ih =>
    refine .bind (.comes _) fun _ => .bind (.comes _) fun _ => .bind (.comes _) fun _ =>
      .ite (.bind (keeps_callArguments inner) fun _ => ih _) <| .ite ?_ <| .bind (.comes _) fun _ =>
      .ite ?_ <| .bind (.comes _) fun _ => .ite (.bind (.take rfl) fun _ => ih _) (.pure _)
    · exact .bind (.take rfl) fun _ => .bind (keeps_memberAccess inner) fun _ => ih _
    · exact .bind (.brackets fun _ => inner.expression.discard) fun _ => ih _

/-! ## 5. Values -/

omit inner in
theorem keeps_beginsExpression : Keeps (Step pubs origin) beginsExpression :=
  .looks fun _ => rfl

theorem keeps_closureParameter : Keeps (Step pubs origin) (closureParameter nested) :=
  .bind (keeps_outerAttributes inner).discard fun _ => .bind inner.pattern.discard fun _ =>
    .bind (.accept rfl) fun _ => .optional inner.type.discard fun _ => .pure _

theorem keeps_closure (records : Bool) : Keeps (Step pubs origin) (closure nested records) := by
  have doing : Keeps (Step pubs origin) (do
      if ← accept (.mark "->") then
        discard nested.type
        nested.block
      else discard (nested (.expression records))) :=
    .bind (.accept rfl) fun _ => .ite (.bind inner.type.discard fun _ => inner.block)
      (.discard (inner.closed _ _ _ rfl))
  refine .bind (.comes _) fun _ => .optional (keeps_binder inner) fun _ =>
    .bind (.discard (.accept rfl)) fun _ => .bind (.discard (.accept rfl)) fun _ =>
    .bind (.discard (.accept rfl)) fun _ => .bind (.discard (.accept rfl)) fun _ =>
    .bind (.take rfl) fun _ =>
    .bind (.commaItems (.comes _) (keeps_closureParameter inner)) fun _ =>
    .bind (.take rfl) fun _ => doing

theorem keeps_recordField : Keeps (Step pubs origin) (recordField nested) := by
  refine .bind (.accept rfl) fun _ => .ite
    (.bind .ends fun _ => .optional inner.expression.discard fun _ => .pure _) <|
    .bind (keeps_outerAttributes inner).discard fun _ => .bind keeps_member fun _ =>
    .bind (.comes _) fun _ => .ite ?_ (.pure _)
  exact .bind (.take rfl) fun _ => .bind inner.expression.discard fun _ => .pure _

theorem keeps_pathValue (records : Bool) : Keeps (Step pubs origin) (pathValue nested records) := by
  refine keeps_writtenPath inner fun _ => .ite (.bind keeps_macroArgument fun _ => .pure _) <|
    .bind (.comes _) fun _ => .optional ?_ fun _ => .pure _
  exact .brackets fun _ => .commaItems .ends (keeps_recordField inner)

theorem keeps_arrayElements : Keeps (Step pubs origin) (arrayElements nested) :=
  .bind .ends fun _ => .ite (.pure _) <| .bind inner.expression.discard fun _ =>
    .bind .ends fun _ =>
    .ite (.pure _) <| .bind (.accept rfl) fun _ =>
    .ite (.commaItemsInside inner.expression.discard) <| .bind (.accept rfl) fun _ =>
    .ite inner.expression.discard (.missingAny _)

theorem keeps_conditionalUpTo (limit : Nat) :
    Keeps (Step pubs origin) (conditionalUpTo nested limit) := by
  induction limit with
  | zero => exact .pure _
  | succ limit ih =>
    exact .bind (.take rfl) fun _ => .bind (.discard (inner.closed _ _ _ rfl)) fun _ =>
      .bind inner.block fun _ => .bind (.accept rfl) fun _ => .ite
        (.bind (.comes _) fun _ => .ite ih <| .bind (.comes _) fun _ =>
          .ite inner.block (.missingAny _))
        (.pure _)

theorem keeps_choiceCase : Keeps (Step pubs origin) (choiceCase nested) := by
  have done : Keeps (Step pubs origin) (do
      take (.mark "=>")
      let form ← nested .earlyExpression
      if form ≠ .blockLike && !(← ends) then take (.mark ",") else discard (accept (.mark ","))) :=
    .bind (.take rfl) fun _ => .bind (inner.closed _ _ _ rfl) fun _ => .bind .ends fun _ =>
      .ite (.take rfl) (.discard (.accept rfl))
  exact .bind (keeps_outerAttributes inner).discard fun _ =>
    .bind (keeps_alternatives inner).discard fun _ => .bind (.accept rfl) fun _ =>
    .optional inner.expression.discard fun _ => done

theorem keeps_repetition : Keeps (Step pubs origin) (repetition nested) := by
  have block {here : Progress} : Keeps (Step pubs here) (attributedBlock nested) :=
    keeps_attributedBlock inner
  refine .bind (.accept rfl) fun _ => .ite
    (.bind (.discard (inner.closed _ _ _ rfl)) fun _ => block) <|
    .bind (.accept rfl) fun _ => .ite ?_ (.bind (.discard (.accept rfl)) fun _ => block)
  exact .bind (keeps_alternatives inner).discard fun _ => .bind (.take rfl) fun _ =>
    .bind (.discard (inner.closed _ _ _ rfl)) fun _ => block

theorem keeps_labelled : Keeps (Step pubs origin) (labelled nested) :=
  .bind (.take rfl) fun _ => .bind (.take rfl) fun _ => .bind (.comesAny _) fun _ =>
    .ite (keeps_repetition inner) (.missing _)

theorem keeps_breaking (records : Bool) : Keeps (Step pubs origin) (breaking nested records) := by
  have valued : Keeps (Step pubs origin) (do
      discard (accept .lifetime)
      if (← beginsExpression) && (records || !(← comes (.opening .brace))) then
        discard nested.expression) :=
    .bind (.discard (.accept rfl)) fun _ => .bind keeps_beginsExpression fun _ =>
      .bind (.comes _) fun _ => .ite inner.expression.discard (.pure _)
  exact .bind (.take rfl) fun _ => .bind (.comes _) fun _ => .bind (.comesSecond _) fun _ => .ite
    (.bind inner.expression.discard fun _ => .forbidFirst _) valued

theorem keeps_matching (records : Bool) : Keeps (Step pubs origin) (matching nested records) :=
  .bind (.take rfl) fun _ => .bind (keeps_alternatives inner).discard fun _ =>
    .bind (.take rfl) fun _ => .bind (inner.closed _ _ _ rfl) fun _ =>
    .discard (inner.closed _ _ _ rfl)

theorem keeps_markedValue (records : Bool) :
    Keeps (Step pubs origin) (markedValue nested records) := by
  have choice {here : Progress} : Keeps (Step pubs here) (brackets .brace do
      innerAttributes nested
      repeatWhile do
        if ← ends then return false
        choiceCase nested
        return true) :=
    .brackets fun _ => .bind (keeps_innerAttributes inner) fun _ => .repeatWhile <|
      .bind .ends fun _ => .ite (.pure _) <| .bind (keeps_choiceCase inner) fun _ => .pure _
  refine .fromHere fun here => .bind (.comes _) fun _ => .ite ?_ <| .bind (.comes _) fun _ =>
    .ite ?_ <| .bind (.accept rfl) fun _ => .ite ?_ <| .bind (.acceptAny rfl) fun _ => .ite ?_ <|
    .bind (.accept rfl) fun _ => .ite ?_ <| .bind (.comes _) fun _ => .ite ?_ <|
    .bind (.comes _) fun _ => .ite ?_ <| .bind (.comes _) fun _ => .ite ?_ <|
    .bind (.comesAny _) fun _ => .ite ?_ <| .bind (.accept rfl) fun _ => .ite ?_ <|
    .bind (.acceptAny rfl) fun _ => .ite ?_ <| .bind (.comes _) fun _ => .ite ?_ <|
    .bind (.accept rfl) fun _ => .ite (.pure _) <| .bind (.comes _) fun _ =>
    .ite ?_ (.missing _)
  · exact .bind (.brackets fun _ => .commaItemsInside inner.expression.discard) fun _ => .pure _
  · exact .bind (keeps_breaking inner records) fun _ => .pure _
  · exact .bind (.discard (.accept rfl)) fun _ => .pure _
  · exact .bind keeps_beginsExpression fun _ => .optional inner.expression.discard fun _ => .pure _
  · exact .bind inner.expression.discard fun _ => .bind .copySince fun _ => .pure _
  · exact .bind (.brackets fun _ => keeps_arrayElements inner) fun _ => .pure _
  · exact .bind (keeps_matching inner records) fun _ => .pure _
  · exact .bind .get fun _ => .bind (keeps_conditionalUpTo inner _) fun _ => .pure _
  · exact .bind (keeps_repetition inner) fun _ => .pure _
  · exact .bind (.discard (inner.closed _ _ _ rfl)) fun _ => .bind choice fun _ => .pure _
  · exact .bind (keeps_attributedBlock inner) fun _ => .pure _
  · exact .bind (keeps_rangeTail inner records) fun _ => .pure _
  · exact .bind (keeps_labelled inner) fun _ => .pure _

theorem keeps_value (records : Bool) : Keeps (Step pubs origin) (value nested records) := by
  have arguments {here : Progress} : Keeps (Step pubs here) (do
      if ← comes (.opening .paren) then discard takeAnyBrackets else take (.opening .paren)
      copySince here
      return Form.plain) :=
    fun before => .look rfl <| .ite
      (fun _ => Keeps.bind Keeps.takeAnyBrackets.discard
        (fun _ => .bind .copySince fun _ => .pure _) _)
      (fun missing => .bind (.takeMissing missing) fun _ => .bind .copySince fun _ => .pure _)
  refine .fromHere fun here before => .accept rfl (.pure _) <| .look rfl <|
    .ite (fun _ => ?_) fun _ => .look rfl <| .look rfl <| .ite (fun _ => ?_) fun _ => .look rfl <|
    .ite (fun _ => ?_) fun _ => .look rfl <| .look rfl <| .ite (fun builtin => ?_) fun _ =>
    .look rfl <| .ite (fun _ => keeps_pathValue inner records _) fun _ =>
    keeps_markedValue inner records _
  · exact Keeps.bind (.take rfl) (fun _ => .bind (.discard (.accept rfl)) fun _ =>
      .bind inner.block fun _ => .pure _) _
  · exact Keeps.bind (.take rfl) (fun _ => .bind inner.block fun _ => .pure _) _
  · exact Keeps.bind (keeps_closure inner records) (fun _ => .pure _) _
  · have starts : [Sign.word "builtin"].any (·.starts before.rest) = true := by
      simpa using (Bool.and_eq_true_iff.mp builtin).1
    exact .bind (.takeAnyName rfl starts) fun _ => .bind (.take rfl) fun _ =>
      .bind (.take rfl) fun _ => arguments

theorem keeps_operand (records : Bool) : Keeps (Step pubs origin) (operand nested records) := by
  have again {here : Progress} : Keeps (Step pubs here) (do
      discard (nested (.operand records))
      return Form.plain) :=
    .bind (.discard (inner.closed _ _ _ rfl)) fun _ => .pure _
  refine .bind (keeps_outerAttributes inner) fun _ => .bind (.accept rfl) fun _ =>
    .ite (fun before => ?_) <| .bind (.acceptAny rfl) fun _ => .ite again ?_
  · refine .look rfl <| .look rfl <| .look rfl <| .ite (fun raw => ?_) fun _ =>
      Keeps.bind (.discard (.accept rfl)) (fun _ => again) _
    have starts : [Sign.word "raw"].any (·.starts before.rest) = true := by
      simpa using (Bool.and_eq_true_iff.mp raw).1
    exact .bind (.takeAnyName rfl starts) fun _ => .bind (.takeAny rfl) fun _ => again
  · exact .bind (keeps_value inner records) fun _ => .bind .get fun _ =>
      .bind (keeps_trailersUpTo inner _ _) fun _ => .ite (.forbidFirst _) (.pure _)

theorem keeps_expression (records : Bool) : Keeps (Step pubs origin) (expression nested records) :=
  .bind (inner.closed _ _ _ rfl) fun _ => inner.closed _ _ _ rfl

theorem keeps_earlyExpression : Keeps (Step pubs origin) (earlyExpression nested) := by
  have ended (first : Form) : Keeps (Step pubs origin) (do
      if first = .blockLike then
        let member := (← comes (.mark ".")) && !(← comes (.mark ".."))
        if member || (← comes (.mark "?")) then
          let form ← trailersUpTo nested (← get).limit first
          nested (.operations form .jump true)
        else return first
      else nested (.operations first .jump true)) :=
    .ite (.bind (.comes _) fun _ => .bind (.comes _) fun _ => .bind (.comes _) fun _ => .ite
        (.bind .get fun _ => .bind (keeps_trailersUpTo inner _ _) fun _ => inner.closed _ _ _ rfl)
        (.pure _))
      (inner.closed _ _ _ rfl)
  exact .bind (keeps_outerAttributes inner).discard fun _ => .bind (.looks fun _ => rfl) fun _ =>
    .either (keeps_value inner true) (inner.closed _ _ _ rfl) ended

end

end ContractBinder.Code.Grammar
