import ContractBinder.Code.Grammar.Types
import ContractBinder.Proofs.Code.Reading.Steps

/-!
# Steps of the readers of paths and types

Each reader is put together from others, and its lemma follows how it is put together. What readers
of nested code do is assumed (`NestedKeeps`), until the induction on the depth.
-/

namespace ContractBinder.Code

open Reader Grammar

/-- Whether the word that makes items public may be taken outside brackets. -/
def Construct.isOpen : Construct → Bool
  | .statements | .item => true
  | _ => false

/-- The readers of nested code make steps. -/
structure NestedKeeps (nested : Nested) : Prop where
  any : ∀ construct origin, Keeps (Step true origin) (nested construct)
  closed : ∀ construct pubs origin, construct.isOpen = false →
    Keeps (Step pubs origin) (nested construct)

namespace NestedKeeps

variable {nested : Nested} {pubs : Bool} {origin : Progress}

theorem type (inner : NestedKeeps nested) : Keeps (Step pubs origin) nested.type :=
  inner.closed _ _ _ rfl

theorem tightType (inner : NestedKeeps nested) : Keeps (Step pubs origin) nested.tightType :=
  inner.closed _ _ _ rfl

theorem bound (inner : NestedKeeps nested) {captures constants : Bool} :
    Keeps (Step pubs origin) (nested (.bound captures constants)) :=
  inner.closed _ _ _ rfl

theorem expression (inner : NestedKeeps nested) : Keeps (Step pubs origin) nested.expression :=
  inner.closed _ _ _ rfl

theorem pattern (inner : NestedKeeps nested) : Keeps (Step pubs origin) (nested .pattern) :=
  inner.closed _ _ _ rfl

theorem block (inner : NestedKeeps nested) : Keeps (Step pubs origin) nested.block :=
  .brackets fun _ => .discard (inner.any _ _)

end NestedKeeps

/-- The arguments of the segment have matching brackets. -/
def Segment.IsMatched (segment : Segment) : Prop :=
  Matched true segment.arguments

/-- The arguments of every segment have matching brackets. -/
def SegmentsMatched (segments : List Segment) : Prop :=
  ∀ segment ∈ segments, segment.IsMatched

theorem SegmentsMatched.tokens {path : Path} (each : SegmentsMatched path.segments) :
    Matched true path.tokens := by
  refine .append ?_ (.intercalate .pathSep (List.forall_mem_map.mpr fun segment member => ?_))
  · split
    · exact .pathSep
    · exact .nil
  · exact .cons (Token.isTame_name _) (each segment member)

namespace Grammar

variable {nested : Nested} {pubs : Bool} {origin before : Progress}

/-! ## 1. Paths -/

theorem keeps_modulePath : Keeps (Step pubs origin) modulePath := by
  refine .bind (.discard (.accept rfl)) fun _ => .bind (.comesAny _) fun _ =>
    .optional (.take rfl) fun _ => .repeatWhile fun before => ?_
  refine .look rfl (.guard (Keeps.missingFirst _ _) fun starts => ?_)
  exact .bind (.takeAnyName rfl starts) fun _ => .accept rfl

section

variable (inner : NestedKeeps nested)

include inner

theorem keeps_attributeContent : Keeps (Step pubs origin) (attributeContent nested) :=
  have equated : Keeps (Step pubs origin) (do
      if (← comes (.mark "=")) && !(← comesAny [.mark "==", .mark "=>"]) then
        take (.mark "=")
        if (← comes (.mark "#")) && (← comesSecond (.opening .bracket)) then forbid .nestedAttribute
        else discard nested.expression) :=
    .bind (.comes _) fun _ => .bind (.comesAny _) fun _ => .ite (.bind (.take rfl) fun _ =>
      .bind (.comes _) fun _ => .bind (.comesSecond _) fun _ =>
        .ite (.forbid _) inner.expression.discard) (.pure _)
  .bind (.accept rfl) fun _ => .optional keeps_modulePath fun _ => .bind (.comesAny _) fun _ =>
    .ite Keeps.takeAnyBrackets.discard equated

theorem keeps_attribute : Keeps (Step pubs origin) (brackets .bracket (attributeContent nested)) :=
  .brackets fun _ => keeps_attributeContent inner

theorem keeps_outerAttributes : Keeps (Step pubs origin) (outerAttributes nested) :=
  .bind (.comes _) fun _ => .bind
    (.repeatWhile <| .bind (.accept rfl) fun _ =>
      .ite (.bind (keeps_attribute inner) fun _ => .pure _) (.pure _))
    fun _ => .pure _

theorem keeps_innerAttributes : Keeps (Step pubs origin) (innerAttributes nested) :=
  .repeatWhile <| .bind (.comes _) fun _ => .bind (.comesSecond _) fun _ =>
    .ite (.bind (.take rfl) fun _ => .bind (.take rfl) fun _ =>
      .bind (keeps_attribute inner) fun _ => .pure _) (.pure _)

theorem keeps_attributedBlock : Keeps (Step pubs origin) (attributedBlock nested) :=
  .brackets fun _ => .bind (keeps_innerAttributes inner) fun _ => .discard (inner.any _ _)

theorem keeps_constantArgument : Keeps (Step pubs origin) (constantArgument nested) :=
  .bind (.accept rfl) fun _ => .ite (keeps_attributedBlock inner) (.pure _)

theorem keeps_namedBounds (stops : List Sign) :
    Keeps (Step pubs origin) (namedBounds nested stops) :=
  .repeatWhile <| .bind (.comesAny _) fun _ => .ite (.pure _) <|
    .bind inner.bound.discard fun _ => .accept rfl

theorem keeps_argument : Keeps (Step pubs origin) (argument nested) :=
  .bind (.comes _) fun _ => .bind (.comesSecond _) fun _ =>
    .ite (.bind (.take rfl) fun _ => .pure _) <|
    .bind (.comesAny _) fun _ =>
    .ite (.bind (keeps_constantArgument inner) fun _ => .pure _) <|
    .bind inner.type fun _ =>
    .ite
      (.bind (.accept rfl) fun _ => .ite
        (.bind (.comesAny _) fun _ =>
          .either (keeps_constantArgument inner) inner.type.discard fun _ => .pure _)
        (.bind (.accept rfl) fun _ => .optional (keeps_namedBounds inner _) fun _ => .pure _))
      (.pure _)

theorem keeps_angleArguments : Keeps (Step pubs origin) (angleArguments nested) :=
  .bind (.discard (.accept rfl)) fun _ =>
    .discard (.angleItems (fun _ => keeps_argument inner) fun _ => .take rfl)

theorem yields_segment (inExpression : Bool) :
    Yields (Step pubs origin) Segment.IsMatched (segment nested inExpression) := by
  have named (name : String) : Yields (Step pubs origin) Segment.IsMatched (do
      if ← comesArguments inExpression then
        let captured ← capture (angleArguments nested)
        return ⟨name, captured.2⟩
      else return ⟨name, []⟩) :=
    .bind (.looks fun _ => rfl) fun _ => .ite
      (.bindGood (.written fun _ => keeps_angleArguments inner) fun _ matched => .pure matched)
      (.pure .nil)
  intro before
  refine .look rfl (.ite (fun bare => ?_) fun _ => .look rfl (.ite (fun own => ?_) fun _ => ?_))
  · exact .bind (.readAnyName rfl bare) fun _ => .pure .nil
  · have listed : [Sign.word "Self"].any (·.starts before.rest) = true := by simpa using own
    exact .bind (.readAnyName rfl listed) named
  · exact .bind (Keeps.readName _) named

theorem yields_segmentsUpTo (inExpression : Bool) (bound : Nat) :
    Yields (Step pubs origin) SegmentsMatched (segmentsUpTo nested inExpression bound) := by
  induction bound with
  | zero => exact .pure fun _ member => absurd member List.not_mem_nil
  | succ bound ih =>
    refine .bindGood (yields_segment inner inExpression) fun first matched => ?_
    refine .bind (.comes _) fun _ => .bind (.comesThird _) fun _ => .ite ?_ ?_
    · exact .bind (.silently fun _ => .take rfl) fun _ => .bindGood ih fun others each =>
        .pure (List.forall_mem_cons.mpr ⟨matched, each⟩)
    · exact .pure (List.forall_mem_singleton.mpr matched)

theorem yields_path (inExpression : Bool) :
    Yields (Step pubs origin) (fun found => SegmentsMatched found.segments)
      (path nested inExpression) :=
  .bind (.silently fun _ => .accept rfl) fun _ => .bind .get fun _ =>
    .bindGood (yields_segmentsUpTo inner inExpression _) fun _ each => .pure each

theorem keeps_pathOfType (inExpression : Bool) :
    Keeps (Step pubs origin) (pathOfType nested inExpression) := by
  have segments : Keeps (Step pubs origin) (repeatWhile do
      let found ← segment nested inExpression
      write (.name found.name :: found.arguments)
      accept (.mark "::")) :=
    .repeatWhile <| .bindGood (yields_segment inner inExpression) fun _ matched =>
      .bind (.write (.cons (Token.isTame_name _) matched)) fun _ => .accept rfl
  refine .bind (.take rfl) fun _ => .bind inner.type.discard fun _ =>
    .bind (.accept rfl) fun _ => ?_
  exact .ite
    (.bindGood (yields_path inner false) fun _ each => .bind (.write each.tokens) fun _ =>
      .bind (.take rfl) fun _ => .bind (.take rfl) fun _ => segments)
    (.bind (.take rfl) fun _ => .bind (.take rfl) fun _ => segments)

theorem yields_valuePath :
    Yields (Step pubs origin) (fun found => ∀ path ∈ found, SegmentsMatched path.segments)
      (valuePath nested) :=
  .bind (.comes _) fun _ => .ite
    (.bind (keeps_pathOfType inner true) fun _ => .pure nofun)
    (.bindGood (yields_path inner true) fun _ each => .pure fun _ same => by
      cases same
      exact each)

omit inner in
theorem keeps_comesMacro (found : Path) : Keeps (Step pubs origin) (comesMacro found) :=
  .looks fun _ => rfl

omit inner in
theorem keeps_macroArgument : Keeps (Step pubs origin) macroArgument :=
  .bind (.take rfl) fun _ => .takeAnyBrackets

/-! ## 2. Parameters of generic items -/

omit inner in
theorem keeps_lifetimeParameter {stops : Reader Bool}
    (keeps : ∀ here, Keeps (Step pubs here) stops) :
    Keeps (Step pubs origin) (lifetimeParameter stops) :=
  .bind (.take rfl) fun _ => .bind (.comes _) fun _ => .ite
    (.bindGood (.written fun _ => .take rfl) fun _ colon => .bindGood
      (.written fun _ => .repeatWhile <| .bind (keeps _) fun _ => .ite (.pure _) <|
        .bind (.take rfl) fun _ => .accept rfl)
      fun _ bounds => .ite (.write (colon.append bounds)) (.pure _))
    (.pure _)

theorem keeps_typeParameter : Keeps (Step pubs origin) (typeParameter nested) :=
  have preset : Keeps (Step pubs origin) (do if ← accept (.mark "=") then discard nested.type) :=
    .bind (.accept rfl) fun _ => .ite inner.type.discard (.pure _)
  .bind (.take rfl) fun _ => .bind (.comes _) fun _ => .ite
    (.bindGood (.written fun _ => .take rfl) fun _ colon =>
      .bindGood (.written fun _ => keeps_namedBounds inner _) fun _ bounds =>
        .optional (.write (colon.append bounds)) fun _ => preset)
    preset

theorem keeps_constParameter : Keeps (Step pubs origin) (constParameter nested) :=
  .bind (.take rfl) fun _ => .bind (.take rfl) fun _ => .bind (.take rfl) fun _ =>
    .bind inner.type.discard fun _ => .bind (.accept rfl) fun _ => .ite
      (.bind (.acceptAny rfl) fun _ => .ite (.pure _) <| .bind (.comes _) fun _ =>
        .ite (keeps_attributedBlock inner) (.forbid _))
      (.pure _)

theorem keeps_parameter (ofItem : Bool) : Keeps (Step pubs origin) (parameter nested ofItem) := by
  have stops {here : Progress} : Keeps (Step pubs here) (do
      return (← ends) || (← comesAny [.mark ",", .mark ">"])) :=
    .looks fun _ => rfl
  refine .bind (keeps_outerAttributes inner).discard fun _ before => ?_
  refine .look rfl (.ite (fun _ => ?_) fun _ => .look rfl (.ite (fun _ => ?_) fun _ =>
    .look rfl (.ite (fun _ => ?_) fun _ => .look rfl (.ite (fun holds => ?_) fun _ => ?_))))
  · exact Keeps.bind (keeps_lifetimeParameter fun _ => stops) (fun _ => .pure _) _
  · exact Keeps.bind (keeps_typeParameter inner) (fun _ => .pure _) _
  · exact Keeps.bind (keeps_constParameter inner) (fun _ => .pure _) _
  · have placeholder : [Sign.word "_"].any (·.starts before.rest) = true := by
      simpa using (Bool.and_eq_true_iff.mp holds).2
    exact .bind (.takeAnyName rfl placeholder) fun _ => .pure _
  · exact Keeps.ite (.missingAny _) (.missingAny _) _

theorem keeps_binder : Keeps (Step pubs origin) (binder nested) :=
  .bind (.take rfl) fun _ => .bind (.take rfl) fun _ =>
    .bind (.commaItems (.comes _) <| .bind (keeps_parameter inner false).discard fun _ => .pure _)
      fun _ => .take rfl

theorem keeps_parameters : Keeps (Step pubs origin) (parameters nested) :=
  .bind (.comes _) fun _ => .ite
    (.bindGood
      (.written fun _ => .angleItems (fun _ => keeps_parameter inner true) fun _ => .take rfl)
      fun _ matched => .ite (.write matched) (.pure _))
    (.pure _)

theorem keeps_requirements : Keeps (Step pubs origin) (requirements nested) := by
  unfold requirements
  extract_lets stops
  have keepsStops {here : Progress} : Keeps (Step pubs here) stops := .looks fun _ => rfl
  have lifetimes {here : Progress} : Keeps (Step pubs here) (repeatWhile do
      if ← stops then return false
      take .lifetime
      accept (.mark "+")) :=
    .repeatWhile <| .bind keepsStops fun _ => .ite (.pure _) <|
      .bind (.take rfl) fun _ => .accept rfl
  have bounds {here : Progress} : Keeps (Step pubs here) (repeatWhile do
      if ← stops then return false
      discard (nested (.bound false true))
      accept (.mark "+")) :=
    .repeatWhile <| .bind keepsStops fun _ => .ite (.pure _) <|
      .bind inner.bound.discard fun _ => .accept rfl
  refine .bind (.comes _) fun _ => .ite (.bindGood (.written fun _ => .take rfl) fun _ word => ?_)
    (.pure _)
  refine .bindGood (.written fun _ => .repeatWhile <| .bind keepsStops fun _ => .ite (.pure _) <|
    .bind (.comes _) fun _ => .bind (.comesSecond _) fun _ => .ite ?_ ?_)
    fun _ conditions => .ite (.write (word.append conditions)) (.pure _)
  · exact .bind (.take rfl) fun _ => .bind (.take rfl) fun _ => .bind lifetimes fun _ => .accept rfl
  · refine .bind (.comes _) fun _ => .optional (keeps_binder inner) fun _ => ?_
    exact .bind inner.type.discard fun _ => .bind (.take rfl) fun _ => .bind bounds fun _ =>
      .accept rfl

/-! ## 3. Bounds -/

theorem keeps_returned (sums : Bool) : Keeps (Step pubs origin) (returned nested sums) :=
  .bind (.accept rfl) fun _ => .ite (.discard (inner.closed _ _ _ rfl)) (.pure _)

theorem yields_callablePath :
    Yields (Step pubs origin) (fun found => SegmentsMatched found.segments)
      (callablePath nested) := by
  refine .bindGood (yields_path inner false) fun found each => .bind (.comes _) fun _ =>
    .bind (.comes _) fun _ => .bind (.comesThird _) fun _ => .ite ?_ (.pure each)
  refine .bind (.discard (.silently fun _ => .accept rfl)) fun _ => .bindGood
    (.written fun _ => .bind (.brackets fun _ => .commaItemsInside inner.type.discard)
      fun _ => keeps_returned inner false)
    fun captured matched => .pure fun segment member => ?_
  rcases List.mem_append.mp member with kept | last
  · exact each segment (List.mem_of_mem_dropLast kept)
  · obtain ⟨_, _, rfl⟩ := List.mem_map.mp last
    exact matched

theorem keeps_traitBound (constants : Bool) :
    Keeps (Step pubs origin) (traitBound nested constants) := by
  have named (fails found : Bool) : Keeps (Step pubs origin) (do
      write (← callablePath nested).tokens
      if fails then forbid .boundOptional
      return found) :=
    .bindGood (yields_callablePath inner) fun _ each => .bind (.write each.tokens) fun _ =>
      .ite (.forbidFirst _) (.pure _)
  have marked (binds bracketed constant : Bool) : Keeps (Step pubs origin) (do
      if (bracketed || constant) && !constants then forbid (.misplacedConst bracketed)
      let optional ← accept (.mark "?")
      let bindsLater := !binds && optional && (← comes (.word "for"))
      if bindsLater then binder nested
      write (← callablePath nested).tokens
      if optional && (binds || bindsLater) then forbid .boundOptional
      return bracketed || constant) :=
    .ite (.forbidFirst _) <| .bind (.accept rfl) fun _ => .bind (.comes _) fun _ =>
      .optional (keeps_binder inner) fun _ => named _ _
  refine .bind (.comes _) fun binds => .optional (keeps_binder inner) fun _ =>
    .bind (.comes _) fun bracketed => .bind (.comes _) fun constant => .ite ?_ ?_
  · exact .bind (.brackets fun _ => .take rfl) fun _ => marked _ _ _
  · exact .optional (.take rfl) fun _ => marked _ _ _

omit inner in
theorem keeps_captured : Keeps (Step pubs origin) captured := by
  refine .bind (.take rfl) fun _ => .discard (.angleItems (fun _ => ?_) fun _ => .takeAny rfl)
  exact .bind (.accept rfl) fun _ => .ite (.pure _) <| .bind (.acceptAny rfl) fun _ =>
    .ite (.pure _) (.missingAny _)

theorem keeps_bound (captures constants : Bool) :
    Keeps (Step pubs origin) (bound nested captures constants) := by
  refine .bind (.accept rfl) fun _ => .ite (.pure _) <| .bind (.comes _) fun _ => .ite ?_ ?_
  · exact .bind keeps_captured fun _ => .ite (.pure _) (.forbid _)
  · refine .fromHere fun here => .bind (.comes _) fun _ => .either ?_ ?_ fun _ =>
      .optional .copySince fun _ => .pure _
    · exact .brackets fun _ => keeps_traitBound inner constants
    · exact keeps_traitBound inner constants

theorem keeps_boundsUpTo (sums captures constants : Bool) (limit : Nat) :
    Keeps (Step pubs origin) (boundsUpTo nested sums captures constants limit) := by
  induction limit with
  | zero => exact .pure _
  | succ limit ih =>
    have more (adds named : Bool) : Keeps (Step pubs origin) (do
        if adds then
          let more ← comesAny (if constants then .opening .bracket :: boundStarts else boundStarts)
          if more then return (← boundsUpTo nested sums captures constants limit) || named
          else return named
        else return named) :=
      .ite (.bind (.comesAny _) fun _ => .ite (.bind ih fun _ => .pure _) (.pure _)) (.pure _)
    exact .bind inner.bound fun _ => .either (.accept rfl) (.pure _) fun _ => more _ _

theorem keeps_objectBounds (sums : Bool) : Keeps (Step pubs origin) (objectBounds nested sums) :=
  .bind .get fun _ => .bind (keeps_boundsUpTo inner _ _ _ _) fun _ => .ite (.forbid _) (.pure _)

theorem keeps_addedBounds : Keeps (Step pubs origin) (addedBounds nested) :=
  .repeatWhile <| .bind (.accept rfl) fun _ => .ite (.bind inner.bound.discard fun _ => .pure _)
    (.pure _)

/-! ## 4. Types -/

theorem keeps_parenthesised : Keeps (Step pubs origin) (parenthesised nested) := by
  refine .brackets fun _ => .bind .ends fun _ => .ite (.pure _) <| .bind (.comes _) fun _ =>
    .ite ?_ <| .bind (.comes _) fun _ => .ite ?_ ?_
  · exact .bind (keeps_objectBounds inner true) fun _ => .pure _
  · exact .bind (keeps_traitBound inner false).discard fun _ => .pure _
  · exact .bind inner.type fun _ => .bind (.accept rfl) fun _ =>
      .ite (.bind (.commaItemsInside inner.type.discard) fun _ => .pure _) (.pure _)

theorem keeps_parenthesisedType (sums : Bool) :
    Keeps (Step pubs origin) (parenthesisedType nested sums) := by
  refine .bind (keeps_parenthesised inner) fun found => .bind (.comes _) fun _ => ?_
  cases found with
  | closed => exact .pure _
  | optionalBound => exact .bind (keeps_addedBounds inner) fun _ => .pure _
  | single form => exact .optional (keeps_addedBounds inner) fun _ => .pure _

theorem keeps_pointerParameter (first : Bool) :
    Keeps (Step pubs origin) (pointerParameter nested first) := by
  refine .fromHere fun here => ?_
  have copied (mutable mutableType : Bool) : Keeps (Step pubs here) (do
      if mutable || mutableType then copySince here) :=
    .ite .copySince (.pure _)
  have typed (mutable named receives : Bool) : Keeps (Step pubs here) (do
      let mutableType := first && !(named && receives) && (← comes (.word "mut")) &&
        (← comesSecond (.word "self"))
      if mutableType then
        take (.word "mut")
        take (.word "self")
      else if mutable && !named then take (.word "self")
      else discard nested.type
      if mutable || mutableType then copySince here) :=
    .bind (.comes _) fun _ => .bind (.comesSecond _) fun _ => .ite
      (.bind (.take rfl) fun _ => .bind (.take rfl) fun _ => copied _ _)
      (.either (.take rfl) inner.type.discard fun _ => copied _ _)
  refine .bind (.comes _) fun _ => .bind (.comesSecond _) fun _ => .optional (.take rfl) fun _ => ?_
  -- The name is taken as any name, which is none that makes items public, as it was looked at.
  intro before
  refine .look rfl <| .look rfl <| .look rfl <| .look rfl <| .ite (fun named => ?_) fun _ =>
    typed _ _ _ _
  have starts : [Sign.name, .word "_", .word "self"].any (·.starts before.rest) = true := by
    simp only [Bool.and_eq_true, Bool.or_eq_true] at named
    simp only [List.any_cons, List.any_nil, Bool.or_false, Bool.or_eq_true] at named ⊢
    tauto
  exact .bind (.takeAnyName rfl starts) fun _ => .bind (.take rfl) fun _ => typed _ _ _

theorem keeps_pointerParametersUpTo (first : Bool) (limit : Nat) :
    Keeps (Step pubs origin) (pointerParametersUpTo nested first limit) := by
  induction limit generalizing first with
  | zero => exact .pure _
  | succ limit ih =>
    have comma : Keeps (Step pubs origin) (discard (accept (.mark ","))) := .discard (.accept rfl)
    refine .bind .ends fun _ => .ite (.pure _) <| .bind (keeps_outerAttributes inner).discard
      fun _ before => .look rfl <| .look rfl <| .accept rfl comma <| .look rfl <|
        .ite ?_ fun _ => ?_
    · intro named
      have starts := (Bool.and_eq_true_iff.mp (Bool.and_eq_true_iff.mp named).1).1
      exact .bind (.takeAnyName rfl starts) fun _ => .bind (.take rfl) fun _ =>
        .bind (.take rfl) fun _ => comma
    · exact Keeps.bind (keeps_pointerParameter inner first) (fun _ => .bind .ends fun _ =>
        .ite (.pure _) <| .bind (.take rfl) fun _ => ih false) before

omit inner in
theorem keeps_callingConvention : Keeps (Step pubs origin) callingConvention :=
  .bind (.accept rfl) fun _ => .ite (.discard (.accept rfl)) (.pure _)

theorem keeps_functionPointer : Keeps (Step pubs origin) (functionPointer nested) :=
  .bind (.discard (.accept rfl)) fun _ => .bind keeps_callingConvention fun _ =>
    .bind (.take rfl) fun _ => .bind
      (.brackets fun _ => .bind .get fun _ => keeps_pointerParametersUpTo inner _ _)
      fun _ => keeps_returned inner false

theorem keeps_namedType (sums binds : Bool) {bindings : List Token}
    (matched : Matched true bindings) :
    Keeps (Step pubs origin) (namedType nested sums binds bindings) := by
  refine .bind (.comes _) fun _ => .ite
    (.bind (keeps_pathOfType inner false) fun _ => .pure _) <|
    .bindGood (yields_path inner false) fun found each => .bind (keeps_comesMacro found) fun _ =>
    .ite ?_ ?_
  · exact .bind (.write each.tokens) fun _ => .bind keeps_macroArgument.discard fun _ => .pure _
  · have added : Keeps (Step pubs origin) (repeatWhile do
        if ← accept (.mark "+") then
          if ← comesAny boundStarts then
            discard (nested (.bound false false))
            return true
        return false) :=
      .repeatWhile <| .bind (.accept rfl) fun _ => .ite (.bind (.comesAny _) fun _ =>
        .ite (.bind inner.bound.discard fun _ => .pure _) (.pure _)) (.pure _)
    exact .bind (.write (matched.append each.tokens)) fun _ => .bind (.comes _) fun _ =>
      .ite (.bind added fun _ => .pure _) <| .ite (.pure _) <| .ite (.pure _) (.pure _)

theorem keeps_markedType (sums : Bool) : Keeps (Step pubs origin) (markedType nested sums) := by
  refine .fromHere fun here => .bind (.accept rfl) fun _ => .ite ?_ <| .bind (.comes _) fun _ =>
    .ite ?_ <| .bind (.accept rfl) fun _ => .ite ?_ <| .bind (.accept rfl) fun _ => .ite ?_ <|
    .bind (.acceptAny rfl) fun _ => .ite (.pure _) <| .bind (.accept rfl) fun _ => .ite ?_ <|
    .bind (.comes _) fun _ => .either (keeps_objectBounds inner true) (.missingAny _)
      fun _ => .pure _
  · exact .bind (.accept rfl) fun _ => .bind (keeps_objectBounds inner sums) fun _ =>
      .optional .copySince fun _ => .pure _
  · refine .bind (.brackets fun _ => ?_) fun _ => .pure _
    exact .bind inner.type.discard fun _ => .bind (.accept rfl) fun _ =>
      .ite inner.expression.discard (.pure _)
  · exact .bind (.takeAny rfl) fun _ => .bind inner.tightType.discard fun _ => .pure _
  · exact .bind (.discard (.accept rfl)) fun _ => .bind (.discard (.accept rfl)) fun _ =>
      .bind inner.tightType.discard fun _ => .pure _
  · exact .bind .get fun _ => .bind (keeps_boundsUpTo inner _ _ _ _) fun _ =>
      .optional (.forbid _) fun _ => .pure _

theorem keeps_type (sums : Bool) : Keeps (Step pubs origin) (type nested sums) := by
  refine .bind (.comes _) fun binds => .bindGood
    (.written fun _ => .ite (keeps_binder inner) (.pure _)) fun captured matched => ?_
  refine .bind (.comesAny _) fun _ => .ite (.missingAny _) <| .bind (.comes _) fun _ =>
    .ite (keeps_parenthesisedType inner sums) <| .bind (.comesAny _) fun _ => .ite ?_ <|
    .bind (.comesAny _) fun _ => .ite (keeps_namedType inner sums binds matched)
      (keeps_markedType inner sums)
  exact .bind (.write matched) fun _ => .bind (keeps_functionPointer inner) fun _ => .pure _

end

end Grammar

end ContractBinder.Code
