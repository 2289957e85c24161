import ContractBinder.Code.Grammar.Reading
import ContractBinder.Proofs.Code.Reading.Expressions

/-!
# Steps of the readers of items

Only visibilities make something public, and only items, their members and their fields have
them. Behind its visibility an item holds no other one outside brackets.

Results:

1. `exists_behindItems`: behind its visibility an item is read by steps, or copied, and its first
   words decide how.
2. `exists_behindMembers`: so is a member of an implementation.
-/

namespace ContractBinder.Code.Grammar

open Reader PathReading

variable {nested : Nested} {pubs : Bool} {origin before after : Progress}
  {invariant : Progress → Prop}

/-! ## 1. Parts of items -/

theorem keeps_visibility : Keeps (Step true origin) visibility := by
  refine .bind (.accept rfl) fun _ => .ite (.bind (.comes _) fun _ => .ite ?_ (.pure _)) (.pure _)
  refine .bind .upcoming fun _ => .ite (.ite (.brackets fun _ => .take rfl) (.pure _)) <| .ite ?_
    (.pure _)
  exact .brackets fun _ => .bind (.take rfl) fun _ => keeps_modulePath

theorem keeps_functionQualifiers : Keeps (Step pubs origin) functionQualifiers :=
  .bind (.discard (.accept rfl)) fun _ => .bind (.discard (.accept rfl)) fun _ =>
    .bind (.discard (.accept rfl)) fun _ => keeps_callingConvention

theorem comesFunction_ok {found : Bool} (done : comesFunction before = .ok (found, after)) :
    after = before := by
  rw [comesFunction, bind_apply (get_apply before)] at done
  obtain ⟨_, _, _, done⟩ := bind_ok done
  obtain ⟨_, _, _, done⟩ := bind_ok done
  cases done
  rfl

theorem keeps_comesFunction : Keeps invariant comesFunction := by
  intro before result after done holds
  rw [comesFunction_ok done]
  exact holds

section

variable (inner : NestedKeeps nested)

include inner

theorem keeps_receiverParameter : Keeps (Step pubs origin) (receiverParameter nested) := by
  have received (referenced : Bool) : Keeps (Step pubs origin) (do
      discard (accept (.word "mut"))
      take (.word "self")
      if !referenced then
        if ← accept (.mark ":") then discard nested.type) :=
    .bind (.discard (.accept rfl)) fun _ => .bind (.take rfl) fun _ => .ite
      (.bind (.accept rfl) fun _ => .ite inner.type.discard (.pure _)) (.pure _)
  exact .bind (.accept rfl) fun _ => .optional (.discard (.accept rfl)) fun _ => received _

theorem keeps_typedParameter : Keeps (Step pubs origin) (typedParameter nested) := by
  refine .bind (.comes _) fun _ => .bind (.comesSecond _) fun _ => .ite ?_ ?_
  · exact .bind (.write (.cons rfl (.single rfl))) fun _ =>
      .bind inner.type.discard fun _ => .pure _
  · exact .bind inner.pattern.discard fun _ => .bind (.take rfl) fun _ => .bind (.accept rfl)
      fun _ => .ite (.pure _) <| .bind inner.type.discard fun _ => .pure _

theorem keeps_functionParametersUpTo (first received : Bool) (limit : Nat) :
    Keeps (Step pubs origin) (functionParametersUpTo nested first received limit) := by
  induction limit generalizing first received with
  | zero => exact .pure _
  | succ limit ih =>
    have rest (receives continues : Bool) : Keeps (Step pubs origin) (do
        if ← ends then return
        take (.mark ",")
        if continues then functionParametersUpTo nested false (received || receives) limit) :=
      .bind .ends fun _ => .ite (.pure _) <| .bind (.take rfl) fun _ => .ite (ih _ _) (.pure _)
    refine .bind .ends fun _ => .ite (.pure _) <| .bind (keeps_outerAttributes inner).discard
      fun _ => .bind (.attempt (keeps_receiverParameter inner)) fun _ => .ite (.forbidFirst _) ?_
    exact .bind (.accept rfl) fun _ => .ite (.bind (.pure _) fun _ => rest _ _) <|
      .either (.pure _) (keeps_typedParameter inner) fun _ => rest _ _

/-- A signature behind the name. -/
theorem keeps_behindName : Keeps (Step pubs origin) (do
    parameters nested
    brackets .paren do functionParametersUpTo nested true false (← get).limit
    returned nested true
    requirements nested) :=
  .bind (keeps_parameters inner) fun _ => .bind
    (.brackets fun _ => .bind .get fun _ => keeps_functionParametersUpTo inner _ _ _)
    fun _ => .bind (keeps_returned inner true) fun _ => keeps_requirements inner

theorem keeps_signature : Keeps (Step pubs origin) (signature nested) :=
  .bind keeps_functionQualifiers fun _ => .bind (.take rfl) fun _ => .bind (.take rfl) fun _ =>
    keeps_behindName inner

/-- A function behind the signature. -/
theorem keeps_functionBody (lasting : Lasting pubs invariant)
    (copies : Keeps invariant (copySince origin)) : Keeps invariant (do
      if ← accept (.mark ";") then copySince origin else attributedBlock nested) :=
  .bind (.lift lasting fun _ => .accept rfl) fun _ =>
    .ite copies (.lift lasting fun _ => keeps_attributedBlock inner)

theorem keeps_function (lasting : Lasting pubs invariant)
    (copies : Keeps invariant (copySince origin)) : Keeps invariant (function nested origin) :=
  .bind (.lift lasting fun _ => keeps_signature inner) fun _ =>
    keeps_functionBody inner lasting copies

theorem keeps_constant (lasting : Lasting pubs invariant)
    (copies : Keeps invariant (copySince origin)) (needsValue : Bool) :
    Keeps invariant (constant nested origin needsValue) := by
  have ended (generic valued : Bool) : Keeps invariant (do
      let required ← comes (.word "where")
      requirements nested
      take (.mark ";")
      if generic || needsValue && !valued || required then copySince origin) :=
    .bind (.comes _) fun _ => .bind (.lift lasting fun _ => keeps_requirements inner) fun _ =>
      .bind (.lift lasting fun _ => .take rfl) fun _ => .ite copies (.pure _)
  exact .bind (.lift lasting fun _ => .take rfl) fun _ =>
    .bind (.lift lasting fun _ => .takeAny rfl) fun _ => .bind (.comes _) fun _ =>
    .bind (.lift lasting fun _ => keeps_parameters inner) fun _ =>
    .bind (.lift lasting fun _ => .take rfl) fun _ =>
    .bind (.lift lasting fun _ => inner.type.discard) fun _ =>
    .bind (.lift lasting fun _ => .accept rfl) fun _ =>
    .optional (.lift lasting fun _ => inner.expression.discard) fun _ => ended _ _

theorem keeps_typeName (early late : Bool) :
    Keeps (Step pubs origin) (typeName nested early late) := by
  have required : Keeps (Step pubs origin) (requirements nested) := keeps_requirements inner
  have defined (bounded : Bool) : Keeps (Step pubs origin) (do
      let required := early && (← comes (.word "where"))
      if early then requirements nested
      let defined ← accept (.mark "=")
      if defined then discard nested.type
      if late && !required then requirements nested
      take (.mark ";")
      return (⟨bounded, defined⟩ : TypeParts)) :=
    .bind (.comes _) fun _ => .optional required fun _ => .bind (.accept rfl) fun _ =>
      .optional inner.type.discard fun _ => .optional required fun _ => .bind (.take rfl) fun _ =>
      .pure _
  exact .bind (.take rfl) fun _ => .bind (.take rfl) fun _ =>
    .bind (keeps_parameters inner) fun _ =>
    .bindGood (.written fun _ => .accept rfl) fun _ colon => .ite
      (.bindGood (.written fun _ => keeps_namedBounds inner _) fun _ bounds =>
        .optional (.write (colon.append bounds)) fun _ => defined _)
      (defined _)

theorem keeps_staticValue (lasting : Lasting pubs invariant)
    (copies : Keeps invariant (copySince origin)) :
    Keeps invariant (staticValue nested origin) := by
  have valued {here : Progress} : Keeps (Step pubs here) (do
      discard nested.expression
      take (.mark ";")) :=
    .bind inner.expression.discard fun _ => .take rfl
  have typed : Keeps invariant (do
      take (.mark ":")
      discard nested.type
      if ← accept (.mark ";") then copySince origin
      else
        take (.mark "=")
        discard nested.expression
        take (.mark ";")) :=
    .bind (.lift lasting fun _ => .take rfl) fun _ =>
      .bind (.lift lasting fun _ => inner.type.discard) fun _ =>
      .bind (.lift lasting fun _ => .accept rfl) fun _ => .ite copies <|
      .lift lasting fun _ => .bind (.take rfl) fun _ => valued
  exact .bind (.lift lasting fun _ => .take rfl) fun _ =>
    .bind (.lift lasting fun _ => .discard (.accept rfl)) fun _ =>
    .bind (.lift lasting fun _ => .take rfl) fun _ =>
    .bind (.lift lasting fun _ => .accept rfl) fun _ => .ite
      (.bind (.lift lasting fun _ => inner.expression.discard) fun _ =>
        .bind (.lift lasting fun _ => .take rfl) fun _ => copies)
      typed

omit inner in
theorem keeps_macroItem (nameable : Bool) : Keeps (Step pubs origin) (macroItem nameable) := by
  have argument : Keeps (Step pubs origin) (do
      if (← takeAnyBrackets) ≠ .brace then take (.mark ";")) :=
    .bind .takeAnyBrackets fun _ => .ite (.take rfl) (.pure _)
  exact .bind keeps_modulePath fun _ => .bind (.take rfl) fun _ =>
    .optional (.discard (.acceptAny rfl)) fun _ => argument

/-! ## 2. Records and choices -/

theorem keeps_fieldItem (named : Bool) : Keeps (Step true origin) (fieldItem nested named) :=
  .bind (keeps_outerAttributes inner).discard fun _ => .bind keeps_visibility fun _ => .ite
    (.bind (.accept rfl) fun _ => .optional (.take rfl) fun _ => .bind (.take rfl) fun _ =>
      inner.type.discard)
    inner.type.discard

theorem keeps_namedFields : Keeps (Step pubs origin) (namedFields nested) :=
  .brackets fun _ => .commaItemsInside (keeps_fieldItem inner true)

theorem keeps_tupleFields : Keeps (Step pubs origin) (tupleFields nested) :=
  .brackets fun _ => .commaItemsInside (keeps_fieldItem inner false)

theorem keeps_record : Keeps (Step pubs origin) (record nested) := by
  refine .bind (.take rfl) fun _ => .bind (.take rfl) fun _ => .bind (keeps_parameters inner)
    fun _ => .bind (.comes _) fun _ => .bind (keeps_requirements inner) fun _ =>
    .bind (.comes _) fun _ => .ite ?_ <| .bind (.comes _) fun _ =>
    .ite (keeps_namedFields inner) <| .bind (.accept rfl) fun _ => .ite (.missingAny _) (.pure _)
  exact .bind (keeps_tupleFields inner) fun _ => .bind (.comes _) fun _ =>
    .bind (keeps_requirements inner) fun _ => .bind (.accept rfl) fun _ =>
    .ite (.missingAny _) (.pure _)

theorem keeps_variant : Keeps (Step true origin) (variant nested) := by
  have valued : Keeps (Step true origin) (do
      if ← accept (.mark "=") then discard nested.expression) :=
    .bind (.accept rfl) fun _ => .ite inner.expression.discard (.pure _)
  exact .bind (keeps_outerAttributes inner).discard fun _ =>
    .bind (.silently fun _ => keeps_visibility) fun _ => .bind (.take rfl) fun _ =>
    .bind (.comes _) fun _ => .ite (.bind (keeps_namedFields inner) fun _ => valued) <|
    .bind (.comes _) fun _ => .optional (keeps_tupleFields inner) fun _ => valued

theorem keeps_choice : Keeps (Step pubs origin) (choice nested) :=
  .bind (.take rfl) fun _ => .bind (.take rfl) fun _ => .bind (keeps_parameters inner) fun _ =>
    .bind (keeps_requirements inner) fun _ => .brackets fun _ =>
    .commaItemsInside (keeps_variant inner)

theorem keeps_sharedRecord : Keeps (Step pubs origin) (sharedRecord nested) :=
  .bind (.take rfl) fun _ => .bind (.take rfl) fun _ => .bind (keeps_parameters inner) fun _ =>
    .bind (keeps_requirements inner) fun _ => keeps_namedFields inner

/-! ## 3. Traits and implementations -/

theorem keeps_membersInside {member : Reader Unit} (keeps : ∀ here, Keeps (Step true here) member) :
    Keeps (Step pubs origin) (membersInside nested member) :=
  .brackets fun _ => .bind (keeps_innerAttributes inner) fun _ =>
    .repeatWhile (.untilEnd (keeps _))

omit inner in
theorem keeps_comesPreset : Keeps invariant comesPreset :=
  .looks fun _ => rfl

end

/-- A reader of something that has attributes and may be made public. -/
def publishable (nested : Nested) (behind : Progress → Bool → Reader Unit) : Reader Unit := do
  let origin ← get
  discard (outerAttributes nested)
  let visible ← comes (.word "pub")
  visibility
  behind origin visible

/-- What is behind a visibility is read by steps, and tokens are written or copied. -/
def KeepsBehind (behind : Progress → Bool → Reader Unit) : Prop :=
  ∀ {pubs origin invariant visible}, Lasting pubs invariant → Keeps invariant (copySince origin) →
    Keeps invariant (behind origin visible)

/-- `behind` is what the reader of items reads behind a visibility, given where the item starts and
whether it is visible. The first words decide which item it is. -/
structure BehindItems (nested : Nested) (behind : Progress → Bool → Reader Unit) : Prop where
  itemFrom : ∀ origin, Grammar.itemFrom nested origin = do
    let visible ← comes (.word "pub")
    visibility
    behind origin visible
  keeps : KeepsBehind behind
  constant : ∀ origin visible before name rest, isReserved name = false →
    before.rest = .name "const" :: .name name :: rest →
    behind origin visible before = Grammar.constant nested origin true before
  staticValue : ∀ origin visible before rest, before.rest = .name "static" :: rest →
    behind origin visible before = Grammar.staticValue nested origin before
  record : ∀ origin visible before rest, before.rest = .name "struct" :: rest →
    behind origin visible before = Grammar.record nested before
  implementation : ∀ origin visible before rest, before.rest = .name "impl" :: rest →
    behind origin visible before = (do
      Grammar.implementation nested origin
      if visible then copySince origin) before

/-- So does the reader of members of implementations. -/
structure BehindMembers (nested : Nested) (behind : Progress → Bool → Reader Unit) : Prop where
  member : implementationMember nested = publishable nested behind
  keeps : KeepsBehind behind
  function : ∀ origin visible rest written unread limit,
    behind origin visible ⟨.name "fn" :: rest, written, unread, limit⟩ =
      Grammar.function nested origin ⟨.name "fn" :: rest, written, unread, limit⟩

theorem BehindItems.item {behind : Progress → Bool → Reader Unit}
    (items : BehindItems nested behind) : Grammar.item nested = publishable nested behind := by
  unfold Grammar.item publishable
  simp only [items.itemFrom]

section

variable (inner : NestedKeeps nested)

include inner

theorem keeps_publishable {behind : Progress → Bool → Reader Unit} (keeps : KeepsBehind behind) :
    Keeps (Step true origin) (publishable nested behind) :=
  .fromHere fun _ => .bind (keeps_outerAttributes inner).discard fun _ => .bind (.comes _) fun _ =>
    .bind keeps_visibility fun _ => keeps Step.lasting .copySince

theorem exists_behindMembers : ∃ behind, BehindMembers nested behind := by
  refine ⟨_, rfl, fun {pubs origin invariant visible} lasting copies before => ?_,
    fun _ _ _ _ _ _ => rfl⟩
  have described (preset : Bool) : Keeps invariant (do
      if ← comesFunction then function nested origin
      else if ← comes (.word "const") then constant nested origin true
      else if ← comes (.word "type") then
        let parts ← typeName nested false true
        if parts.bounded || !parts.defined then copySince origin
      else if !visible && !preset && (← comesAny macroStarts) then macroItem false
      else
        let starts : List Sign := [.word "fn", .word "const", .word "type"]
        missingAny ((if preset then [] else [.word "default"]) ++ starts ++
          if visible || preset then [] else macroStarts)) := by
    refine .bind keeps_comesFunction fun _ => .ite (keeps_function inner lasting copies) <|
      .bind (.comes _) fun _ => .ite (keeps_constant inner lasting copies true) <|
      .bind (.comes _) fun _ => .ite ?_ <| .bind (.comesAny _) fun _ =>
      .ite (.lift lasting fun _ => keeps_macroItem false) (.missingAny _)
    exact .bind (.lift lasting fun _ => keeps_typeName inner false true) fun _ =>
      .ite copies (.pure _)
  refine .look rfl <| .ite (fun preset => ?_) fun _ => described _ _
  have starts : [Sign.word "default"].any (·.starts before.rest) = true := by
    simpa using (Bool.and_eq_true_iff.mp preset).1
  exact .bind (.lift lasting (.takeAnyName rfl starts)) fun _ => described _

theorem keeps_implementationMember : Keeps (Step true origin) (implementationMember nested) := by
  obtain ⟨behind, members⟩ := exists_behindMembers inner
  exact members.member ▸ keeps_publishable inner members.keeps

theorem keeps_traitMember : Keeps (Step true origin) (traitMember nested) := by
  refine .fromHere fun here => .bind (keeps_outerAttributes inner).discard fun _ =>
    .bind (.comes _) fun visible => .bind keeps_visibility fun _ =>
    .bind (.accept rfl) fun preset => ?_
  have copied : Keeps (Step true here) (do if visible || preset then copySince here) :=
    .ite .copySince (.pure _)
  have body : Keeps (Step true here) (do
      if ← comes (.opening .brace) then attributedBlock nested
      else takeAny [.opening .brace, .mark ";"]
      if visible || preset then copySince here) := by
    refine fun before => .look rfl <| .ite
      (fun _ => Keeps.bind (keeps_attributedBlock inner) (fun _ => copied) _) fun noBrace =>
      .bind (.takeAny fun sign listed starts => ?_) fun _ => copied
    rcases List.mem_pair.mp listed with rfl | rfl
    · exact absurd starts noBrace
    · rfl
  refine .bind keeps_comesFunction fun _ => .ite (.bind (keeps_signature inner) fun _ => body) <|
    .bind (.comes _) fun _ => .ite (.bind (keeps_constant inner Step.lasting .copySince false)
      fun _ => copied) <| .bind (.comes _) fun _ => .ite
    (.bind (keeps_typeName inner false true).discard fun _ => copied) <|
    .bind (.comesAny _) fun _ => .either (keeps_macroItem false) (.missingAny _) fun _ => copied

theorem keeps_boundsBefore (stops : List Sign) :
    Keeps (Step pubs origin) (boundsBefore nested stops) :=
  .repeatWhile <| .bind (.comesAny _) fun _ => .ite (.pure _) <| .bind inner.bound.discard fun _ =>
    .bind (.comesAny _) fun _ => .ite (.pure _) <| .bind (.take rfl) fun _ => .pure _

theorem keeps_traitBody : Keeps (Step pubs origin) (traitBody nested) := by
  have held : Keeps (Step pubs origin) (do
      requirements nested
      membersInside nested (traitMember nested)) :=
    .bind (keeps_requirements inner) fun _ =>
      keeps_membersInside inner fun _ => keeps_traitMember inner
  exact .bindGood (.written fun _ => .accept rfl) fun _ colon => .ite
    (.bindGood (.written fun _ => keeps_boundsBefore inner _) fun _ bounds =>
      .optional (.write (colon.append bounds)) fun _ => held)
    held

theorem keeps_traitItem : Keeps (Step pubs origin) (traitItem nested) := by
  refine .bind (.comesAny _) fun _ => .bind (.discard (.accept rfl)) fun _ =>
    .bind (.discard (.accept rfl)) fun _ => .bind (.take rfl) fun _ => .bind (.take rfl) fun _ =>
    .bind (keeps_parameters inner) fun _ => .bind (.comesAny _) fun _ =>
    .ite (keeps_traitBody inner) <| .bind (.accept rfl) fun _ => .ite ?_ (.missingAny _)
  exact .bind (keeps_boundsBefore inner _) fun _ => .bind (keeps_requirements inner) fun _ =>
    .take rfl

omit inner in
theorem keeps_comesParameters : Keeps invariant comesParameters :=
  .looks fun _ => rfl

theorem keeps_implementation (lasting : Lasting pubs invariant)
    (copies : Keeps invariant (copySince origin)) :
    Keeps invariant (implementation nested origin) := by
  have members {here : Progress} :
      Keeps (Step pubs here) (membersInside nested (implementationMember nested)) :=
    keeps_membersInside inner fun _ => keeps_implementationMember inner
  have held (form : Form) (special ofTrait : Bool) : Keeps invariant (do
      requirements nested
      membersInside nested (implementationMember nested)
      let named := form = .nameType || form = .pathType
      if special || ofTrait && !named then copySince origin) :=
    .bind (.lift lasting fun _ => keeps_requirements inner) fun _ =>
      .bind (.lift lasting fun _ => members) fun _ => .ite copies (.pure _)
  exact .bind (.lift lasting fun _ => .discard (.accept rfl)) fun _ =>
    .bind (.lift lasting fun _ => .discard (.accept rfl)) fun _ =>
    .bind (.lift lasting fun _ => .take rfl) fun _ => .bind keeps_comesParameters fun _ =>
    .optional (.lift lasting fun _ => keeps_parameters inner) fun _ =>
    .bind (.comes _) fun _ => .bind (.comesSecond _) fun _ => .bind (.comes _) fun _ =>
    .optional (.lift lasting fun _ => .take rfl) fun _ =>
    .optional (.lift lasting fun _ => .take rfl) fun _ => .bind (.comes _) fun _ =>
    .bind (.comesSecond _) fun _ => .optional (.lift lasting fun _ => .take rfl) fun _ =>
    .bind (.lift lasting fun _ => inner.type) fun form =>
    .bind (.lift lasting fun _ => .accept rfl) fun _ =>
    .ite (.bind (.lift lasting fun _ => inner.type.discard) fun _ => held _ _ _) <|
    .ite (.forbidFirst _) (held _ _ _)

/-! ## 4. Modules and what comes from elsewhere -/

omit inner in
theorem keeps_importsUpTo {imported : Bool → Reader Bool}
    (keeps : ∀ rootable here, Keeps (Step true here) (imported rootable)) (rootable : Bool)
    (limit : Nat) : Keeps (Step true origin) (importsUpTo imported rootable limit) := by
  induction limit with
  | zero => exact .pure _
  | succ limit ih =>
    have more (rooted : Bool) : Keeps (Step true origin) (do
        let inner ← imported (rootable && !rooted)
        if ← ends then return rooted || inner
        take (.mark ",")
        let others ← importsUpTo imported rootable limit
        return rooted || inner || others) :=
      .bind (keeps _ _) fun _ => .bind .ends fun _ => .ite (.pure _) <| .bind (.take rfl) fun _ =>
        .bind ih fun _ => .pure _
    exact .bind .ends fun _ => .ite (.pure _) <| .either (.accept rfl) (.pure _) fun _ => more _

omit inner in
theorem keeps_importedUpTo (limit : Nat) (rootable : Bool) :
    Keeps (Step pubs origin) (importedUpTo limit rootable) := by
  induction limit generalizing rootable pubs origin with
  | zero => exact .pure _
  | succ limit ih =>
    have renamed : Keeps (Step pubs origin) (do
        if ← accept (.word "as") then
          if !(← acceptAny [.name, .word "_"]) then missing "identifier or underscore"
        return false) :=
      .bind (.accept rfl) fun _ => .ite (.bind (.acceptAny rfl) fun _ =>
        .ite (.missingFirst _) (.pure _)) (.pure _)
    refine fun before => .look rfl <| .ite (fun starts => ?_) fun _ =>
      Keeps.bind (.accept rfl) (fun _ => .ite (.pure _) <| .bind (.comes _) fun _ => .ite
        (.brackets fun _ => .bind .get fun _ => keeps_importsUpTo (fun _ _ => ih _) _ _)
        (.missingAny _)) before
    exact .bind (.takeAnyName rfl starts) fun _ => .bind (.accept rfl) fun _ =>
      .ite (ih _) renamed

omit inner in
theorem keeps_imports (lasting : Lasting pubs invariant)
    (copies : Keeps invariant (copySince origin)) : Keeps invariant (imports origin) :=
  .bind (.lift lasting fun _ => .take rfl) fun _ =>
    .bind (.lift lasting fun _ => .accept rfl) fun _ => .bind .get fun _ =>
    .bind (.lift lasting fun _ => keeps_importedUpTo _ _) fun _ =>
    .bind (.lift lasting fun _ => .take rfl) fun _ => .ite copies (.pure _)

omit inner in
theorem keeps_library : Keeps (Step pubs origin) library := by
  have renamed : Keeps (Step pubs origin) (do
      if ← accept (.word "as") then
        if !(← accept (.word "_")) then take .name
      take (.mark ";")) :=
    .bind (.accept rfl) fun _ => .ite
      (.bind (.accept rfl) fun _ => .optional (.take rfl) fun _ => .take rfl) (.take rfl)
  exact .bind (.take rfl) fun _ => .bind (.take rfl) fun _ => .bind (.accept rfl) fun _ =>
    .optional (.take rfl) fun _ => renamed

theorem keeps_foreignMember : Keeps (Step true origin) (foreignMember nested) := by
  refine .fromHere fun here => .bind (keeps_outerAttributes inner).discard fun _ =>
    .bind (.comes _) fun _ => .bind keeps_visibility fun _ => .bind (.comesSecond _) fun _ =>
    .bind (.comesAny _) fun _ => .bind (.comesSecond _) fun _ => .bind (.comesSecond _) fun _ =>
    .bind (.comesSecond _) fun _ => .bind (.comes _) fun _ => .bind keeps_comesFunction fun _ =>
    .ite ?_ <| .bind (.comes _) fun _ => .ite ?_ <| .bind (.comes _) fun _ => .ite ?_ <|
    .bind (.comesAny _) fun _ => .ite (keeps_macroItem false) (.missingAny _)
  · refine .optional (.take rfl) fun _ => .bind (keeps_signature inner) fun _ =>
      .bind (.comes _) fun _ => .ite ?_ (.bind (.take rfl) fun _ => .ite .copySince (.pure _))
    exact .bind (keeps_attributedBlock inner) fun _ => .copySince
  · exact .bind (.discard (.acceptAny rfl)) fun _ => .bind (.take rfl) fun _ =>
      .bind (.discard (.accept rfl)) fun _ => .bind (.take rfl) fun _ => .bind (.take rfl) fun _ =>
      .bind inner.type.discard fun _ => .bind (.accept rfl) fun _ =>
      .optional inner.expression.discard fun _ => .bind (.take rfl) fun _ =>
      .ite .copySince (.pure _)
  · exact .bind (keeps_typeName inner true true) fun _ => .ite .copySince (.pure _)

theorem keeps_foreignItems : Keeps (Step pubs origin) (foreignItems nested) :=
  .bind (.discard (.accept rfl)) fun _ => .bind (.take rfl) fun _ => .bind (.discard (.accept rfl))
    fun _ => keeps_membersInside inner fun _ => keeps_foreignMember inner

theorem keeps_externalItem (visible : Bool) :
    Keeps (Step pubs origin) (externalItem nested visible) := by
  refine .bind (.comesSecond _) fun _ => .bind (.comesSecond _) fun _ => .bind (.comesThird _)
    fun _ => .bind (.comesSecond _) fun _ => .ite keeps_library <| .ite ?_ ?_
  · exact .ite (.bind (.fails _) fun _ => keeps_foreignItems inner) (keeps_foreignItems inner)
  · exact .bind (.silently fun _ => .take rfl) fun _ => .ite
      (.bind (.silently fun _ => .take rfl) fun _ => .missingAny _) (.missingAny _)

theorem keeps_moduleItem : Keeps (Step pubs origin) (moduleItem nested) := by
  have held : Keeps (Step pubs origin) (do
      if ← comes (.opening .brace) then membersInside nested (discard (nested .item))
      else if !(← accept (.mark ";")) then missingAny [.mark ";", .opening .brace]) :=
    .bind (.comes _) fun _ => .ite
      (keeps_membersInside inner fun _ => .discard (inner.any _ _))
      (.bind (.accept rfl) fun _ => .ite (.missingAny _) (.pure _))
  exact .bind (.discard (.accept rfl)) fun _ => .bind (.take rfl) fun _ => .bind (.accept rfl)
    fun _ => .optional (.take rfl) fun _ => held

omit inner in
theorem keeps_macroDefinition (lasting : Lasting pubs invariant)
    (copies : Keeps invariant (copySince origin)) : Keeps invariant (macroDefinition origin) := by
  have braced (parameterised : Bool) : Keeps invariant (do
      if ← comes (.opening .brace) then discard takeAnyBrackets
      else missingAny ((if parameterised then [] else [.opening .paren]) ++ [.opening .brace])
      copySince origin) :=
    .bind (.comes _) fun _ => .either (.lift lasting fun _ => Keeps.takeAnyBrackets.discard)
      (.missingAny _) fun _ => copies
  exact .bind (.lift lasting fun _ => .take rfl) fun _ =>
    .bind (.lift lasting fun _ => .take rfl) fun _ => .bind (.comes _) fun _ =>
    .optional (.lift lasting fun _ => Keeps.takeAnyBrackets.discard) fun _ => braced _

/-! ## 5. Items and statements -/

theorem keeps_unsafeItem (lasting : Lasting pubs invariant)
    (copies : Keeps invariant (copySince origin)) (visible : Bool) :
    Keeps invariant (unsafeItem nested origin visible) := by
  have foreign : Keeps invariant (foreignItems nested) :=
    .lift lasting fun _ => keeps_foreignItems inner
  refine .bind (.comesSecond _) fun _ => .bind (.comesThird _) fun _ => .bind (.comesSecond _)
    fun _ => .ite (.lift lasting fun _ => keeps_traitItem inner) <| .bind (.comesSecond _) fun _ =>
    .ite ?_ <| .bind (.comesSecond _) fun _ => .ite ?_ <| .bind (.comesSecond _) fun _ =>
    .ite (.lift lasting fun _ => keeps_moduleItem inner) ?_
  · exact .bind (keeps_implementation inner lasting copies) fun _ => .ite copies (.pure _)
  · exact .ite (.bind (.fails _) fun _ => foreign) foreign
  · exact .bind (.lift lasting fun _ => .silently fun _ => .take rfl) fun _ => .missingAny _

omit inner in
/-- No function starts with the constant that a name follows. -/
theorem comesFunction_const {name : String} {rest : List Token} (free : isReserved name = false)
    (next : before.rest = .name "const" :: .name name :: rest) :
    comesFunction before = .ok (false, before) := by
  obtain ⟨_, written, unread, limit⟩ := before
  subst next
  let behind : Progress := ⟨.name name :: rest, .name "const" :: written, unread, limit⟩
  have noWord (spelling : String) (reserved : isReserved spelling = true) :
      accept (.word spelling) behind = .ok (false, behind) :=
    accept_missing (not_starts_word free reserved)
  have skipped (spelling : String) (reserved : isReserved spelling = true) :
      discard (accept (.word spelling)) behind = .ok ((), behind) :=
    discard_apply (noWord spelling reserved)
  have first : discard (accept (.word "const"))
      ⟨.name "const" :: .name name :: rest, written, unread, limit⟩ = .ok ((), behind) := rfl
  have qualified : functionQualifiers
      ⟨.name "const" :: .name name :: rest, written, unread, limit⟩ = .ok ((), behind) := by
    rw [functionQualifiers, bind_apply first, bind_apply (skipped "async" rfl),
      bind_apply (skipped "unsafe" rfl), callingConvention, bind_apply (noWord "extern" rfl)]
    rfl
  rw [comesFunction, bind_apply (get_apply _), bind_apply qualified, bind_apply (comes_apply _ _),
    not_starts_word free rfl]
  rfl

theorem exists_behindItems : ∃ behind, BehindItems nested behind := by
  refine ⟨_, fun _ => rfl, fun {pubs origin invariant visible} lasting copies => ?_, ?_, ?_, ?_, ?_⟩
  · refine .bind (.comes _) fun _ => .bind (.comesSecond _) fun _ => .bind (.comes _) fun _ =>
      .bind (.comesSecond _) fun _ => .bind keeps_comesFunction fun _ =>
      .ite (keeps_function inner lasting copies) <| .bind (.comes _) fun _ =>
      .ite (.lift lasting fun _ => keeps_externalItem inner _) <| .bind (.comes _) fun _ =>
      .ite (keeps_imports lasting copies) <| .bind (.comes _) fun _ =>
      .ite (keeps_staticValue inner lasting copies) <| .bind (.comes _) fun _ =>
      .ite (keeps_constant inner lasting copies true) <| .bind (.comes _) fun _ =>
      .ite (keeps_unsafeItem inner lasting copies _) <| .bind (.comes _) fun _ =>
      .ite (.lift lasting fun _ => keeps_moduleItem inner) <| .bind (.comes _) fun _ => .ite ?_ <|
      .bind (.comes _) fun _ => .ite (.lift lasting fun _ => keeps_record inner) <|
      .bind (.comes _) fun _ => .ite (.lift lasting fun _ => keeps_choice inner) <|
      .ite (.lift lasting fun _ => keeps_sharedRecord inner) <| .bind (.comes _) fun _ =>
      .ite (.lift lasting fun _ => keeps_traitItem inner) <| .bind keeps_comesPreset fun _ =>
      .bind (.comes _) fun _ => .ite ?_ <| .bind (.comes _) fun _ =>
      .ite (keeps_macroDefinition lasting copies) <| .bind (.comesAny _) fun _ =>
      .ite (.lift lasting fun _ => keeps_macroItem true) (.missingAny _)
    · exact .bind (.lift lasting fun _ => keeps_typeName inner true false) fun _ =>
        .ite copies (.pure _)
    · exact .bind (keeps_implementation inner lasting copies) fun _ => .ite copies (.pure _)
  · rintro origin visible before name rest free next
    refine (bind_apply (comes_apply _ _)).trans ?_
    refine (bind_apply rfl).trans ?_
    refine (bind_apply (comes_apply _ _)).trans ?_
    refine (bind_apply rfl).trans ?_
    refine (bind_apply (comesFunction_const free next)).trans ?_
    obtain ⟨_, written, unread, limit⟩ := before
    subst next
    rfl
  · rintro origin visible ⟨_, written, unread, limit⟩ rest rfl
    rfl
  · rintro origin visible ⟨_, written, unread, limit⟩ rest rfl
    rfl
  · rintro origin visible ⟨_, written, unread, limit⟩ rest rfl
    rfl

end

end ContractBinder.Code.Grammar
