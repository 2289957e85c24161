import ContractBinder.Proofs.Code.Reading.Modules

/-!
# Where members of implementations end

A member ends with a semicolon or with a curly bracket, so it never ends with an attribute that
belongs to the member behind it (`finishes_implementationMember`).
-/

namespace ContractBinder.Code

open Reader

/-- Whether members may end with the token: a semicolon, or a curly bracket. -/
def Token.isFinal : Token → Bool
  | .mark symbol _ => symbol == ';'
  | .closing delimiter => delimiter == .brace
  | _ => false

/-- What the reader takes ends with a token with which members may end. -/
def Finishes {α : Type} (reader : Reader α) : Prop :=
  ∀ before result after, ClosesEach before.rest → reader before = .ok (result, after) →
    ∃ taken token, before.rest = taken ++ token :: after.rest ∧ token.isFinal = true

theorem takeAnyBrackets_ok {delimiter : Delimiter} {before after : Progress}
    (closes : ClosesEach before.rest) (done : takeAnyBrackets before = .ok (delimiter, after)) :
    ∃ held, before.rest = .opening delimiter :: held ++ .closing delimiter :: after.rest := by
  obtain ⟨origin, _, found, done⟩ := bind_ok done
  cases found
  cases next : before.rest with
  | nil =>
    rw [next] at done
    cases done
  | cons token inside =>
    rw [next] at done
    cases token with
    | opening found =>
      obtain ⟨held, rest, rfl, matched⟩ := closes found inside (next ▸ List.suffix_refl _)
      simp only [matched.afterBrackets_closing] at done
      cases done
      exact ⟨held, rfl⟩
    | name | mark | text | number | literal | closing | doc => cases done

variable {α β : Type} {reader first second : Reader α} {next : α → Reader β}

namespace Finishes

theorem bindGood {good : α → Prop} (yields : ∀ here, Yields (Step true here) good reader)
    (later : ∀ value, good value → Finishes (next value)) : Finishes (reader >>= next) := by
  intro before result after closes done
  obtain ⟨value, between, one, two⟩ := bind_ok done
  obtain ⟨step, isGood⟩ := yields before before value between one (Step.refl closes)
  obtain ⟨taken, _, whole⟩ := step.taken
  obtain ⟨more, token, behind, final⟩ :=
    later value isGood between result after step.closes_rest two
  exact ⟨taken ++ more, token, by rw [whole, behind, List.append_assoc], final⟩

theorem bind (keeps : ∀ here, Keeps (Step true here) reader)
    (later : ∀ value, Finishes (next value)) : Finishes (reader >>= next) :=
  bindGood (fun here => (keeps here).yields) fun value _ => later value

/-- Nothing is taken behind the end. -/
theorem stays (finishes : Finishes reader)
    (same : ∀ value before result after, next value before = .ok (result, after) →
      after.rest = before.rest) : Finishes (reader >>= next) := by
  intro before result after closes done
  obtain ⟨value, between, one, two⟩ := bind_ok done
  rw [same value between result after two]
  exact finishes before value between closes one

theorem ite {condition : Prop} [Decidable condition] (yes : condition → Finishes first)
    (no : ¬condition → Finishes second) : Finishes (if condition then first else second) := by
  split
  · exact yes ‹_›
  · exact no ‹_›

theorem missingAny (signs : List Sign) : Finishes (missingAny signs : Reader α) := by
  intro before result after _ done
  cases done

theorem brackets (keeps : ∀ here, Keeps (Step true here) reader) :
    Finishes (brackets .brace reader) := by
  intro before result after closes done
  obtain ⟨held, whole, _⟩ := Step.brackets true keeps closes done
  exact ⟨.opening .brace :: held, .closing .brace, whole, rfl⟩

theorem semicolon : Finishes (take (.mark ";")) := by
  intro before result after _ done
  obtain ⟨starts, rfl⟩ := take_mark_ok done
  obtain ⟨joint, rest, next⟩ := exists_mark_of_startsOperatorOf starts
  refine ⟨[], .mark ';' joint, ?_, rfl⟩
  rw [next]
  rfl

end Finishes

namespace Grammar

variable {nested : Nested} {origin : Progress} {condition : Prop} [Decidable condition]

theorem rest_of_copySince {before after : Progress} {result : Unit}
    (done : (if condition then copySince origin else pure ()) before = .ok (result, after)) :
    after.rest = before.rest := by
  split at done <;> (cases done; rfl)

section

variable (inner : NestedKeeps nested)

include inner

theorem finishes_attributedBlock : Finishes (attributedBlock nested) :=
  .brackets fun _ => .bind (keeps_innerAttributes inner) fun _ => .discard (inner.any _ _)

theorem finishes_function : Finishes (function nested origin) := by
  refine .bind (fun _ => keeps_signature inner) fun _ before result after closes done => ?_
  obtain ⟨ended, between, one, two⟩ := bind_ok done
  cases ended with
  | false =>
    rw [(accept_ok one).2 rfl] at two
    exact finishes_attributedBlock inner before result after closes two
  | true =>
    cases two
    exact Finishes.semicolon before () between closes (take_of_accept one)

theorem finishes_constant (needsValue : Bool) : Finishes (constant nested origin needsValue) := by
  have ended (generic valued : Bool) : Finishes (do
      let required ← comes (.word "where")
      requirements nested
      take (.mark ";")
      if generic || needsValue && !valued || required then copySince origin) :=
    .bind (fun _ => .comes _) fun _ => .bind (fun _ => keeps_requirements inner) fun _ =>
      .stays .semicolon fun _ _ _ _ => rest_of_copySince
  exact .bind (fun _ => .take rfl) fun _ => .bind (fun _ => .takeAny rfl) fun _ =>
    .bind (fun _ => .comes _) fun _ => .bind (fun _ => keeps_parameters inner) fun _ =>
    .bind (fun _ => .take rfl) fun _ => .bind (fun _ => inner.type.discard) fun _ =>
    .bind (fun _ => .accept rfl) fun _ =>
    .ite (fun _ => .bind (fun _ => inner.expression.discard) fun _ => ended _ _) fun _ => ended _ _

theorem finishes_typeName (early late : Bool) : Finishes (typeName nested early late) := by
  have required {here : Progress} : Keeps (Step true here) (requirements nested) :=
    keeps_requirements inner
  have ended (bounded defined : Bool) : Finishes (do
      take (.mark ";")
      return (⟨bounded, defined⟩ : TypeParts)) :=
    .stays .semicolon fun _ _ _ _ done => by cases done; rfl
  have later (bounded defined given : Bool) : Finishes (do
      if late && !given then requirements nested
      take (.mark ";")
      return (⟨bounded, defined⟩ : TypeParts)) :=
    .ite (fun _ => .bind (fun _ => required) fun _ => ended _ _) fun _ => ended _ _
  have defined (bounded given : Bool) : Finishes (do
      let defined ← accept (.mark "=")
      if defined then discard nested.type
      if late && !given then requirements nested
      take (.mark ";")
      return (⟨bounded, defined⟩ : TypeParts)) :=
    .bind (fun _ => .accept rfl) fun _ => .ite
      (fun _ => .bind (fun _ => inner.type.discard) fun _ => later _ _ _) fun _ => later _ _ _
  have started (bounded : Bool) : Finishes (do
      let required := early && (← comes (.word "where"))
      if early then requirements nested
      let defined ← accept (.mark "=")
      if defined then discard nested.type
      if late && !required then requirements nested
      take (.mark ";")
      return (⟨bounded, defined⟩ : TypeParts)) :=
    .bind (fun _ => .comes _) fun _ => .ite
      (fun _ => .bind (fun _ => required) fun _ => defined _ _) fun _ => defined _ _
  refine .bind (fun _ => .take rfl) fun _ => .bind (fun _ => .take rfl) fun _ =>
    .bind (fun _ => keeps_parameters inner) fun _ =>
    .bindGood (fun _ => .written fun _ => .accept rfl)
    fun _ colon => .ite (fun _ => ?_) fun _ => started _
  refine .bindGood (fun _ => .written fun _ => keeps_namedBounds inner _) fun _ bounds =>
    .ite (fun _ => ?_) fun _ => started _
  exact .bind (fun _ => .write (colon.append bounds)) fun _ => started _

omit inner in
theorem finishes_macroItem (nameable : Bool) : Finishes (macroItem nameable) := by
  have argument : Finishes (do
      if (← takeAnyBrackets) ≠ .brace then take (.mark ";")) := by
    intro before result after closes done
    obtain ⟨delimiter, between, one, two⟩ := bind_ok done
    obtain ⟨held, next⟩ := takeAnyBrackets_ok closes one
    split at two
    · have behind : Step true before between :=
        Keeps.takeAnyBrackets before delimiter between one (Step.refl closes)
      obtain ⟨taken, token, ended, final⟩ :=
        Finishes.semicolon between result after behind.closes_rest two
      refine ⟨.opening delimiter :: held ++ .closing delimiter :: taken, token, ?_, final⟩
      rw [next, ended]
      simp
    · cases two
      refine ⟨.opening delimiter :: held, .closing delimiter, next, ?_⟩
      rename_i brace
      rw [not_not.mp brace]
      rfl
  exact .bind (fun _ => keeps_modulePath) fun _ => .bind (fun _ => .take rfl) fun _ =>
    .ite (fun _ => .bind (fun _ => .discard (.acceptAny rfl)) fun _ => argument) fun _ => argument

theorem finishes_implementationMember : Finishes (implementationMember nested) := by
  have described (here : Progress) (visible preset : Bool) : Finishes (do
      if ← comesFunction then function nested here
      else if ← comes (.word "const") then constant nested here true
      else if ← comes (.word "type") then
        let parts ← typeName nested false true
        if parts.bounded || !parts.defined then copySince here
      else if !visible && !preset && (← comesAny macroStarts) then macroItem false
      else
        let starts : List Sign := [.word "fn", .word "const", .word "type"]
        missingAny ((if preset then [] else [.word "default"]) ++ starts ++
          if visible || preset then [] else macroStarts)) :=
    .bind (fun _ => keeps_comesFunction) fun _ => .ite (fun _ => finishes_function inner) fun _ =>
      .bind (fun _ => .comes _) fun _ => .ite (fun _ => finishes_constant inner true) fun _ =>
      .bind (fun _ => .comes _) fun _ => .ite (fun _ => .stays (finishes_typeName inner false true)
        fun _ _ _ _ => rest_of_copySince) fun _ => .bind (fun _ => .comesAny _) fun _ =>
      .ite (fun _ => finishes_macroItem false) fun _ => .missingAny _
  refine .bind (fun _ => .get) fun here => .bind (fun _ => (keeps_outerAttributes inner).discard)
    fun _ => .bind (fun _ => .comes _) fun visible => .bind (fun _ => keeps_visibility) fun _ =>
    .bind (fun _ => keeps_comesPreset) fun preset => .ite (fun _ => ?_) fun _ => described _ _ _
  exact .bind (fun _ => .take rfl) fun _ => described _ _ _

end

end Grammar

end ContractBinder.Code
