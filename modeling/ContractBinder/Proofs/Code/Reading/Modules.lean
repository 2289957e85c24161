import ContractBinder.Code.Grammar.Reading
import ContractBinder.Proofs.Code.Reading.Items
import ContractBinder.Proofs.Outcome

/-!
# Steps of the readers of whole texts

The readers of all kinds of code make steps, by induction on the depth to which code may be nested
(`nestedKeeps_nestedUpTo`). So a path that is read from a text has matching brackets
(`matched_of_parse`).
-/

namespace ContractBinder.Code

open Reader PathReading

namespace Grammar

variable {nested : Nested} {pubs : Bool} {origin before after : Progress}
  {invariant : Progress → Prop}

/-! ## 1. Statements -/

theorem statementMacro_ok {found : StatementMacro}
    (done : statementMacro before = .ok (found, after)) : after = before := by
  rw [statementMacro, bind_apply (get_apply before)] at done
  obtain ⟨_, tried, _, done⟩ := bind_ok done
  iterate 7 obtain ⟨_, _, _, done⟩ := bind_ok done
  obtain ⟨_, _, found, done⟩ := bind_ok done
  cases found
  split at done
  · cases done
    rfl
  · split at done <;> (cases done; rfl)

theorem keeps_statementMacro : Keeps invariant statementMacro := by
  intro before result after done holds
  rw [statementMacro_ok done]
  exact holds

theorem keeps_comesItem : Keeps invariant comesItem :=
  .looks fun _ => rfl

section

variable (inner : NestedKeeps nested)

include inner

theorem keeps_item : Keeps (Step true origin) (item nested) := by
  obtain ⟨behind, items⟩ := exists_behindItems inner
  rw [items.item]
  exact keeps_publishable inner items.keeps

theorem keeps_itemFrom : Keeps (Step true origin) (itemFrom nested origin) := by
  obtain ⟨behind, items⟩ := exists_behindItems inner
  rw [items.itemFrom]
  exact .bind (.comes _) fun _ => .bind keeps_visibility fun _ =>
    items.keeps Step.lasting .copySince

theorem keeps_localValue : Keeps (Step pubs origin) (localValue nested) := by
  have ended : Keeps (Step pubs origin) (do
      if ← accept (.mark "=") then
        discard nested.expression
        let braced := (← get).written.head? = some (.closing .brace)
        if !braced then
          if ← accept (.word "else") then nested.block
      take (.mark ";")) :=
    .bind (.accept rfl) fun _ => .ite (.bind inner.expression.discard fun _ => .bind .get fun _ =>
      .ite (.bind (.accept rfl) fun _ => .optional inner.block fun _ => .take rfl) (.take rfl))
      (.take rfl)
  exact .bind (.take rfl) fun _ => .bind inner.pattern.discard fun _ => .bind (.accept rfl) fun _ =>
    .optional inner.type.discard fun _ => ended

theorem keeps_statement : Keeps (Step true origin) (statement nested) := by
  refine .fromHere fun here => .bind (keeps_outerAttributes inner).discard fun _ =>
    .bind keeps_statementMacro fun called => ?_
  have other : Keeps (Step true here) (do
      if ← comes (.word "let") then
        localValue nested
        return false
      else if called = .item || (← comesItem) then
        itemFrom nested here
        return false
      else
        let form ← nested .earlyExpression
        let ended ← accept (.mark ";")
        return !(ended || form = .blockLike || form = .bracedMacro)) :=
    .bind (.comes _) fun _ => .ite (.bind (keeps_localValue inner) fun _ => .pure _) <|
      .bind keeps_comesItem fun _ => .ite (.bind (keeps_itemFrom inner) fun _ => .pure _) <|
      .bind (inner.closed _ _ _ rfl) fun _ => .bind (.accept rfl) fun _ => .pure _
  cases called with
  | none | item => exact other
  | whole =>
    exact .bind keeps_modulePath fun _ => .bind (.discard keeps_macroArgument) fun _ =>
      .bind (.discard (.accept rfl)) fun _ => .pure _

theorem keeps_statements : Keeps (Step true origin) (statements nested) := by
  refine .repeatWhile <| .bind (.accept rfl) fun _ => .ite (.pure _) <| .bind .ends fun _ =>
    .ite (.pure _) <| .bind (keeps_statement inner) fun _ => .bind .ends fun _ =>
    .ite (.forbidFirst _) (.pure _)

/-! ## 2. All code -/

theorem keeps_readConstruct {construct : Construct} (closed : construct.isOpen = false) :
    Keeps (Step pubs origin) (readConstruct nested construct) := by
  cases construct with
  | type sums => exact keeps_type inner sums
  | bound captures constants => exact keeps_bound inner captures constants
  | expression records => exact keeps_expression inner records
  | operand records => exact keeps_operand inner records
  | operations first base records =>
    exact .bind .get fun _ => keeps_operationsUpTo inner base records _ first
  | rightOperand precedence records => exact keeps_rightOperand inner precedence records
  | earlyExpression => exact keeps_earlyExpression inner
  | pattern => exact keeps_pattern inner
  | statements | item => cases closed

theorem nestedKeeps_readConstruct : NestedKeeps (readConstruct nested) where
  closed := fun _ _ _ closed => keeps_readConstruct inner closed
  any := by
    intro construct origin
    cases closed : construct.isOpen with
    | false => exact keeps_readConstruct inner closed
    | true =>
      cases construct with
      | statements => exact .bind (keeps_statements inner) fun _ => .pure _
      | item => exact .bind (keeps_item inner) fun _ => .pure _
      | type | bound | expression | operand | operations | rightOperand | earlyExpression
        | pattern => cases closed

end

/-- The readers of all kinds of code make steps, however deeply the code may be nested. -/
theorem nestedKeeps_nestedUpTo (depth : Nat) : NestedKeeps (nestedUpTo depth) := by
  induction depth with
  | zero => exact ⟨fun _ _ => .missing _, fun _ _ _ _ => .missing _⟩
  | succ depth ih => exact nestedKeeps_readConstruct ih

end Grammar

/-! ## 3. Whole texts -/

/-- What is read is read to its end, and nothing is left over in any brackets. -/
theorem readAll_ok {α : Type} {body : Reader α} {tokens wrote : List Token} {result : α}
    (done : readAll body tokens = .ok (result, wrote)) :
    ∃ after, body (start tokens) = .ok (result, after) ∧ after.unread = none ∧ after.rest = [] ∧
      wrote = after.written.reverse := by
  obtain ⟨⟨found, after⟩, read, done⟩ := Outcome.bind_eq_ok_iff.mp done
  simp only at done
  split at done
  · cases done
  · rename_i unread
    split at done
    · cases done
    · rename_i rest
      cases done
      exact ⟨after, read, by simpa using unread, by simpa using rest, rfl⟩

/-- The path that a text is read as has matching brackets. -/
theorem matched_of_parse {text : String} {path : Path} (parsed : Path.parse text = .ok path) :
    Matched true path.tokens := by
  unfold Path.parse at parsed
  split at parsed
  · cases parsed
  · rename_i tokens found
    obtain ⟨⟨_, wrote⟩, done, same⟩ := Outcome.bind_eq_ok_iff.mp parsed
    cases same
    obtain ⟨after, read, _⟩ := readAll_ok done
    have closes : ClosesEach (start (spellDocs tokens)).rest :=
      (matched_of_tokens? found).spellDocs.closes
    have started : Step true (start (spellDocs tokens)) (start (spellDocs tokens)) := .refl closes
    exact (Grammar.yields_path (Grammar.nestedKeeps_nestedUpTo _) false _ _ _ read started).2.tokens

end ContractBinder.Code
