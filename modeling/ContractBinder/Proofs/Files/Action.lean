import ContractBinder.Files.Action
import ContractBinder.Proofs.Outcome

/-!
# How actions end

`action.Ends before outcome after` forgets what an action says and keeps how it ends: its
outcome and the file system after it. A sequence of two actions ends as its first one
does if that fails, and otherwise as the second one does from there.

An action repeats itself (`Repeats`) on a file system from which it says and returns what
it did before, and which it leaves as it is. A sequence does if both its actions do.
-/

namespace ContractBinder.Files.Action

variable {ε δ α β : Type} {before after : FileSystem}

def Ends (action : Action ε α) (before : FileSystem) (outcome : Except ε α)
    (after : FileSystem) : Prop :=
  (action before).1.outcome = outcome ∧ (action before).2 = after

theorem ends_self (action : Action ε α) (before : FileSystem) :
    action.Ends before (action before).1.outcome (action before).2 :=
  ⟨rfl, rfl⟩

/-- What is known of the value with which an action ends. -/
theorem exists_ends_of_map {action : Action ε α} {f : α → β} {b : β}
    (succeeds : (action before).1.outcome.toOption.map f = some b) :
    ∃ a, action.Ends before (.ok a) (action before).2 ∧ f a = b := by
  obtain ⟨a, ended, same⟩ := Option.map_eq_some_iff.mp succeeds
  exact ⟨a, ⟨Outcome.toOption_eq_some_iff.mp ended, rfl⟩, same⟩

theorem exists_ends_of_mapError {action : Action ε α} {f : ε → δ} {d : δ}
    (fails : (action before).1.outcome.mapError f = .error d) :
    ∃ e, action.Ends before (.error e) (action before).2 ∧ f e = d := by
  obtain ⟨e, ended, same⟩ := Outcome.mapError_eq_error_iff.mp fails
  exact ⟨e, ⟨ended, rfl⟩, same⟩

theorem ends_pure_iff {a : α} {outcome : Except ε α} :
    (pure a : Action ε α).Ends before outcome after ↔ outcome = .ok a ∧ after = before := by
  rw [eq_comm, @eq_comm _ after]
  exact Iff.rfl

theorem ends_ofLogged_iff {computed : Logged ε α} {outcome : Except ε α} :
    (ofLogged computed).Ends before outcome after ↔
      computed.outcome = outcome ∧ after = before := by
  rw [@eq_comm _ after]
  exact Iff.rfl

theorem ends_ofExcept_iff {computed outcome : Except ε α} :
    (ofExcept computed).Ends before outcome after ↔ computed = outcome ∧ after = before :=
  ends_ofLogged_iff

theorem ends_look_iff {observe : FileSystem → Except ε α} {outcome : Except ε α} :
    (look observe).Ends before outcome after ↔ observe before = outcome ∧ after = before := by
  rw [@eq_comm _ after]
  exact Iff.rfl

theorem ends_change_ok_iff {attempt : FileSystem → Except ε FileSystem} :
    (change attempt).Ends before (.ok ()) after ↔ attempt before = .ok after := by
  unfold Ends change
  cases attempt before with
  | error e => simp [Logged.failure]
  | ok changed => simp [Logged.value]

theorem ends_change_error_iff {attempt : FileSystem → Except ε FileSystem} {e : ε} :
    (change attempt).Ends before (.error e) after ↔ attempt before = .error e ∧ after = before := by
  unfold Ends change
  cases attempt before with
  | error e => simp [Logged.failure, eq_comm]
  | ok changed => simp [Logged.value]

theorem ends_mapFailure_ok_iff {f : ε → δ} {action : Action ε α} {a : α} :
    (action.mapFailure f).Ends before (.ok a) after ↔ action.Ends before (.ok a) after :=
  and_congr_left fun _ => Outcome.mapError_eq_ok_iff

theorem ends_mapFailure_error_iff {f : ε → δ} {action : Action ε α} {d : δ} :
    (action.mapFailure f).Ends before (.error d) after ↔
      ∃ e, action.Ends before (.error e) after ∧ f e = d := by
  constructor
  · rintro ⟨failed, rfl⟩
    obtain ⟨e, cause, rfl⟩ := Outcome.mapError_eq_error_iff.mp failed
    exact ⟨e, ⟨cause, rfl⟩, rfl⟩
  · rintro ⟨e, ⟨failed, rfl⟩, rfl⟩
    exact ⟨Outcome.mapError_eq_error_iff.mpr ⟨e, failed, rfl⟩, rfl⟩

theorem ends_bind_ok_iff {first : Action ε α} {next : α → Action ε β} {b : β} :
    (first >>= next).Ends before (.ok b) after ↔
      ∃ a middle, first.Ends before (.ok a) middle ∧ (next a).Ends middle (.ok b) after := by
  change Ends (andThen first next) before (.ok b) after ↔ _
  unfold Ends andThen
  obtain ⟨⟨records, outcome⟩, middle⟩ := first before
  cases outcome with
  | error e => simp
  | ok a => simp

theorem ends_bind_error_iff {first : Action ε α} {next : α → Action ε β} {e : ε} :
    (first >>= next).Ends before (.error e) after ↔
      first.Ends before (.error e) after ∨
        ∃ a middle, first.Ends before (.ok a) middle ∧ (next a).Ends middle (.error e) after := by
  change Ends (andThen first next) before (.error e) after ↔ _
  unfold Ends andThen
  obtain ⟨⟨records, outcome⟩, middle⟩ := first before
  cases outcome with
  | error e => simp
  | ok a => simp

/-- A sequence fails with its first action or goes on from where that one ends. -/
theorem ends_bind_cases {first : Action ε α} {next : α → Action ε β} {outcome : Except ε β}
    (done : (first >>= next).Ends before outcome after) :
    (∃ e, first.Ends before (.error e) after ∧ outcome = .error e) ∨
      ∃ a middle, first.Ends before (.ok a) middle ∧ (next a).Ends middle outcome after := by
  cases outcome with
  | ok b => exact .inr (ends_bind_ok_iff.mp done)
  | error e => exact (ends_bind_error_iff.mp done).imp_left fun failed => ⟨e, failed, rfl⟩

/-- The same after a look at the file system. -/
theorem ends_look_bind {observe : FileSystem → Except ε α} {next : α → Action ε β}
    {outcome : Except ε β} (done : (look observe >>= next).Ends before outcome after) :
    (∃ e, observe before = .error e ∧ outcome = .error e ∧ after = before) ∨
      ∃ a, observe before = .ok a ∧ (next a).Ends before outcome after := by
  rcases ends_bind_cases done with ⟨e, failed, rfl⟩ | ⟨a, middle, looked, rest⟩
  · obtain ⟨failed, kept⟩ := ends_look_iff.mp failed
    exact .inl ⟨e, failed, rfl, kept⟩
  · obtain ⟨found, rfl⟩ := ends_look_iff.mp looked
    exact .inr ⟨a, found, rest⟩

/-- The same after a computation that does not touch the file system. -/
theorem ends_ofLogged_bind {computed : Logged ε α} {next : α → Action ε β}
    {outcome : Except ε β} (done : (ofLogged computed >>= next).Ends before outcome after) :
    (∃ e, computed.outcome = .error e ∧ outcome = .error e ∧ after = before) ∨
      ∃ a, computed.outcome = .ok a ∧ (next a).Ends before outcome after := by
  rcases ends_bind_cases done with ⟨e, failed, rfl⟩ | ⟨a, middle, computed_, rest⟩
  · obtain ⟨failed, kept⟩ := ends_ofLogged_iff.mp failed
    exact .inl ⟨e, failed, rfl, kept⟩
  · obtain ⟨found, rfl⟩ := ends_ofLogged_iff.mp computed_
    exact .inr ⟨a, found, rest⟩

theorem ends_ofExcept_bind {computed : Except ε α} {next : α → Action ε β}
    {outcome : Except ε β} (done : (ofExcept computed >>= next).Ends before outcome after) :
    (∃ e, computed = .error e ∧ outcome = .error e ∧ after = before) ∨
      ∃ a, computed = .ok a ∧ (next a).Ends before outcome after :=
  ends_ofLogged_bind done

theorem bind_of_ok {first : Action ε α} {next : α → Action ε β} {records : List Record} {a : α}
    (run : first before = (⟨records, .ok a⟩, after)) :
    (first >>= next) before =
      (⟨records ++ (next a after).1.records, (next a after).1.outcome⟩, (next a after).2) := by
  change andThen first next before = _
  rw [andThen, run]

theorem bind_of_error {first : Action ε α} {next : α → Action ε β} {records : List Record} {e : ε}
    (run : first before = (⟨records, .error e⟩, after)) :
    (first >>= next) before = (⟨records, .error e⟩, after) := by
  change andThen first next before = _
  rw [andThen, run]

theorem bind_pure_self (action : Action ε α) : (action >>= pure) = action := by
  funext fs
  cases run : action fs with
  | mk computed after =>
    obtain ⟨records, outcome⟩ := computed
    cases outcome with
    | error e => exact bind_of_error run
    | ok a =>
      rw [bind_of_ok run]
      change ((⟨records ++ [], .ok a⟩ : Logged ε α), after) = _
      rw [List.append_nil]

theorem bind_bind {γ : Type} (first : Action ε α) (next : α → Action ε β) (last : β → Action ε γ) :
    (first >>= next >>= last) = first >>= fun a => next a >>= last := by
  funext fs
  cases run : first fs with
  | mk computed middle =>
    obtain ⟨records, outcome⟩ := computed
    cases outcome with
    | error e => rw [bind_of_error (bind_of_error run), bind_of_error run]
    | ok a =>
      rw [bind_of_ok run]
      have both : (first >>= next) fs = (⟨records ++ (next a middle).1.records,
          (next a middle).1.outcome⟩, (next a middle).2) := bind_of_ok run
      cases goesOn : next a middle with
      | mk computed after =>
        obtain ⟨more, outcome⟩ := computed
        rw [goesOn] at both
        cases outcome with
        | error e => rw [bind_of_error both, bind_of_error goesOn]
        | ok b => rw [bind_of_ok both, bind_of_ok goesOn, List.append_assoc]

instance : LawfulMonad (Action ε) :=
  LawfulMonad.mk' (Action ε) bind_pure_self (fun _ _ => rfl) bind_bind

/-! ## Actions that repeat themselves -/

/-- The action ends with this value, and from the final file system it says and returns
the same and changes nothing. -/
structure Repeats (action : Action ε α) (before : FileSystem) (a : α)
    (after final : FileSystem) : Prop where
  ends : action.Ends before (.ok a) after
  again : action final = ((action before).1, final)

variable {final middle : FileSystem} {a : α} {b : β}

theorem Repeats.ends_again {action : Action ε α} (repeats : action.Repeats before a after final) :
    action.Ends final (.ok a) final := by
  rw [Ends, repeats.again]
  exact ⟨repeats.ends.1, rfl⟩

theorem repeats_pure : (pure a : Action ε α).Repeats before a before final :=
  ⟨⟨rfl, rfl⟩, rfl⟩

theorem repeats_ofLogged {computed : Logged ε α} (value : computed.outcome = .ok a) :
    (ofLogged computed).Repeats before a before final :=
  ⟨⟨value, rfl⟩, rfl⟩

theorem repeats_ofExcept {computed : Except ε α} (value : computed = .ok a) :
    (ofExcept computed).Repeats before a before final :=
  repeats_ofLogged value

theorem repeats_look {observe : FileSystem → Except ε α} (first : observe before = .ok a)
    (second : observe final = .ok a) : (look observe).Repeats before a before final where
  ends := ⟨first, rfl⟩
  again := by rw [look, look, first, second]

theorem repeats_change {attempt : FileSystem → Except ε FileSystem}
    (first : attempt before = .ok after) (second : attempt final = .ok final) :
    (change attempt).Repeats before () after final where
  ends := ends_change_ok_iff.mpr first
  again := by rw [change, change, first, second]

theorem Repeats.mapFailure {f : ε → δ} {action : Action ε α}
    (repeats : action.Repeats before a after final) :
    (action.mapFailure f).Repeats before a after final where
  ends := ends_mapFailure_ok_iff.mpr repeats.ends
  again := by
    unfold Action.mapFailure
    rw [repeats.again]

theorem Repeats.bind {first : Action ε α} {next : α → Action ε β}
    (once : first.Repeats before a middle final) (then_ : (next a).Repeats middle b after final) :
    (first >>= next).Repeats before b after final where
  ends := ends_bind_ok_iff.mpr ⟨a, middle, once.ends, then_.ends⟩
  again := by
    obtain ⟨⟨outcome, left⟩, again⟩ := once
    cases run : first before with
    | mk computed changed =>
      obtain ⟨records, result⟩ := computed
      rw [run] at outcome left again
      cases left
      cases outcome
      rw [bind_of_ok again, bind_of_ok run, then_.again]

end ContractBinder.Files.Action
