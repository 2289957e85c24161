import Mathlib.Data.List.Forall2
import Mathlib.Data.List.Perm.Basic
import ContractBinder.Logged

/-!
# Outcomes of computations

When a computation put together from others has a value, and when it fails. Two
computations that are put together in the same way stay paired (`Paired.bind`,
`Paired.mapM`), and a run over a list keeps whatever each of its steps keeps
(`foldlM_invariant`).
-/

namespace ContractBinder

variable {α β γ δ ε : Type}

/-! ## 1. Computations that may fail -/

namespace Outcome

theorem map_eq_ok_iff {f : α → β} {x : Except ε α} {b : β} :
    x.map f = .ok b ↔ ∃ a, x = .ok a ∧ f a = b := by
  cases x <;> simp [Except.map]

theorem map_eq_error_iff {f : α → β} {x : Except ε α} {e : ε} :
    x.map f = .error e ↔ x = .error e := by
  cases x <;> simp [Except.map]

theorem mapError_eq_ok_iff {f : ε → δ} {x : Except ε α} {a : α} :
    x.mapError f = .ok a ↔ x = .ok a := by
  cases x <;> simp [Except.mapError]

theorem mapError_eq_error_iff {f : ε → δ} {x : Except ε α} {d : δ} :
    x.mapError f = .error d ↔ ∃ e, x = .error e ∧ f e = d := by
  cases x <;> simp [Except.mapError]

theorem bind_eq_ok_iff {x : Except ε α} {f : α → Except ε β} {b : β} :
    x >>= f = .ok b ↔ ∃ a, x = .ok a ∧ f a = .ok b := by
  cases x <;> simp [bind, Except.bind]

theorem bind_eq_error_iff {x : Except ε α} {f : α → Except ε β} {e : ε} :
    x >>= f = .error e ↔ x = .error e ∨ ∃ a, x = .ok a ∧ f a = .error e := by
  cases x <;> simp [bind, Except.bind]

theorem toOption_eq_some_iff {x : Except ε α} {a : α} : x.toOption = some a ↔ x = .ok a := by
  cases x <;> simp [Except.toOption]

theorem toOption_eq_none_iff {x : Except ε α} : x.toOption = none ↔ ∃ e, x = .error e := by
  cases x <;> simp [Except.toOption]

theorem not_exists_eq_ok_iff {x : Except ε α} : (¬ ∃ a, x = .ok a) ↔ ∃ e, x = .error e := by
  cases x <;> simp

/-- Every element of a list has a value, and these are the values in order. -/
theorem mapM_eq_ok_iff {f : α → Except ε β} {xs : List α} {ys : List β} :
    xs.mapM f = .ok ys ↔ List.Forall₂ (fun x y => f x = .ok y) xs ys := by
  induction xs generalizing ys with
  | nil =>
    rw [List.mapM_nil, List.forall₂_nil_left_iff]
    exact ⟨fun h => by cases h; rfl, fun h => by subst h; rfl⟩
  | cons x xs ih =>
    rw [List.mapM_cons, List.forall₂_cons_left_iff, bind_eq_ok_iff]
    constructor
    · rintro ⟨y, first, later⟩
      obtain ⟨others, rest, same⟩ := bind_eq_ok_iff.mp later
      cases same
      exact ⟨y, others, first, ih.mp rest, rfl⟩
    · rintro ⟨y, others, first, rest, rfl⟩
      exact ⟨y, first, bind_eq_ok_iff.mpr ⟨others, ih.mpr rest, rfl⟩⟩

theorem exists_mapM_eq_ok {f : α → Except ε β} {xs : List α} (each : ∀ x ∈ xs, ∃ y, f x = .ok y) :
    ∃ ys, xs.mapM f = .ok ys := by
  induction xs with
  | nil => exact ⟨[], rfl⟩
  | cons x xs ih =>
    obtain ⟨y, first⟩ := each x List.mem_cons_self
    obtain ⟨ys, rest⟩ := ih fun x' member => each x' (List.mem_cons_of_mem x member)
    exact ⟨y :: ys, mapM_eq_ok_iff.mpr (.cons first (mapM_eq_ok_iff.mp rest))⟩

theorem exists_eq_ok_of_mapM {f : α → Except ε β} {xs : List α} {ys : List β}
    (h : xs.mapM f = .ok ys) : ∀ x ∈ xs, ∃ y, f x = .ok y := by
  have each := mapM_eq_ok_iff.mp h
  clear h
  induction each with
  | nil => exact fun _ member => absurd member List.not_mem_nil
  | cons first _ ih => exact List.forall_mem_cons.mpr ⟨⟨_, first⟩, ih⟩

theorem forall_mem_of_mapM {f : α → Except ε β} {xs : List α} {ys : List β} {p : β → Prop}
    (h : xs.mapM f = .ok ys) (each : ∀ x ∈ xs, ∀ y, f x = .ok y → p y) : ∀ y ∈ ys, p y := by
  have paired := mapM_eq_ok_iff.mp h
  clear h
  induction paired with
  | nil => exact List.forall_mem_nil _
  | cons first _ ih =>
    obtain ⟨one, later⟩ := List.forall_mem_cons.mp each
    exact List.forall_mem_cons.mpr ⟨one _ first, ih later⟩

/-- What is read off each value can be read off as soon as there is one. -/
theorem map_mapM {f : α → Except ε β} {read : β → γ} {xs : List α} :
    (xs.mapM f).map (List.map read) = xs.mapM fun x => (f x).map read := by
  induction xs with
  | nil => rfl
  | cons x xs ih =>
    rw [List.mapM_cons, List.mapM_cons, ← ih]
    cases f x with
    | error e => rfl
    | ok y => cases xs.mapM f <;> rfl

/-- The elements have their values in whatever order they come. -/
theorem mapM_perm {f : α → Except ε β} {xs others : List α} {ys : List β}
    (same : others.Perm xs) (h : xs.mapM f = .ok ys) :
    ∃ zs, others.mapM f = .ok zs ∧ zs.Perm ys := by
  obtain ⟨zs, paired, perm⟩ := List.perm_comp_forall₂ same (mapM_eq_ok_iff.mp h)
  exact ⟨zs, mapM_eq_ok_iff.mpr paired, perm⟩

/-- A list fails with the fault of its first element that fails. -/
theorem mapM_eq_error_iff {f : α → Except ε β} {xs : List α} {e : ε} :
    xs.mapM f = .error e ↔
      ∃ before x after, xs = before ++ x :: after ∧ (∀ y ∈ before, ∃ b, f y = .ok b) ∧
        f x = .error e := by
  induction xs with
  | nil =>
    constructor
    · intro failed
      cases failed
    · rintro ⟨before, x, after, split, _⟩
      exact absurd split.symm (List.append_ne_nil_of_right_ne_nil before (List.cons_ne_nil x after))
  | cons x xs ih =>
    rw [List.mapM_cons, bind_eq_error_iff]
    constructor
    · rintro (first | ⟨b, first, later⟩)
      · exact ⟨[], x, xs, rfl, fun _ member => absurd member List.not_mem_nil, first⟩
      · rcases bind_eq_error_iff.mp later with rest | ⟨_, _, same⟩
        · obtain ⟨before, y, after, rfl, values, fails⟩ := ih.mp rest
          exact ⟨x :: before, y, after, rfl, List.forall_mem_cons.mpr ⟨⟨b, first⟩, values⟩, fails⟩
        · cases same
    · rintro ⟨before, y, after, split, values, fails⟩
      cases before with
      | nil =>
        cases split
        exact .inl fails
      | cons _ before =>
        cases split
        obtain ⟨⟨b, first⟩, others⟩ := List.forall_mem_cons.mp values
        have rest := ih.mpr ⟨before, y, after, rfl, others, fails⟩
        exact .inr ⟨b, first, bind_eq_error_iff.mpr (.inl rest)⟩

/-- If a list fails, one of its elements does. -/
theorem exists_of_mapM_eq_error {f : α → Except ε β} {xs : List α} {e : ε}
    (h : xs.mapM f = .error e) : ∃ x ∈ xs, f x = .error e := by
  induction xs with
  | nil => cases h
  | cons x xs ih =>
    rw [List.mapM_cons] at h
    rcases bind_eq_error_iff.mp h with first | ⟨y, _, later⟩
    · exact ⟨x, List.mem_cons_self, first⟩
    · rcases bind_eq_error_iff.mp later with rest | ⟨_, _, same⟩
      · obtain ⟨x', member, fails⟩ := ih rest
        exact ⟨x', List.mem_cons_of_mem x member, fails⟩
      · cases same

/-- Two computations have values that are related, or fail with the same fault. -/
inductive Paired (related : α → β → Prop) : Except ε α → Except ε β → Prop
  | ok {a : α} {b : β} : related a b → Paired related (.ok a) (.ok b)
  | error (e : ε) : Paired related (.error e) (.error e)

namespace Paired

variable {related : α → β → Prop}

theorem bind {further : γ → δ → Prop} {x : Except ε α} {y : Except ε β} {f : α → Except ε γ}
    {g : β → Except ε δ} (paired : Paired related x y)
    (next : ∀ a b, related a b → Paired further (f a) (g b)) :
    Paired further (x >>= f) (y >>= g) := by
  cases paired with
  | ok values => exact next _ _ values
  | error e => exact .error e

theorem mapM {xs : List γ} {f : γ → Except ε α} {g : γ → Except ε β}
    (each : ∀ x, Paired related (f x) (g x)) :
    Paired (List.Forall₂ related) (xs.mapM f) (xs.mapM g) := by
  induction xs with
  | nil => exact .ok .nil
  | cons x xs ih =>
    rw [List.mapM_cons, List.mapM_cons]
    exact (each x).bind fun _ _ first => ih.bind fun _ _ others => .ok (.cons first others)

end Paired

end Outcome

/-! ## 2. Computations that also say something -/

namespace Logged

theorem bind_outcome (first : Logged ε α) (next : α → Logged ε β) :
    (first >>= next).outcome = first.outcome >>= fun a => (next a).outcome := by
  obtain ⟨records, outcome⟩ := first
  cases outcome <;> rfl

theorem bind_outcome_eq_ok_iff {first : Logged ε α} {next : α → Logged ε β} {b : β} :
    (first >>= next).outcome = .ok b ↔
      ∃ a, first.outcome = .ok a ∧ (next a).outcome = .ok b := by
  rw [bind_outcome]
  exact Outcome.bind_eq_ok_iff

theorem bind_outcome_eq_error_iff {first : Logged ε α} {next : α → Logged ε β} {e : ε} :
    (first >>= next).outcome = .error e ↔
      first.outcome = .error e ∨ ∃ a, first.outcome = .ok a ∧ (next a).outcome = .error e := by
  rw [bind_outcome]
  exact Outcome.bind_eq_error_iff

theorem mapFailure_outcome_eq_ok_iff {change : ε → δ} {first : Logged ε α} {a : α} :
    (first.mapFailure change).outcome = .ok a ↔ first.outcome = .ok a :=
  Outcome.mapError_eq_ok_iff

theorem mapFailure_outcome_eq_error_iff {change : ε → δ} {first : Logged ε α} {d : δ} :
    (first.mapFailure change).outcome = .error d ↔
      ∃ e, first.outcome = .error e ∧ change e = d :=
  Outcome.mapError_eq_error_iff

theorem bind_warnings_of_ok {first : Logged ε α} {a : α} (ok : first.outcome = .ok a)
    (next : α → Logged ε β) : (first >>= next).warnings = first.warnings ++ (next a).warnings := by
  obtain ⟨records, outcome⟩ := first
  cases ok
  rw [bind_ok, warnings, List.filter_append, List.map_append]
  rfl

theorem bind_warnings_of_error {first : Logged ε α} {e : ε} (failed : first.outcome = .error e)
    (next : α → Logged ε β) : (first >>= next).warnings = first.warnings := by
  obtain ⟨records, outcome⟩ := first
  cases failed
  rfl

/-- What holds at the start and is kept by every step that has a value holds at
the end of a run that has a value. -/
theorem foldlM_invariant {step : β → α → Logged ε β} {Inv : β → Prop} {xs : List α}
    {start last : β}
    (keeps : ∀ state x next, x ∈ xs → Inv state → (step state x).outcome = .ok next → Inv next)
    (initial : Inv start) (run : (xs.foldlM step start).outcome = .ok last) : Inv last := by
  induction xs generalizing start with
  | nil =>
    rw [List.foldlM_nil] at run
    cases run
    exact initial
  | cons x xs ih =>
    rw [List.foldlM_cons] at run
    obtain ⟨next, stepped, rest⟩ := bind_outcome_eq_ok_iff.mp run
    refine ih (fun state y after member => keeps state y after (List.mem_cons_of_mem x member)) ?_
      rest
    exact keeps start x next List.mem_cons_self initial stepped

/-- A run that fails fails at one of its steps. -/
theorem exists_of_foldlM_eq_error {step : β → α → Logged ε β} {xs : List α} {start : β} {e : ε}
    (run : (xs.foldlM step start).outcome = .error e) :
    ∃ x ∈ xs, ∃ state, (step state x).outcome = .error e := by
  induction xs generalizing start with
  | nil =>
    rw [List.foldlM_nil] at run
    cases run
  | cons x xs ih =>
    rw [List.foldlM_cons] at run
    rcases bind_outcome_eq_error_iff.mp run with first | ⟨next, _, rest⟩
    · exact ⟨x, List.mem_cons_self, start, first⟩
    · obtain ⟨y, member, state, fails⟩ := ih rest
      exact ⟨y, List.mem_cons_of_mem x member, state, fails⟩

end Logged

end ContractBinder
