/-!
Computations that may fail and that say what they do. What was said before a failure is kept.
Main statement: a sequence of two computations says what the first says, then what the second says.
-/

namespace ContractBinder

/-- How important a record is. -/
inductive Level where
  | debug
  | info
  | warning
  deriving DecidableEq, Repr

/-- One thing that was said. -/
structure Record where
  level : Level
  message : String
  deriving DecidableEq, Repr

/-- An outcome and what was said on the way to it. -/
structure Logged (ε α : Type) where
  records : List Record
  outcome : Except ε α

namespace Logged

variable {ε α β : Type}

def value (a : α) : Logged ε α := ⟨[], .ok a⟩

def failure (e : ε) : Logged ε α := ⟨[], .error e⟩

/-- Says nothing and has the given outcome. -/
def silent (outcome : Except ε α) : Logged ε α := ⟨[], outcome⟩

def say (level : Level) (message : String) : Logged ε Unit := ⟨[⟨level, message⟩], .ok ()⟩

/-- Goes on with the value of a computation, if it has one. -/
def andThen (first : Logged ε α) (next : α → Logged ε β) : Logged ε β :=
  match first.outcome with
  | .ok a => ⟨first.records ++ (next a).records, (next a).outcome⟩
  | .error e => ⟨first.records, .error e⟩

instance : Monad (Logged ε) where
  pure := value
  bind := andThen

def mapFailure {δ : Type} (change : ε → δ) (first : Logged ε α) : Logged δ α :=
  ⟨first.records, first.outcome.mapError change⟩

def warnings (first : Logged ε α) : List String :=
  (first.records.filter (·.level = .warning)).map (·.message)

@[simp] theorem pure_eq (a : α) : (pure a : Logged ε α) = ⟨[], .ok a⟩ := rfl

@[simp] theorem bind_ok (records : List Record) (a : α) (next : α → Logged ε β) :
    (Logged.mk records (.ok a) >>= next) = ⟨records ++ (next a).records, (next a).outcome⟩ := rfl

@[simp] theorem bind_error (records : List Record) (e : ε) (next : α → Logged ε β) :
    (Logged.mk records (.error e) >>= next) = ⟨records, .error e⟩ := rfl

end Logged

end ContractBinder
