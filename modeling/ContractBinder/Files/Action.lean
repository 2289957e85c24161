import ContractBinder.Files.Tree
import ContractBinder.Logged

/-!
Computations on a file system. They may fail, they say what they do, and changes made before a
failure stay.
-/

namespace ContractBinder.Files

/-- From a file system, an outcome and the file system after it. -/
def Action (ε α : Type) := FileSystem → Logged ε α × FileSystem

namespace Action

variable {ε α β : Type}

/-- Goes on with the value of an action, if it has one. -/
def andThen (first : Action ε α) (next : α → Action ε β) : Action ε β := fun fs =>
  match first fs with
  | (⟨records, .ok a⟩, changed) =>
    let (rest, final) := next a changed
    (⟨records ++ rest.records, rest.outcome⟩, final)
  | (⟨records, .error e⟩, changed) => (⟨records, .error e⟩, changed)

instance : Monad (Action ε) where
  pure a := fun fs => (.value a, fs)
  bind := andThen

/-- A computation that does not touch the file system. -/
def ofLogged (computed : Logged ε α) : Action ε α := fun fs => (computed, fs)

/-- A computation that does not touch the file system and says nothing. -/
def ofExcept (computed : Except ε α) : Action ε α := ofLogged (.silent computed)

/-- Looks at the file system. -/
def look (observe : FileSystem → Except ε α) : Action ε α := fun fs => (.silent (observe fs), fs)

/-- Changes the file system at once, or not at all. -/
def change (attempt : FileSystem → Except ε FileSystem) : Action ε Unit := fun fs =>
  match attempt fs with
  | .ok changed => (.value (), changed)
  | .error e => (.failure e, fs)

def mapFailure {δ : Type} (f : ε → δ) (action : Action ε α) : Action δ α := fun fs =>
  let (computed, changed) := action fs
  (computed.mapFailure f, changed)

end Action

end ContractBinder.Files
