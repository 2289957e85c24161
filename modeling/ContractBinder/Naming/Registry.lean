/-!
Names that are distinct within one scope. The first request for a name gets it as it is; later ones
get a numbered name. Each name carries the number from which the next search goes on.
-/

namespace ContractBinder.Naming

/-- The taken names with the last number tried behind each. A later pair for a name is hidden by an
earlier one. -/
structure Registry where
  counters : List (String × Nat)
  deriving DecidableEq, Repr

namespace Registry

def empty : Registry := ⟨[]⟩

/-- The number last tried behind a taken name. -/
def counter? (registry : Registry) (name : String) : Option Nat :=
  registry.counters.lookup name

def isTaken (registry : Registry) (name : String) : Bool :=
  (registry.counter? name).isSome

/-- Takes a name, unless it is taken already. -/
def reserve (registry : Registry) (name : String) : Registry :=
  if registry.isTaken name then registry else ⟨(name, 0) :: registry.counters⟩

def reserveAll (registry : Registry) (names : List String) : Registry :=
  names.foldl reserve registry

/-- A name with a number behind it. -/
def numbered (base : String) (number : Nat) : String :=
  base ++ "_" ++ Nat.repr number

/-- The first number from `start` on, among `bound` of them, whose numbered name is free. -/
def seek (registry : Registry) (base : String) : Nat → Nat → Nat
  | 0, start => start
  | bound + 1, start =>
    if registry.isTaken (numbered base start) then registry.seek base bound (start + 1) else start

/-- The first number from `start` on whose numbered name is free. More numbers are tried than names
are taken, so one of them is free. -/
def firstFree (registry : Registry) (base : String) (start : Nat) : Nat :=
  registry.seek base (registry.counters.length + 1) start

/-- Notes the number last tried behind a name. -/
def setCounter (registry : Registry) (name : String) (number : Nat) : Registry :=
  ⟨(name, number) :: registry.counters⟩

/-- A name for `base` that is taken from now on and was not before. -/
def unique (registry : Registry) (base : String) : String × Registry :=
  match registry.counter? base with
  | none => (base, registry.reserve base)
  | some last =>
    let number := registry.firstFree base (last + 1)
    let name := numbered base number
    (name, (registry.setCounter base number).reserve name)

/-- Names for several bases, one after the other. -/
def uniqueAll (registry : Registry) : List String → List String × Registry
  | [] => ([], registry)
  | base :: others =>
    let (name, next) := registry.unique base
    let (names, last) := next.uniqueAll others
    (name :: names, last)

end Registry

end ContractBinder.Naming
