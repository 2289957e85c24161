import ContractBinder.Abi.Entry
import ContractBinder.Abi.NativeType
import ContractBinder.Fault
import ContractBinder.Naming.Registry
import ContractBinder.Naming.Sanitize

/-!
Parameter lists: their types projected, and their names made distinct identifiers.
-/

namespace ContractBinder

open Abi (NativeType Parameter)

/-- The caller's type that a projection gives. -/
def projection (projected : Except String NativeType) :
    Except BindingFault { native : NativeType // projected = .ok native } :=
  match projected with
  | .ok native => .ok ⟨native, rfl⟩
  | .error container => .error (.unsupportedType container)

/-- The names of a parameter list before they are made distinct. -/
def sanitizedNames (parameters : List Parameter) : List String :=
  parameters.mapIdx fun index parameter => Naming.sanitize parameter.name index

/-- Names for a parameter list that differ from each other and from the reserved ones. -/
def distinctNames (reserved : List String) (parameters : List Parameter) : List String :=
  ((Naming.Registry.empty.reserveAll reserved).uniqueAll (sanitizedNames parameters)).1

/-- Makes something of each parameter and the name that it gets. -/
def makeEach {α : Type} (reserved : List String)
    (make : String → Parameter → Except BindingFault α) (parameters : List Parameter) :
    Except BindingFault (List α) :=
  ((distinctNames reserved parameters).zip parameters).mapM fun (name, parameter) =>
    make name parameter

end ContractBinder
