import ContractBinder.Binding.Function

/-!
# Call shapes

The shape of a method as a relation with a case for each shape (`selects_iff`), so that
proofs about shapes are case analyses.
-/

namespace ContractBinder

open Abi (Mutability WireType)

namespace CallShape

variable {mutability : Mutability} {outputs : List WireType} {shape : CallShape}

/-- `Selects mutability outputs shape`: methods of this mutability with these outputs have
this shape. The outputs matter to methods that only read. -/
inductive Selects (mutability : Mutability) : List WireType → CallShape → Prop
  | transaction {outputs : List WireType} :
      mutability = .normal → Selects mutability outputs .transaction
  | transactionPayable {outputs : List WireType} :
      mutability = .payable → Selects mutability outputs .transactionPayable
  | constantVoid : mutability.isReadOnly = true → Selects mutability [] .constantVoid
  | constantSingle {output : WireType} :
      mutability.isReadOnly = true → output.isArray = false →
      Selects mutability [output] .constantSingle
  | constantRawCollection {output : WireType} :
      mutability.isReadOnly = true → output.isArray = true →
      Selects mutability [output] .constantRawCollection
  | constantTuple {first second : WireType} {others : List WireType} :
      mutability.isReadOnly = true →
      Selects mutability (first :: second :: others) (.constantTuple (others.length + 2))

/-- Methods that only read are alike. -/
theorem select_of_isReadOnly (readOnly : mutability.isReadOnly = true) :
    select mutability outputs = select .view outputs := by
  cases mutability with
  | pure | view => rfl
  | payable | normal => cases readOnly

theorem select_singleton (output : WireType) :
    select .view [output] = if output.isArray then .constantRawCollection else .constantSingle :=
  rfl

theorem selects_of_isReadOnly (readOnly : mutability.isReadOnly = true) :
    Selects mutability outputs (select mutability outputs) := by
  rw [select_of_isReadOnly readOnly]
  match outputs with
  | [] => exact .constantVoid readOnly
  | [output] =>
    rw [select_singleton]
    split
    · next array => exact .constantRawCollection readOnly array
    · next noArray => exact .constantSingle readOnly (Bool.eq_false_iff.mpr noArray)
  | _ :: _ :: _ => exact .constantTuple readOnly

theorem selects_iff : Selects mutability outputs shape ↔ select mutability outputs = shape := by
  constructor
  · intro selected
    cases selected with
    | transaction normal => rw [normal]; rfl
    | transactionPayable payable => rw [payable]; rfl
    | constantVoid readOnly => exact select_of_isReadOnly readOnly
    | constantSingle readOnly noArray =>
      rw [select_of_isReadOnly readOnly, select_singleton, noArray, if_neg Bool.false_ne_true]
    | constantRawCollection readOnly array =>
      rw [select_of_isReadOnly readOnly, select_singleton, array, if_pos rfl]
    | constantTuple readOnly => exact select_of_isReadOnly readOnly
  · rintro rfl
    cases mutability with
    | normal => exact .transaction rfl
    | payable => exact .transactionPayable rfl
    | pure | view => exact selects_of_isReadOnly rfl

end CallShape

end ContractBinder
