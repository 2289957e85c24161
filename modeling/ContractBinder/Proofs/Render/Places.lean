import ContractBinder.Proofs.Render.TypeReferences
import ContractBinder.Proofs.Render.Wrappers

/-!
# Places that the mode decides

Callers of generated code see native types in the one mode and wire types in the other.
The mode decides about two kinds of places only: types that callers see, and parameters
that are encoded. `Renderer.DifferAt` lists these places for two token lists that are the
same everywhere else, and every phrase that code is put together from keeps it.
-/

namespace ContractBinder

open Abi (NativeType TypeNode WireType)
open Code (Token)

/-! ## 1. Places -/

/-- A place of generated code that looks different in the two modes. -/
inductive Exposure where
  /-- A type that callers see. In wire mode it is this wire type. -/
  | type (wire : WireType)
  /-- A parameter whose value is encoded as one of this wire type. -/
  | argument (wire : WireType) (name : String)
  deriving DecidableEq

namespace Renderer

/-- The renderer in native mode, or else in wire mode. -/
def exposing (r : Renderer) (nativeTypes : Bool) : Renderer :=
  { r with nativeTypes }

/-- `r.DifferAt places shown wire`: the tokens of the two modes are the same but for
these places, in this order. A type that callers see is the projection of the wire type
that it is in wire mode, and a parameter is passed on as it is in wire mode only. -/
inductive DifferAt (r : Renderer) : List Exposure → List Token → List Token → Prop
  | same (tokens : List Token) : DifferAt r [] tokens tokens
  | type {wire : WireType} {projected : NativeType} :
      (TypeNode.whole wire).project = .ok projected →
      DifferAt r [.type wire] (r.nativeType projected) (r.wireType wire)
  | argument {wire : WireType} {name : String} {value : List Token} :
      (r.exposing true).Converts wire name value →
      DifferAt r [.argument wire name] value [.name name]
  | append {places others : List Exposure} {shown wire moreShown moreWire : List Token} :
      DifferAt r places shown wire → DifferAt r others moreShown moreWire →
      DifferAt r (places ++ others) (shown ++ moreShown) (wire ++ moreWire)

/-- The same of lists of token lists, one by one. -/
inductive DifferEach (r : Renderer) :
    List Exposure → List (List Token) → List (List Token) → Prop
  | nil : DifferEach r [] [] []
  | cons {places others : List Exposure} {shown wire : List Token}
      {natives wires : List (List Token)} :
      r.DifferAt places shown wire → DifferEach r others natives wires →
      DifferEach r (places ++ others) (shown :: natives) (wire :: wires)

/-- The same of what is rendered in the two modes, or nothing is and the faults are equal. -/
inductive InStep (r : Renderer) (places : List Exposure) :
    Except BindingFault (List Token) → Except BindingFault (List Token) → Prop
  | rendered {shown wire : List Token} :
      r.DifferAt places shown wire → InStep r places (.ok shown) (.ok wire)
  | failed (fault : BindingFault) : InStep r places (.error fault) (.error fault)

variable {r : Renderer} {places others : List Exposure}
  {shown wire moreShown moreWire : List Token} {natives wires : List (List Token)}

/-! ## 2. Phrases -/

theorem DifferAt.around (differ : r.DifferAt places shown wire) (before after : List Token) :
    r.DifferAt places (before ++ shown ++ after) (before ++ wire ++ after) := by
  have whole := ((DifferAt.same before).append differ).append (.same after)
  rwa [List.nil_append, List.append_nil] at whole

theorem DifferAt.behind (differ : r.DifferAt places shown wire) (before : List Token) :
    r.DifferAt places (before ++ shown) (before ++ wire) :=
  (DifferAt.same before).append differ

theorem DifferAt.before (differ : r.DifferAt places shown wire) (after : List Token) :
    r.DifferAt places (shown ++ after) (wire ++ after) := by
  have whole := differ.append (.same after)
  rwa [List.append_nil] at whole

theorem DifferAt.enclosed (differ : r.DifferAt places shown wire) (delimiter : Code.Delimiter) :
    r.DifferAt places (Code.enclose delimiter shown) (Code.enclose delimiter wire) :=
  differ.around [.opening delimiter] [.closing delimiter]

namespace DifferEach

theorem single (differ : r.DifferAt places shown wire) : r.DifferEach places [shown] [wire] := by
  have one := DifferEach.cons differ .nil
  rwa [List.append_nil] at one

theorem same (tokens : List (List Token)) : r.DifferEach [] tokens tokens := by
  induction tokens with
  | nil => exact .nil
  | cons first _ ih => exact .cons (.same first) ih

theorem append {moreNatives moreWires : List (List Token)}
    (each : r.DifferEach places natives wires) (more : r.DifferEach others moreNatives moreWires) :
    r.DifferEach (places ++ others) (natives ++ moreNatives) (wires ++ moreWires) := by
  induction each with
  | nil => exact more
  | cons first _ ih =>
    rw [List.append_assoc]
    exact .cons first ih

/-- Elements that are rendered one by one. -/
theorem map {α : Type} (xs : List α) {place : α → List Exposure}
    {inNative inWire : α → List Token}
    (each : ∀ x, r.DifferAt (place x) (inNative x) (inWire x)) :
    r.DifferEach (xs.flatMap place) (xs.map inNative) (xs.map inWire) := by
  induction xs with
  | nil => exact .nil
  | cons x _ ih => exact .cons (each x) ih

/-- Elements with something put around each that depends on its position only. -/
theorem mapIdx (each : r.DifferEach places natives wires) {put : Nat → List Token → List Token}
    (keeps : ∀ position places shown wire, r.DifferAt places shown wire →
      r.DifferAt places (put position shown) (put position wire)) :
    r.DifferEach places (natives.mapIdx put) (wires.mapIdx put) := by
  induction each generalizing put with
  | nil => exact .nil
  | cons first _ ih =>
    rw [List.mapIdx_cons, List.mapIdx_cons]
    exact .cons (keeps 0 _ _ _ first) (ih fun position => keeps (position + 1))

theorem commaSeparated (each : r.DifferEach places natives wires) :
    r.DifferAt places (Code.commaSeparated natives) (Code.commaSeparated wires) := by
  induction each with
  | nil => exact .same _
  | cons first rest ih =>
    cases rest with
    | nil =>
      rw [Code.commaSeparated_singleton, Code.commaSeparated_singleton, List.append_nil]
      exact first
    | cons _ _ =>
      rw [Code.commaSeparated_cons_cons, Code.commaSeparated_cons_cons]
      exact first.append (ih.behind [Code.mark ','])

theorem commaTerminated (each : r.DifferEach places natives wires) :
    r.DifferAt places (Code.commaTerminated natives) (Code.commaTerminated wires) := by
  induction each with
  | nil => exact .same _
  | cons first _ ih => exact (first.before [Code.mark ',']).append ih

theorem flatten (each : r.DifferEach places natives wires) :
    r.DifferAt places natives.flatten wires.flatten := by
  induction each with
  | nil => exact .same _
  | cons first _ ih => exact first.append ih

theorem call (each : r.DifferEach places natives wires) (function : List Token) :
    r.DifferAt places (Code.call function natives) (Code.call function wires) :=
  (each.commaSeparated.enclosed .paren).behind function

theorem applied (each : r.DifferEach places natives wires) (constructor : List Token) :
    r.DifferAt places (Code.applied constructor natives) (Code.applied constructor wires) :=
  ((each.commaSeparated.behind [Code.mark '<']).behind constructor).before [Code.mark '>']

end DifferEach

theorem DifferAt.typed (differ : r.DifferAt places shown wire) (name : String) :
    r.DifferAt places (Code.typed name shown) (Code.typed name wire) :=
  differ.behind [.name name, Code.mark ':']

theorem DifferAt.closure (differ : r.DifferAt places shown wire) (parameter : List Token) :
    r.DifferAt places (Code.closure parameter shown) (Code.closure parameter wire) :=
  ((differ.enclosed .brace).behind [Code.mark '|']).behind (Code.mark '|' :: parameter)

/-- A method, in which the parameters, the type that is returned and the body differ. -/
theorem DifferAt.methodOf {inParameters inReturned inBody : List Exposure}
    {parameters otherParameters returned otherReturned body otherBody : List Token}
    (receiving : r.DifferAt inParameters parameters otherParameters)
    (returning : r.DifferAt inReturned returned otherReturned)
    (doing : r.DifferAt inBody body otherBody) (name : String) :
    r.DifferAt (inParameters ++ inReturned ++ inBody)
      (Code.methodOf name parameters returned body)
      (Code.methodOf name otherParameters otherReturned otherBody) := by
  have head := ((receiving.enclosed .paren).behind [.name name]).behind
    (Code.word "pub" ++ Code.word "fn")
  exact ((head.before Code.arrow).append returning).append (doing.enclosed .brace)

/-! ## 3. Lists that are rendered -/

/-- Lists are rendered in step if their elements are, so they fail at the same element. -/
theorem mapM_inStep {α : Type} (xs : List α) {place : α → List Exposure}
    {inNative inWire : α → Except BindingFault (List Token)}
    (each : ∀ x, r.InStep (place x) (inNative x) (inWire x)) :
    (∃ natives wires, xs.mapM inNative = .ok natives ∧ xs.mapM inWire = .ok wires ∧
        r.DifferEach (xs.flatMap place) natives wires) ∨
      ∃ fault, xs.mapM inNative = .error fault ∧ xs.mapM inWire = .error fault := by
  induction xs with
  | nil => exact .inl ⟨[], [], rfl, rfl, .nil⟩
  | cons x xs ih =>
    rw [List.mapM_cons, List.mapM_cons]
    have first := each x
    generalize inNative x = shown, inWire x = wire at first ⊢
    cases first with
    | failed fault => exact .inr ⟨fault, rfl, rfl⟩
    | rendered differ =>
      rcases ih with ⟨natives, wires, shown, wire, others⟩ | ⟨fault, shown, wire⟩
      · rw [shown, wire]
        exact .inl ⟨_, _, rfl, rfl, .cons differ others⟩
      · rw [shown, wire]
        exact .inr ⟨fault, rfl, rfl⟩

/-- What is made of a list that is rendered in step. -/
theorem InStep.afterEach {α : Type} (xs : List α) {place : α → List Exposure}
    {inNative inWire : α → Except BindingFault (List Token)}
    {next other : List (List Token) → Except BindingFault (List Token)}
    (each : ∀ x, r.InStep (place x) (inNative x) (inWire x))
    (goesOn : ∀ natives wires, r.DifferEach (xs.flatMap place) natives wires →
      r.InStep places (next natives) (other wires)) :
    r.InStep places (xs.mapM inNative >>= next) (xs.mapM inWire >>= other) := by
  rcases mapM_inStep xs each with
    ⟨natives, wires, shown, wire, differ⟩ | ⟨fault, shown, wire⟩
  · rw [shown, wire]
    exact goesOn natives wires differ
  · rw [shown, wire]
    exact .failed fault

end Renderer

end ContractBinder
