import ContractBinder.Proofs.Binding.Independence
import ContractBinder.Proofs.Binding.Parameters
import ContractBinder.Proofs.Render.Items
import ContractBinder.Proofs.Render.TypeReferences

/-!
# Wrappers

A rendered method encodes what its signature declares. Its parameters, the encoded
arguments, the types of the outputs and what it reads of a result come from separate
lists. They go together position by position. What they look like is written out token by
token.

Results:

1. `Renderer.converts_iff`: how an argument becomes a value of its wire type.
2. `Renderer.calls_of_keeps`: the call that a method makes in its shape.
3. `wrappers_encode_their_signatures`: what a whole method consists of.
-/

namespace ContractBinder

open Abi (Container Entry WireType maxStaticLength)
open Code (Token)

namespace Renderer

/-! ## 1. Arguments -/

/-- `r.Converts wire name value`: the value is of the wire type, and made from the
parameter of this name alone. Where callers see native types, it is converted, and told
the length if the type is an array that is too long for its runtime type to say it. -/
inductive Converts (r : Renderer) : WireType → String → List Token → Prop
  | asIs {wire : WireType} {name : String} :
      r.nativeTypes = false → r.Converts wire name [Token.name name]
  | bounded {element : WireType} {length : Nat} {name : String} :
      r.nativeTypes = true → maxStaticLength < length →
      r.Converts (.fixedArray element length) name
        ([Token.mark '<' false] ++ r.wireType (.fixedArray element length) ++
          [Token.mark '>' false, .mark ':' true, .mark ':' false, .name "bounded", .opening .paren,
            .number length, .mark ',' false, .name name, .closing .paren])
  | converted {wire : WireType} {name : String} :
      r.nativeTypes = true →
      (∀ element length, wire = .fixedArray element length → length ≤ maxStaticLength) →
      r.Converts wire name
        ([Token.mark '<' false] ++ r.wireType wire ++
          [Token.mark '>' false, .mark ':' true, .mark ':' false, .name "from", .opening .paren,
            .name name, .closing .paren])

theorem converts_iff {r : Renderer} {wire : WireType} {name : String} {value : List Token} :
    r.Converts wire name value ↔ value = r.wireValue wire name := by
  unfold wireValue
  constructor
  · rintro (wireTypes | ⟨native, long⟩ | ⟨native, short⟩)
    · rw [wireTypes, if_neg Bool.false_ne_true, Code.word]
    · rw [native, if_pos rfl, boundedLength?_of_long long]
      simp [Code.call, Code.word, Code.numberOf, Code.mark, Code.pathSep, Code.enclose]
    · rw [native, if_pos rfl, boundedLength?_of_short short]
      simp [Code.call, Code.word, Code.mark, Code.pathSep, Code.enclose]
  · rintro rfl
    cases mode : r.nativeTypes with
    | false => exact .asIs mode
    | true =>
      by_cases short : ∀ element length, wire = .fixedArray element length →
          length ≤ maxStaticLength
      · rw [if_pos rfl, boundedLength?_of_short short]
        simpa [Code.call, Code.word, Code.mark, Code.pathSep, Code.enclose]
          using Converts.converted mode short
      · simp only [not_forall, Nat.not_le] at short
        obtain ⟨element, length, rfl, long⟩ := short
        rw [if_pos rfl, boundedLength?_of_long long]
        simpa [Code.call, Code.word, Code.numberOf, Code.mark, Code.pathSep, Code.enclose]
          using Converts.bounded mode long

/-! ## 2. Calls -/

/-- The reads of a result's values, each by its position and as the type that callers see
for the output in this position. -/
def Reads (r : Renderer) (outputs : List Output) (reads : List (List Token)) : Prop :=
  reads.length = outputs.length ∧
    ∀ (position : Nat) (inside : position < outputs.length),
      reads[position]? = some
        ([Token.name "results", .mark '.' false, .name "value", .mark ':' true, .mark ':' false,
            .mark '<' false] ++ r.exposedType outputs[position].wire ++
          [Token.mark '>' false, .opening .paren, .number position, .closing .paren,
            .mark '?' false])

theorem reads_tupleValues (r : Renderer) (outputs : List Output) :
    r.Reads outputs (tupleValues (outputs.map fun output => r.exposedType output.wire)) :=
  ⟨by simp [tupleValues], fun position inside => by
    simp [tupleValues, inside, Code.attempted, Code.call, Code.instantiated, Code.applied,
      Code.dot, Code.word, Code.numberOf, Code.mark, Code.pathSep, Code.enclose]⟩

/-- `r.Calls function returned call`: the method of the function promises a value of the
returned type, and makes this call. The value to transfer is no input, and is passed on
by the call of payable functions only. -/
inductive Calls (r : Renderer) (function : FunctionBinding) : List Token → List Token → Prop
  | transaction :
      function.shape = .transaction → function.valueParam = none →
      r.Calls function (r.item ["TransactionReceipt"])
        (callOnContract [Token.name "execute_remote_call_transaction"] [Token.name "function"])
  | payable {value : String} :
      function.shape = .transactionPayable → function.valueParam = some value →
      value ∉ function.inputs.map Argument.name →
      r.Calls function (r.item ["TransactionReceipt"])
        (callOnContract [Token.name "execute_remote_call_transaction_with_value"]
          [Token.name "function", .mark ',' false, .name value])
  | rawList {output : Output} :
      function.shape = .constantRawCollection → function.valueParam = none →
      function.outputs = [output] → output.wire.isArray = true →
      r.Calls function
        (Code.absolute ["std", "vec", "Vec"] ++ [Token.mark '<' false] ++ r.item ["NativeValue"] ++
          [Token.mark '>' false])
        (callOnContract [Token.name "execute_remote_call_raw_list"] [Token.name "function"])
  | single {output : Output} :
      function.shape = .constantSingle → function.valueParam = none →
      function.outputs = [output] → output.wire.isArray = false →
      r.Calls function (r.exposedType output.wire)
        (callOnContract
          ([Token.name "execute_remote_call_single_value_return", .mark ':' true, .mark ':' false,
              .mark '<' false] ++ r.wireType output.wire ++ [Token.mark ',' false] ++
            r.exposedType output.wire ++ [Token.mark '>' false])
          [Token.name "function"])
  | tuple {reads : List (List Token)} :
      function.shape = .constantTuple function.outputs.length → function.valueParam = none →
      2 ≤ function.outputs.length → r.Reads function.outputs reads →
      r.Calls function
        ([Token.opening .paren] ++
          [Token.mark ',' false].intercalate
            (function.outputs.map fun output => r.exposedType output.wire) ++
          [Token.closing .paren])
        (callOnContract [Token.name "execute_remote_call_multiple_value_return"]
          ([Token.name "function", .mark ',' false, .mark '|' false, .name "results",
              .mark '|' false, .opening .brace] ++ Code.absolute ["core", "result", "Result", "Ok"] ++
            [Token.opening .paren, .opening .paren] ++ [Token.mark ',' false].intercalate reads ++
            [Token.closing .paren, .closing .paren, .closing .brace]))

theorem calls_of_keeps (r : Renderer) {entry : Entry} {function : FunctionBinding}
    (keeps : function.Keeps entry) (notVoid : function.shape ≠ .constantVoid) :
    ∃ returned call, r.remoteCall function = .ok (some (returned, call)) ∧
      r.Calls function returned call := by
  have selected := CallShape.selects_iff.mpr keeps.shape.symm
  have noValue (unpaid : function.shape ≠ .transactionPayable) : function.valueParam = none :=
    keeps.valueParam_eq_none unpaid
  -- Each case of the selection says what both the shape and the outputs are.
  generalize shape : function.shape = selectedShape, listed : function.outputs.map Output.wire =
    outputs at selected
  unfold remoteCall
  rw [shape]
  cases selected with
  | transaction =>
    refine ⟨_, _, rfl, ?_⟩
    rw [contractCall_eq_callOnContract]
    exact .transaction shape (noValue (by simp [shape]))
  | transactionPayable payable =>
    obtain ⟨value, given⟩ := Option.isSome_iff_exists.mp (keeps.value.mpr payable)
    refine ⟨_, _, rfl, ?_⟩
    rw [given, contractCall_eq_callOnContract]
    exact .payable shape given (keeps.value_not_mem given)
  | constantVoid => exact absurd shape notVoid
  | constantSingle _ noArray =>
    obtain ⟨output, only, rfl⟩ := List.map_eq_singleton_iff.mp listed
    have single : function.singleOutput = .ok output := by
      rw [FunctionBinding.singleOutput, only]
    rw [single]
    refine ⟨_, _, rfl, ?_⟩
    rw [contractCall_eq_callOnContract]
    simpa [Code.instantiated, Code.applied, Code.word, Code.mark, Code.pathSep, functionLocal]
      using Calls.single shape (noValue (by simp [shape])) only noArray
  | constantRawCollection _ array =>
    obtain ⟨output, only, rfl⟩ := List.map_eq_singleton_iff.mp listed
    refine ⟨_, _, rfl, ?_⟩
    rw [contractCall_eq_callOnContract]
    simpa [vecOf, Code.applied, Code.word, Code.mark, functionLocal]
      using Calls.rawList shape (noValue (by simp [shape])) only array
  | constantTuple =>
    have count := congrArg List.length listed
    simp only [List.length_map, List.length_cons] at count
    have several : 2 ≤ function.outputs.length := by
      rw [count]
      exact Nat.le_add_left ..
    refine ⟨_, _, rfl, ?_⟩
    rw [contractCall_eq_callOnContract]
    simpa [tupleOf, okOf, Code.call, Code.closure, Code.block, Code.commaSeparated, Code.enclose,
        Code.word, Code.mark, functionLocal, List.intercalate_cons_cons]
      using Calls.tuple (by rw [shape, count]) (noValue (by simp [shape])) several
        (r.reads_tupleValues _)

/-! ## 3. Methods -/

/-- `r.RendersWrapper function tokens`: the tokens are a method that takes the inputs and
the value to transfer, and makes its call with a function value. This has an encoded
argument for each input and a reference for each output, and nothing else. -/
inductive RendersWrapper (r : Renderer) (function : FunctionBinding) : List Token → Prop
  | intro {arguments references : List (List Token)} {returned call : List Token} :
      List.Forall₂ (fun input value => r.Converts input.wire input.name value)
        function.inputs arguments →
      List.Forall₂ (fun output => r.Refers false output.wire) function.outputs references →
      r.Calls function returned call →
      RendersWrapper r function
        (r.doc function.docText ++
          publicMethod function.methodName
            ([Token.mark '&' false, .name "self", .mark ',' false] ++
              [Token.mark ',' false].intercalate
                ((function.inputs.map fun input =>
                    [Token.name input.name, .mark ':' false] ++ r.exposedType input.wire) ++
                  function.valueParam.toList.map fun value =>
                    [Token.name value, .mark ':' false] ++ r.item ["BigInt"]))
            (r.item ["RemoteCall"] ++ [Token.mark '<' false] ++ returned ++ [Token.mark '>' false])
            ([Token.name "let", .name "function", .mark '=' false] ++
              r.abiItem ["Function", "new"] ++
              [Token.opening .paren, .name function.constantName, .mark ',' false,
                .name "vec", .mark '!' false, .opening .bracket] ++
              [Token.mark ',' false].intercalate (arguments.map fun value =>
                r.abiItem ["Token", "from"] ++ [Token.opening .paren] ++ value ++
                  [Token.closing .paren]) ++
              [Token.closing .bracket, .mark ',' false,
                .name "vec", .mark '!' false, .opening .bracket] ++
              [Token.mark ',' false].intercalate references ++
              [Token.closing .bracket, .closing .paren, .mark ';' false] ++ call))

theorem rendersWrapper_of_keeps (r : Renderer) {entry : Entry} {function : FunctionBinding}
    (keeps : function.Keeps entry) (notVoid : function.shape ≠ .constantVoid)
    (plain : ∀ name ∈ function.identifiers, Code.isPlain name = true) :
    ∃ tokens, r.renderFunction function = .ok tokens ∧ r.RendersWrapper function tokens := by
  obtain ⟨returned, call, called, calls⟩ := r.calls_of_keeps keeps notVoid
  refine ⟨_, r.renderFunction_of_remoteCall plain called, ?_⟩
  have arguments : List.Forall₂ (fun input value => r.Converts input.wire input.name value)
      function.inputs (function.inputs.map fun input => r.wireValue input.wire input.name) :=
    List.forall₂_map_right_iff.mpr
      (List.forall₂_same.mpr fun input _ => converts_iff.mpr rfl)
  have references : List.Forall₂ (fun output => r.Refers false output.wire) function.outputs
      (r.outputReferences function) :=
    List.forall₂_map_right_iff.mpr
      (List.forall₂_same.mpr fun output _ => refers_iff.mpr rfl)
  have wrapper := RendersWrapper.intro arguments references calls
  simpa [methodTokens, methodOf_eq_publicMethod, parameters, functionValue, encodedInputs,
    functionLocal, Code.receiver, Code.referenceTo, Code.binding, Code.statement, Code.call,
    Code.listOf, Code.typed, Code.applied, Code.commaSeparated, Code.enclose, Code.word, Code.mark,
    List.intercalate_cons_cons, Function.comp_def] using wrapper

end Renderer

/-! ## 4. Functions -/

/-- Other generated names change nothing of what a method keeps of its function. -/
theorem FunctionBinding.Keeps.renamed {entry : Entry} {function named : FunctionBinding}
    (keeps : function.Keeps entry) (renamed : function.Renamed named) : named.Keeps entry := by
  rw [renamed]
  exact ⟨keeps.name, keeps.mutability, keeps.inputs, keeps.outputs, keeps.shape, keeps.value,
    keeps.distinct⟩

/-- A method encodes exactly what its signature declares. The types of its inputs and
outputs are the declared ones, the signature lists those of the inputs, and no two
parameters share a name. Unless a method can read nothing, it is rendered under whatever
identifiers it is given, with its arguments, references and reads in step with them. -/
theorem wrappers_encode_their_signatures {entry : Entry} {function : FunctionBinding}
    (made : (FunctionBinding.synthesize entry).outcome = .ok function)
    (notVoid : function.shape ≠ .constantVoid) :
    function.Keeps entry ∧
    function.signature = canonicalSignature entry.name (function.inputs.map Argument.wire) ∧
    ∀ (r : Renderer) (named : FunctionBinding), function.Renamed named →
      (∀ name ∈ named.identifiers, Code.isPlain name = true) →
      ∃ tokens, r.renderFunction named = .ok tokens ∧ r.RendersWrapper named tokens := by
  have keeps := FunctionBinding.keeps_of_synthesize made
  refine ⟨keeps, ?_, fun r named renamed plain => ?_⟩
  · rw [function.signature_eq, keeps.name]
  · refine r.rendersWrapper_of_keeps (keeps.renamed renamed) ?_ plain
    rw [renamed]
    exact notVoid

/-- An input has the name of the value to transfer, and another one has no name. -/
theorem wrappers_encode_their_signatures_payable :
    ∃ (r : Renderer) (function : FunctionBinding) (tokens : List Token),
      r.nativeTypes = true ∧
      (FunctionBinding.synthesize ⟨.function, "pay",
        [⟨"wei_value", "uint256[33]", false⟩, ⟨"", "uint8[33][]", false⟩], [],
        .payable⟩).outcome = .ok function ∧
      function.signature = "pay(uint256[33],uint8[33][])" ∧
      function.parameterNames = ["wei_value", "param1", "wei_value_1"] ∧
      r.renderFunction function = .ok tokens ∧ r.RendersWrapper function tokens := by
  let r : Renderer := ⟨⟨false, [⟨"runtime", []⟩]⟩, true, false⟩
  have made : (FunctionBinding.synthesize ⟨.function, "pay",
      [⟨"wei_value", "uint256[33]", false⟩, ⟨"", "uint8[33][]", false⟩], [],
      .payable⟩).outcome.toOption.map (fun function =>
        (function.signature, function.parameterNames, function.shape,
          function.identifiers.all Code.isPlain)) =
      some ("pay(uint256[33],uint8[33][])", ["wei_value", "param1", "wei_value_1"],
        .transactionPayable, true) := by
    decide +kernel
  obtain ⟨function, found, same⟩ := Option.map_eq_some_iff.mp made
  simp only [Prod.mk.injEq] at same
  obtain ⟨signature, names, shape, plain⟩ := same
  have synthesized := Outcome.toOption_eq_some_iff.mp found
  obtain ⟨_, _, rendering⟩ := wrappers_encode_their_signatures synthesized (by simp [shape])
  obtain ⟨tokens, rendered, wrapper⟩ := rendering r function rfl (List.all_eq_true.mp plain)
  exact ⟨r, function, tokens, rfl, synthesized, signature, names, rendered, wrapper⟩

end ContractBinder
