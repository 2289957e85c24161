import ContractBinder.Proofs.Code.Printing
import ContractBinder.Proofs.Render.TypeReferences

/-!
# Wire types and their names

The runtime type of an ABI type is written in two ways: as a name, and as tokens in
which every part of the name stands behind the path of the runtime library.

Results:

1. `Abi.WireType.wireName_eq_iff`: a name tells everything but the long lengths.
2. `Renderer.without_wireType`: without the paths the tokens are those of the name,
   whatever tokens the path of the runtime library has.
3. `wire_types_spell_wire_names`: both together.
-/

namespace ContractBinder

open Abi (Container WireKind WireType)
open Code (Token)

/-! ## 1. Names -/

namespace Abi

theorem not_mem_of_isIdentifier {name : String} (identifier : Code.IsIdentifier name) {c : Char}
    (foreign : Code.isIdentContinue c = false) : c ∉ name.toList := fun member =>
  Bool.false_ne_true (foreign.symm.trans (Code.isIdentContinue_of_isPlain identifier.plain member))

/-- A name in front of a bracket, and what stands behind it, can be told from the whole. -/
theorem opened_inj {name name' behind behind' : String} (clean : '<' ∉ name.toList)
    (clean' : '<' ∉ name'.toList) :
    name ++ "<" ++ behind = name' ++ "<" ++ behind' ↔ name = name' ∧ behind = behind' := by
  constructor
  · intro same
    have chars := congrArg String.toList same
    simp only [String.toList_append, List.append_assoc] at chars
    have names := congrArg (List.takeWhile (· != '<')) chars
    have others := congrArg (List.dropWhile (· != '<')) chars
    simp only [String.reduceToList, List.cons_append, List.nil_append,
      Text.takeWhile_ne_append clean, Text.takeWhile_ne_append clean',
      Text.dropWhile_ne_append clean, Text.dropWhile_ne_append clean', List.cons.injEq,
      true_and] at names others
    exact ⟨String.toList_inj.mp names, String.toList_inj.mp others⟩
  · rintro ⟨rfl, rfl⟩
    rfl

theorem kindName_ne_bracketed (kind : WireKind) (name inner : String) :
    kind.wireName ≠ name ++ "<" ++ inner ++ ">" := by
  intro same
  refine not_mem_of_isIdentifier (isIdentifier_kindName kind) (c := '<') rfl ?_
  simp [same]

theorem containerName_opened_inj {container container' : Container} {inner inner' : String} :
    container.wireName ++ "<" ++ inner = container'.wireName ++ "<" ++ inner' ↔
      container.wireName = container'.wireName ∧ inner = inner' :=
  opened_inj (not_mem_of_isIdentifier (isIdentifier_containerName container) rfl)
    (not_mem_of_isIdentifier (isIdentifier_containerName container') rfl)

namespace WireType

variable {first second : WireType}

theorem wireName_eq_iff_runtimeNames :
    first.wireName = second.wireName ↔ first.runtimeNames = second.runtimeNames := by
  induction first generalizing second with
  | primitive kind =>
    cases second <;> simp [wireName, runtimeNames, kindName_ne_bracketed,
      (runtimeNames_ne_nil _).symm]
  | fixedArray element length ih =>
    cases second <;> simp [wireName, runtimeNames, containerName_opened_inj,
      (kindName_ne_bracketed _ _ _).symm, runtimeNames_ne_nil, ih]
  | dynamicArray element ih =>
    cases second <;> simp [wireName, runtimeNames, containerName_opened_inj,
      (kindName_ne_bracketed _ _ _).symm, runtimeNames_ne_nil, ih]

/-- Names tell types apart up to the lengths that they do not say. -/
theorem wireName_eq_iff : first.wireName = second.wireName ↔ first.erased = second.erased :=
  wireName_eq_iff_runtimeNames.trans runtimeNames_eq_iff

end WireType

end Abi

/-! ## 2. Tokens -/

namespace Code

/-- Tokens without the tokens of `lead` wherever these stand together, looked for from
left to right. -/
def without (lead : List Token) : List Token → List Token
  | [] => []
  | token :: rest =>
    if lead.isPrefixOf (token :: rest) then without lead (rest.drop (lead.length - 1))
    else token :: without lead rest
termination_by tokens => tokens.length
decreasing_by
  · simp only [List.length_drop, List.length_cons]; omega
  · simp

variable {lead : List Token}

@[simp] theorem without_nil : without lead [] = [] := by
  rw [without]

theorem without_append_self (nonempty : lead ≠ []) (tokens : List Token) :
    without lead (lead ++ tokens) = without lead tokens := by
  obtain ⟨first, others, rfl⟩ := List.exists_cons_of_ne_nil nonempty
  have starts : (first :: others).isPrefixOf (first :: (others ++ tokens)) = true :=
    List.isPrefixOf_iff_prefix.mpr (List.prefix_append (first :: others) tokens)
  rw [List.cons_append, without, if_pos starts]
  simp

theorem without_cons {token : Token} {rest : List Token} (other : ¬ lead <+: token :: rest) :
    without lead (token :: rest) = token :: without lead rest := by
  rw [without, if_neg (mt List.isPrefixOf_iff_prefix.mp other)]

/-- A list that stands at the start, and once more behind some of its elements, consists
of these elements. -/
theorem mem_of_prefix_append {α : Type} {before list behind : List α} (nonempty : before ≠ [])
    (again : list <+: before ++ (list ++ behind)) {a : α} (member : a ∈ list) : a ∈ before := by
  obtain ⟨position, bound, rfl⟩ := List.mem_iff_getElem.mp member
  -- The element at a position is that of `before`, or stands further to the left in `list` as well.
  induction position using Nat.strongRecOn with
  | ind position ih =>
    have same := again.getElem bound
    have some := List.length_pos_iff.mpr nonempty
    rw [same, List.getElem_append]
    split
    · exact List.getElem_mem _
    · have inside : position - before.length < list.length := by omega
      rw [List.getElem_append_left inside]
      exact ih _ (by omega) inside (List.getElem_mem inside)

end Code

def Abi.WireType.nameTokens : WireType → List Token
  | .primitive kind => Code.word kind.wireName
  | .fixedArray element length =>
    Code.applied (Code.word (Container.fixed length).wireName) [element.nameTokens]
  | .dynamicArray element =>
    Code.applied (Code.word Container.dynamic.wireName) [element.nameTokens]

namespace Renderer

variable (r : Renderer)

/-- What stands in front of the names of runtime types: the path of the module for ABI values. -/
def abiPath : List Token :=
  r.runtime.tokens ++ Code.pathSep ++ Code.word "abi" ++ Code.pathSep

theorem abiItem_eq_abiPath (name : String) : r.abiItem [name] = r.abiPath ++ Code.word name := by
  simp [abiItem, item, abiPath, Code.pathOf, Code.word, List.intercalate_cons_cons]

/-- A mark that the name of a type has not. -/
theorem mark_mem_abiPath : .mark ':' true ∈ r.abiPath := by
  simp [abiPath, Code.pathSep]

/-- The path does not begin within a name: it would consist of tokens of the name. -/
theorem without_append_abiPath {name : List Token} (other : .mark ':' true ∉ name)
    (behind : List Token) :
    Code.without r.abiPath (name ++ (r.abiPath ++ behind)) =
      name ++ Code.without r.abiPath behind := by
  induction name with
  | nil => exact Code.without_append_self (List.ne_nil_of_mem r.mark_mem_abiPath) behind
  | cons token rest ih =>
    have noStart : ¬ r.abiPath <+: token :: rest ++ (r.abiPath ++ behind) := fun again =>
      other (Code.mem_of_prefix_append (List.cons_ne_nil token rest) again r.mark_mem_abiPath)
    rw [List.cons_append] at noStart ⊢
    rw [Code.without_cons noStart, ih (List.not_mem_of_not_mem_cons other), List.cons_append]

theorem without_of_not_mem {tokens : List Token} (other : .mark ':' true ∉ tokens) :
    Code.without r.abiPath tokens = tokens := by
  induction tokens with
  | nil => exact Code.without_nil
  | cons token rest ih =>
    rw [Code.without_cons fun starts => other (starts.subset r.mark_mem_abiPath),
      ih (List.not_mem_of_not_mem_cons other)]

variable {before behind : List Token}

/-- An array's tokens, if those of its elements are known wherever they stand. -/
theorem without_applied {element inner : List Token} {name : String}
    (first : .mark ':' true ∉ before) (last : .mark ':' true ∉ behind)
    (each : ∀ before behind : List Token, .mark ':' true ∉ before → .mark ':' true ∉ behind →
      Code.without r.abiPath (before ++ (element ++ behind)) = before ++ (inner ++ behind)) :
    Code.without r.abiPath (before ++ (Code.applied (r.abiItem [name]) [element] ++ behind)) =
      before ++ (Code.applied (Code.word name) [inner] ++ behind) := by
  have opened := each [.name name, Code.mark '<'] (Code.mark '>' :: behind)
    (by simp [Code.mark]) (by simpa [Code.mark] using last)
  simp only [Code.applied, Code.commaSeparated_singleton, abiItem_eq_abiPath, List.append_assoc]
  rw [r.without_append_abiPath first]
  simpa [Code.word] using opened

/-- Without the paths, the tokens of a type are those of its name. -/
theorem without_wireType (wire : WireType) (first : .mark ':' true ∉ before)
    (last : .mark ':' true ∉ behind) :
    Code.without r.abiPath (before ++ (r.wireType wire ++ behind)) =
      before ++ (wire.nameTokens ++ behind) := by
  induction wire generalizing before behind with
  | primitive kind =>
    rw [wireType, WireType.nameTokens, abiItem_eq_abiPath, List.append_assoc,
      r.without_append_abiPath first, r.without_of_not_mem]
    simpa [Code.word] using last
  | fixedArray element length ih => exact r.without_applied first last fun _ _ => ih
  | dynamicArray element ih => exact r.without_applied first last fun _ _ => ih

end Renderer

/-! ## 3. Printed tokens -/

/-- A text without its blanks. -/
def Code.unspaced (text : String) : String :=
  String.ofList (text.toList.filter (· ≠ ' '))

theorem Code.unspaced_print (tokens : List Token) :
    unspaced (print tokens) =
      String.ofList ((tokens.flatMap Token.spell).filter (· ≠ ' ')) := by
  rw [unspaced, print, String.toList_ofList, filter_printChars]

/-- The tokens of a name spell the name. -/
theorem Abi.WireType.spell_nameTokens (wire : WireType) :
    wire.nameTokens.flatMap Token.spell = wire.wireName.toList := by
  induction wire with
  | primitive kind => simp [nameTokens, Code.word, wireName]
  | fixedArray element length ih =>
    simp [nameTokens, Code.word, Code.applied, Code.mark, wireName, ih]
  | dynamicArray element ih =>
    simp [nameTokens, Code.word, Code.applied, Code.mark, wireName, ih]

theorem Abi.WireType.blank_not_mem_wireName (wire : WireType) : ' ' ∉ wire.wireName.toList := by
  induction wire with
  | primitive kind => exact not_mem_of_isIdentifier (isIdentifier_kindName kind) rfl
  | fixedArray element length ih =>
    have container : ' ' ∉ (Container.fixed length).wireName.toList :=
      not_mem_of_isIdentifier (isIdentifier_containerName _) rfl
    simp [wireName, ih, container]
  | dynamicArray element ih =>
    have container : ' ' ∉ Container.dynamic.wireName.toList :=
      not_mem_of_isIdentifier (isIdentifier_containerName _) rfl
    simp [wireName, ih, container]

theorem Abi.WireType.unspaced_print_nameTokens (wire : WireType) :
    Code.unspaced (Code.print wire.nameTokens) = wire.wireName := by
  rw [Code.unspaced_print, wire.spell_nameTokens, List.filter_eq_self.mpr, String.ofList_toList]
  exact fun c member => decide_eq_true fun blank => wire.blank_not_mem_wireName (blank ▸ member)

/-- Runtime types and their names are the same function. The tokens of a type, without
the path of the runtime library and its module for ABI values wherever these stand, and
without blanks, are its name. Two types have the same name exactly if they are equal up
to the lengths of fixed arrays above the greatest static one, which all count as one. -/
theorem wire_types_spell_wire_names (r : Renderer) :
    (∀ wire : WireType, Code.unspaced (Code.print (Code.without
        (r.runtime.tokens ++ Code.pathSep ++ Code.word "abi" ++ Code.pathSep) (r.wireType wire))) =
      wire.wireName) ∧
    ∀ first second : WireType, first.wireName = second.wireName ↔ first.erased = second.erased := by
  refine ⟨fun wire => ?_, fun first second => WireType.wireName_eq_iff⟩
  have bare : Code.without r.abiPath ([] ++ (r.wireType wire ++ [])) =
      [] ++ (wire.nameTokens ++ []) :=
    r.without_wireType wire List.not_mem_nil List.not_mem_nil
  rw [List.nil_append, List.append_nil, List.nil_append, List.append_nil] at bare
  change Code.unspaced (Code.print (Code.without r.abiPath (r.wireType wire))) = _
  rw [bare, wire.unspaced_print_nameTokens]

end ContractBinder
