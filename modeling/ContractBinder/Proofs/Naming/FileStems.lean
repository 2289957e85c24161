import ContractBinder.Proofs.Binding.Independence
import ContractBinder.Proofs.Files.Paths
import ContractBinder.Proofs.Generation
import ContractBinder.Save

/-!
# Stems of files

The files of a module are called after its contract, in snake case. A module is only
rendered if its contract's name is an identifier, and lower case turns no other
character into a slash. So whatever the contract is called, the stem is a name within
one directory (`Generated.isName_of_generate`).
-/

namespace ContractBinder

namespace Text

/-! ## 1. Slashes in converted names -/

theorem eq_slash_of_toLower {c : Char} (ascii : c.toNat < 0x80) (slash : c.toLower = '/') :
    c = '/' := by
  -- Few enough code points to try them all.
  have cases : ∀ code < 0x80, (Char.ofNat code).toLower = '/' → Char.ofNat code = '/' := by
    decide +kernel
  have same := cases c.toNat ascii
  rw [Char.ofNat_toNat] at same
  exact same slash

theorem eq_slash_of_ofNat {code : Nat} (slash : Char.ofNat code = '/') : code = 0x2f := by
  by_cases valid : code.isValidChar
  · rw [Char.ofNat, dif_pos valid] at slash
    exact congrArg Char.toNat slash
  · rw [Char.ofNat, dif_neg valid] at slash
    exact absurd slash (by decide)

/-- Only a slash has a lowercase form with a slash. -/
theorem eq_slash_of_mem_lowerOf {c : Char} (member : '/' ∈ lowerOf c) : c = '/' := by
  unfold lowerOf at member
  split at member
  · next ascii => exact eq_slash_of_toLower ascii (List.mem_singleton.mp member).symm
  unfold mapCase at member
  split at member
  · next codes expanded =>
    have listed : ∀ pair ∈ lowerExpansions, '/' ∉ pair.2.map Char.ofNat :=
      List.forall_mem_singleton.mpr (by decide)
    obtain ⟨before, behind, shape, _⟩ := List.lookup_eq_some_iff.mp expanded
    exact absurd member (listed (c.toNat, codes) (shape ▸ by simp))
  · split at member
    · next run found =>
      have above : ∀ run ∈ lowerRuns, (0x2f : Int) < run.first + run.offset :=
        by decide +kernel
      have covered := List.find?_some found
      simp only [CaseRun.covers, Bool.and_eq_true, decide_eq_true_eq] at covered
      have image := eq_slash_of_ofNat (List.mem_singleton.mp member).symm
      have low := above run (List.mem_of_find?_eq_some found)
      omega
    · exact (List.mem_singleton.mp member).symm

theorem noSlash_lowerAfter {before text : List Char} (noSlash : '/' ∉ text) :
    '/' ∉ lowerAfter before text := by
  induction text generalizing before with
  | nil => exact List.not_mem_nil
  | cons c rest ih =>
    obtain ⟨other, clean⟩ := not_or.mp (mt List.mem_cons.mpr noSlash)
    rw [lowerAfter, List.mem_append]
    refine not_or.mpr ⟨?_, ih clean⟩
    split
    · split <;> decide
    · exact fun member => other (eq_slash_of_mem_lowerOf member).symm

theorem noSlash_snakeCase {name : List Char} (noSlash : '/' ∉ name) : '/' ∉ snakeCase name := by
  intro member
  rcases mem_of_mem_intercalate member with mark | ⟨part, listed, inside⟩
  · exact absurd mark (by decide)
  · obtain ⟨word, found, rfl⟩ := List.mem_map.mp listed
    exact noSlash_lowerAfter (fun slash => noSlash (mem_of_nameWords found _ slash)) inside

end Text

/-! ## 2. Stems -/

theorem Naming.noSlash_fileStem {contract : String} (plain : Code.isPlain contract = true) :
    '/' ∉ (fileStem contract).toList := by
  rw [fileStem, snakeName, String.toList_ofList]
  refine Text.noSlash_snakeCase fun slash => ?_
  have continues := Code.isIdentContinue_of_isPlain plain slash
  exact absurd continues (by decide)

/-- No module is called like a manifest. -/
theorem Naming.source_ne_manifest (first second : String) :
    first ++ ".rs" ≠ second ++ manifestEnding := by
  intro same
  have last := congrArg (fun name => name.toList.getLast?) same
  simp only [String.toList_append, List.getLast?_append] at last
  have sourceEnds : ".rs".toList.getLast? = some 's' := by decide
  have manifestEnds : manifestEnding.toList.getLast? = some 'n' := by decide
  rw [sourceEnds, manifestEnds, Option.some_or, Option.some_or] at last
  exact absurd last (by decide)

theorem contractName_of_compile {config : Config} {entries : List Abi.Entry}
    {bindings : ContractBindings} (compiled : (compile config entries).outcome = .ok bindings) :
    bindings.contractName = Naming.typeName config.contractName := by
  obtain ⟨additions, _, rfl⟩ := compile_eq_ok_iff.mp compiled
  rw [← (Progress.foldl_extend_grows additions (Progress.start config)).contractName]
  simp only [Progress.start]

theorem isPlain_of_render {r : Renderer} {bindings : ContractBindings} {tokens : List Code.Token}
    (rendered : r.render bindings = .ok tokens) : Code.isPlain bindings.contractName = true := by
  obtain ⟨_, required, _⟩ := Outcome.bind_eq_ok_iff.mp rendered
  unfold requireIdentifiers at required
  split at required
  · cases required
  · next none =>
    have plain := List.find?_eq_none.mp none bindings.contractName List.mem_cons_self
    simpa using plain

namespace Generated

variable {abi : String} {config : Config} {generated : Generated}

/-- What is generated is for the type of the contract, and this is rendered as it is. -/
theorem of_generate (made : (generate abi config).outcome = .ok generated) :
    generated.bindings.contractName = Naming.typeName config.contractName ∧
      Code.isPlain generated.bindings.contractName = true := by
  rw [generate_outcome] at made
  obtain ⟨entries, _, made⟩ := Outcome.bind_eq_ok_iff.mp made
  obtain ⟨bindings, compiled, made⟩ := Outcome.bind_eq_ok_iff.mp made
  obtain ⟨body, source, made⟩ := Outcome.bind_eq_ok_iff.mp made
  obtain ⟨r, _, source⟩ := Outcome.bind_eq_ok_iff.mp source
  obtain ⟨tokens, rendered, _⟩ := Outcome.bind_eq_ok_iff.mp source
  cases made
  exact ⟨contractName_of_compile compiled, isPlain_of_render rendered⟩

/-- The files of a module lie directly in the output directory. -/
theorem isName_of_generate (made : (generate abi config).outcome = .ok generated)
    {ending : String} (plain : '/' ∉ ending.toList) (proper : ∃ c ∈ ending.toList, c ≠ '.') :
    Files.IsName (Text.bytes (generated.fileStem ++ ending)) := by
  obtain ⟨c, inside, noDot⟩ := proper
  refine Files.isName_bytes ?_ ⟨c, ?_, noDot⟩
  · rw [String.toList_append, List.mem_append, not_or]
    exact ⟨Naming.noSlash_fileStem (of_generate made).2, plain⟩
  · rw [String.toList_append]
    exact List.mem_append_right _ inside

end Generated

end ContractBinder
