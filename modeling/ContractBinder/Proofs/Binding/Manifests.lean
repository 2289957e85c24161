import ContractBinder.Proofs.Files.Action
import ContractBinder.Proofs.Files.Writing
import ContractBinder.Proofs.Json.RoundTrip
import ContractBinder.Proofs.Ordered
import ContractBinder.Save

/-!
# Manifests as texts

A manifest is what its text says. Both maps of a manifest are ordered by their keys
(`Manifest.IsOrdered`), as they are in every manifest that is made of bindings, so an
object that holds them in order holds the manifest.

Results:

1. `isOrdered_ofBindings`: manifests of bindings are ordered.
2. `ofJson?_normal`: the object of a manifest, with its members in order, is the manifest.
3. `saved_manifest_reads_back`: a manifest that was saved, in either layout, is read back.
-/

namespace ContractBinder.Manifest

variable {manifest : Manifest}

/-- Both maps are ordered by their keys, each of which occurs once. -/
structure IsOrdered (manifest : Manifest) : Prop where
  selectors : InOrder manifest.functionSelectors
  topics : InOrder manifest.eventTopics

theorem isOrdered_ofBindings (bindings : ContractBindings) (abi : String) :
    (ofBindings bindings abi).IsOrdered :=
  ⟨inOrder_sortedPairs _, inOrder_sortedPairs _⟩

/-! ## 1. Objects -/

theorem mapOf?_mapToJson (pairs : List (String × String)) :
    mapOf? (mapToJson pairs) = some pairs := by
  rw [mapToJson, mapOf?]
  induction pairs with
  | nil => rfl
  | cons pair rest ih =>
    rw [List.map_cons, List.mapM_cons, ih]
    rfl

theorem normal_mapToJson {pairs : List (String × String)} (inOrder : InOrder pairs) :
    (mapToJson pairs).normal = mapToJson pairs := by
  have values : (pairs.map fun pair => (pair.1, Json.string pair.2)).map
      (fun member => (member.1, member.2.normal)) =
      pairs.map fun pair => (pair.1, Json.string pair.2) := by
    rw [List.map_map]
    rfl
  rw [mapToJson, Json.normal, Json.normalMembers_eq_map, values]
  exact congrArg Json.object (sortedPairs_eq_self (List.pairwise_map.mpr inOrder))

/-- The members may come in any order. -/
theorem ofJson?_normal (ordered : manifest.IsOrdered) :
    ofJson? manifest.toJson.normal = some manifest := by
  have found (key : String) : manifest.toJson.normal.member? key =
      [("event_topics", mapToJson manifest.eventTopics),
       ("function_selectors", mapToJson manifest.functionSelectors),
       ("abi_hash", .string manifest.abiHash),
       ("contract", .string manifest.contract)].lookup key := by
    rw [toJson, Json.normal, Json.normalMembers_eq_map, Json.member?, lookup_sortedPairs]
    simp only [List.map_cons, List.map_nil, List.reverse_cons, List.reverse_nil, List.nil_append,
      List.cons_append, normal_mapToJson ordered.selectors, normal_mapToJson ordered.topics,
      Json.normal]
  unfold ofJson?
  simp only [found]
  simp [List.lookup_cons, textOf?, mapOf?_mapToJson]

theorem ofStrings_mapToJson {levels : Nat} (pairs : List (String × String)) :
    Json.OfStrings (levels + 1) (mapToJson pairs) := by
  refine .object fun member listed => ?_
  obtain ⟨pair, _, rfl⟩ := List.mem_map.mp listed
  exact .string pair.2

theorem ofStrings_toJson {levels : Nat} (manifest : Manifest) :
    Json.OfStrings (levels + 2) manifest.toJson := by
  refine .object ?_
  simp only [List.forall_mem_cons]
  exact ⟨.string _, .string _, ofStrings_mapToJson _, ofStrings_mapToJson _,
    fun _ listed => absurd listed List.not_mem_nil⟩

/-! ## 2. Texts -/

/-- Both layouts are read as the same object. -/
theorem parse_text (manifest : Manifest) (pretty : Bool) :
    Json.parse (manifest.text pretty) = .ok manifest.toJson.normal := by
  cases pretty with
  | true => exact (ofStrings_toJson manifest).parse_pretty
  | false => exact (ofStrings_toJson manifest).parse_compact

open Files (FileSystem)

theorem readText_of_save {path : Files.Path} {pretty : Bool} {before after : FileSystem}
    (done : (manifest.save path pretty).Ends before (.ok ()) after) :
    after.readText path = .ok (manifest.text pretty) := by
  rw [save, Files.Action.ends_change_ok_iff, Outcome.mapError_eq_ok_iff] at done
  exact FileSystem.readText_of_writeText done

/-- A saved manifest reads back as itself. There is one value that its texts in both layouts
denote, and that value is the manifest; the text is what a file holds to which the manifest
was saved. -/
theorem saved_manifest_reads_back (ordered : manifest.IsOrdered) :
    ∃ value, ofJson? value = some manifest ∧ ∀ pretty,
      Json.parse (manifest.text pretty) = .ok value ∧
      ∀ path before after, (manifest.save path pretty).Ends before (.ok ()) after →
        after.readText path = .ok (manifest.text pretty) :=
  ⟨manifest.toJson.normal, ofJson?_normal ordered, fun pretty =>
    ⟨parse_text manifest pretty, fun _ _ _ done => readText_of_save done⟩⟩

/-- A manifest with quotes, backslashes, control characters and other scripts in its texts. -/
def unusual : Manifest where
  contract := "Kä\"se\\\n\x01名"
  abiHash := "sha256:"
  functionSelectors := [("f(\x1f)", "0x00000000"), ("g(\"\\\")", "0xffffffff")]
  eventTopics := []

/-- The unusual manifest is saved to a file of an empty directory. -/
theorem saved_manifest_reads_back_unusual :
    unusual.IsOrdered ∧ ∃ value after, ofJson? value = some unusual ∧
      (unusual.save (Text.bytes "m.json") true).Ends ⟨.directory [], []⟩ (.ok ()) after ∧
      after.readText (Text.bytes "m.json") = .ok (unusual.text true) ∧
      Json.parse (unusual.text true) = .ok value ∧
      Json.parse (unusual.text false) = .ok value := by
  have ordered : unusual.IsOrdered :=
    ⟨List.pairwise_pair.mpr (by decide), List.Pairwise.nil⟩
  have ends := Files.Action.ends_self (unusual.save (Text.bytes "m.json") true) ⟨.directory [], []⟩
  have succeeds :
      (unusual.save (Text.bytes "m.json") true ⟨.directory [], []⟩).1.outcome = .ok () :=
    Outcome.toOption_eq_some_iff.mp (by decide +kernel)
  rw [succeeds] at ends
  obtain ⟨value, same, reads⟩ := saved_manifest_reads_back ordered
  exact ⟨ordered, value, _, same, ends, (reads true).2 _ _ _ ends, (reads true).1, (reads false).1⟩

end ContractBinder.Manifest
