import ContractBinder.CommandLine.Discovery
import ContractBinder.Proofs.Files.Listing
import ContractBinder.Proofs.Files.Writing
import ContractBinder.Proofs.Naming.FileStems
import ContractBinder.Proofs.Text.Splitting

/-!
# Inputs of a batch

The names of ABI files are told by how they end (`isAbiName_iff`), and the paths that a
batch finds lead to files with such names (`exists_isInput_of_found`). The files of
modules have other names (`isAbiName_of_mem_moduleNames`), and those of different stems
differ (`disjoint_moduleNames`). So writing modules leaves all inputs as they are
(`SameInput.of_writes`).
-/

namespace ContractBinder.CommandLine

open Files (FileSystem Location Name Path)
open Text (bytes decode?)

/-! ## 1. Names of ABI files -/

theorem extensionOf?_eq_some_iff {name extension : Name} :
    Files.extensionOf? name = some extension ↔
      ∃ stem, stem ≠ [] ∧ Files.period ∉ extension ∧ name = stem ++ Files.period :: extension := by
  constructor
  · intro found
    unfold Files.extensionOf? Files.cutName at found
    split at found
    · next before behind cut =>
      obtain ⟨shape, clean⟩ := Text.cutLast?_eq_some_iff.mp cut
      split at found
      · cases found
      · next nonempty =>
        cases found
        exact ⟨before, fun empty => nonempty (List.isEmpty_iff.mpr empty), clean, shape⟩
    · cases found
  · rintro ⟨stem, nonempty, clean, rfl⟩
    have kept : stem.isEmpty = false := by simpa using nonempty
    unfold Files.extensionOf? Files.cutName
    rw [Text.cutLast?_append stem clean]
    simp [kept]

/-- A name ends with the extension of an ABI file, and something stands before it. -/
def HasAbiExtension (name : Name) : Prop :=
  ∃ stem, stem ≠ [] ∧ (name = stem ++ bytes ".abi" ∨ name = stem ++ bytes ".json")

/-- A name is a text that ends as those of manifests do. -/
def IsManifestName (name : Name) : Prop :=
  ∃ stem : String, name = bytes (stem ++ ".manifest.json")

theorem hasAbiExtension_iff {name : Name} :
    HasAbiExtension name ↔
      ∃ extension ∈ abiExtensions, Files.extensionOf? name = some extension := by
  constructor
  · rintro ⟨stem, nonempty, rfl | rfl⟩
    · exact ⟨bytes "abi", by decide, extensionOf?_eq_some_iff.mpr
        ⟨stem, nonempty, by decide, rfl⟩⟩
    · exact ⟨bytes "json", by decide, extensionOf?_eq_some_iff.mpr
        ⟨stem, nonempty, by decide, rfl⟩⟩
  · rintro ⟨extension, listed, found⟩
    obtain ⟨stem, nonempty, _, rfl⟩ := extensionOf?_eq_some_iff.mp found
    rcases List.mem_pair.mp listed with rfl | rfl
    · exact ⟨stem, nonempty, .inl rfl⟩
    · exact ⟨stem, nonempty, .inr rfl⟩

theorem isManifestName_iff {name : Name} : isManifestName name = true ↔ IsManifestName name := by
  unfold isManifestName
  cases decoded : decode? name with
  | none =>
    refine ⟨nofun, ?_⟩
    rintro ⟨stem, rfl⟩
    rw [Text.decode?_bytes] at decoded
    cases decoded
  | some text =>
    obtain rfl := Text.decode?_eq_some_iff.mp decoded
    simp only [List.isPrefixOf_iff_prefix, List.reverse_prefix]
    constructor
    · rintro ⟨chars, whole⟩
      refine ⟨String.ofList chars, congrArg bytes (String.toList_injective ?_)⟩
      rw [String.toList_append, String.toList_ofList]
      exact whole.symm
    · rintro ⟨stem, same⟩
      rw [Text.bytes_injective same]
      exact ⟨stem.toList, String.toList_append.symm⟩

theorem isAbiName_iff {name : Name} :
    isAbiName name = true ↔ HasAbiExtension name ∧ ¬ IsManifestName name := by
  rw [isAbiName, Bool.and_eq_true, and_comm, Bool.not_eq_true', ← Bool.not_eq_true,
    isManifestName_iff, hasAbiExtension_iff]
  refine and_congr_left fun _ => ?_
  cases Files.extensionOf? name with
  | none => simp
  | some extension => simp

/-! ## 2. Names of files of modules -/

/-- The names that files of an input's module can have. -/
def moduleNames (input : Path) : List Name :=
  [bytes (moduleStem input ++ ".rs"), bytes (moduleStem input ++ manifestEnding)]

theorem mem_moduleNames_iff {input : Path} {name : Name} :
    name ∈ moduleNames input ↔
      name = bytes (moduleStem input ++ ".rs") ∨
        name = bytes (moduleStem input ++ manifestEnding) := by
  rw [moduleNames, List.mem_pair]

theorem isAbiName_source (stem : String) : isAbiName (bytes (stem ++ ".rs")) = false := by
  have source : (bytes ".rs").getLast? = some 0x73 := rfl
  have abi : (bytes ".abi").getLast? = some 0x69 := rfl
  have json : (bytes ".json").getLast? = some 0x6e := rfl
  rw [Bool.eq_false_iff, ne_eq, isAbiName_iff, Text.bytes_append]
  rintro ⟨⟨other, _, same⟩, _⟩
  -- The last letters differ.
  rcases same with same | same
  · have ends := congrArg List.getLast? same
    rw [List.getLast?_append, List.getLast?_append, source, abi] at ends
    cases ends
  · have ends := congrArg List.getLast? same
    rw [List.getLast?_append, List.getLast?_append, source, json] at ends
    cases ends

theorem isAbiName_manifest (stem : String) :
    isAbiName (bytes (stem ++ manifestEnding)) = false := by
  have manifest : IsManifestName (bytes (stem ++ manifestEnding)) := ⟨stem, by rw [manifestEnding]⟩
  rw [Bool.eq_false_iff, ne_eq, isAbiName_iff, not_and_not_right]
  exact fun _ => manifest

theorem isAbiName_of_mem_moduleNames {input : Path} {name : Name}
    (member : name ∈ moduleNames input) : isAbiName name = false := by
  rcases mem_moduleNames_iff.mp member with same | same
  · exact same ▸ isAbiName_source _
  · exact same ▸ isAbiName_manifest _

/-- Inputs with different stems have no file of their modules in common. -/
theorem disjoint_moduleNames {first second : Path}
    (apart : moduleStem first ≠ moduleStem second) :
    (moduleNames first).Disjoint (moduleNames second) := by
  have sameEnding {ending : String} :
      moduleStem first ++ ending ≠ moduleStem second ++ ending := fun same =>
    apart (String.append_left_inj ending |>.mp same)
  intro name inFirst inSecond
  rcases mem_moduleNames_iff.mp inFirst with same | same <;>
    rcases mem_moduleNames_iff.mp inSecond with other | other <;>
    have equal := Text.bytes_injective (same.symm.trans other)
  · exact sameEnding equal
  · exact Naming.source_ne_manifest _ _ equal
  · exact Naming.source_ne_manifest _ _ equal.symm
  · exact sameEnding equal

/-! ## 3. What is found -/

variable {fs before after start : FileSystem} {path input directory outputDir : Path}
  {inputs : List Path} {location : Location} {content : ByteArray}

theorem isAbiLocation_concat (directory : Location) (name : Name) :
    isAbiLocation (directory ++ [name]) = isAbiName name := by
  rw [isAbiLocation, List.getLast?_concat]

/-- A path leads to a file with the name of an ABI file. -/
structure IsInput (fs : FileSystem) (path : Path) (location : Location) (content : ByteArray) :
    Prop where
  leads : fs.Leads path location
  noSlash : Files.endsWithSlash path = false
  there : fs.stored location = some (.file content)
  abi : isAbiLocation location = true

theorem IsInput.readText_eq_ok_iff {text : String} (input : IsInput fs path location content)
    (plain : fs.NoLinks) :
    fs.readText path = .ok text ↔
      Files.checkPath path = .ok () ∧ String.fromUTF8? content = some text := by
  rw [FileSystem.readText_eq_ok_iff]
  constructor
  · rintro ⟨other, found, located, there, decoded⟩
    obtain rfl := (plain.leads_of_locate located).eq input.leads
    rw [input.there] at there
    cases there
    exact ⟨(FileSystem.locate_eq_ok_iff.mp located).1, decoded⟩
  · rintro ⟨checked, decoded⟩
    exact ⟨location, content, FileSystem.locate_of_leads input.leads input.noSlash checked,
      input.there, decoded⟩

theorem findAbiFiles_eq_ok_iff :
    findAbiFiles fs directory outputDir = .ok inputs ↔
      ∃ around, fs.locate directory = .ok around ∧ fs.stored around = some .directory ∧
        inputs = (abiLocations fs directory around (fs.canonicalize outputDir)).map
          (Files.pathBelow directory) := by
  unfold findAbiFiles
  cases located : fs.locate directory with
  | error _ => simp
  | ok around =>
    simp only [← FileSystem.hasDirectory_iff, Except.ok.injEq, exists_eq_left']
    split
    · next there => simp [there, eq_comm]
    · next absent => simp [absent]

/-- All that a batch finds in a tree that can be stored are inputs. -/
theorem exists_isInput_of_found (tree : fs.root.IsTree)
    (found : findAbiFiles fs directory outputDir = .ok inputs) (member : input ∈ inputs) :
    ∃ location content, IsInput fs input location content := by
  obtain ⟨around, located, _, rfl⟩ := findAbiFiles_eq_ok_iff.mp found
  obtain ⟨relative, listed, rfl⟩ := List.mem_map.mp member
  unfold abiLocations at listed
  split at listed
  · next node there =>
    obtain ⟨below, abi⟩ := List.mem_filter.mp listed
    have aroundTree := (tree.of_get? there).1
    obtain ⟨content, file⟩ := aroundTree.get?_of_mem_filesBelow below
    have storable := (aroundTree.of_get? file).2
    have nonempty : relative ≠ [] := by
      rintro rfl
      cases abi
    have stored : fs.stored (around ++ relative) = some (.file content) := by
      rw [FileSystem.stored, FileSystem.get?, Files.Node.get?_append, ← FileSystem.get?, there,
        Option.bind_some, file]
      rfl
    have plain := FileSystem.noLinks_of_isTree tree
    refine ⟨around ++ relative, content, ?_, ?_, stored, ?_⟩
    · refine FileSystem.leads_pathBelow plain (plain.leads_of_locate located) storable ?_
      rw [stored]
      rfl
    · exact Files.endsWithSlash_pathBelow nonempty storable
    · rwa [isAbiLocation, List.getLast?_append_of_ne_nil around nonempty]
  · exact absurd listed List.not_mem_nil

/-! ## 4. What writing modules leaves as it is -/

/-- An input leads to the same file in both trees, with the same content. -/
def SameInput (start fs : FileSystem) (input : Path) : Prop :=
  ∃ location content, IsInput start input location content ∧ IsInput fs input location content

theorem SameInput.of_found (tree : fs.root.IsTree)
    (found : findAbiFiles fs directory outputDir = .ok inputs) (member : input ∈ inputs) :
    SameInput fs fs input := by
  obtain ⟨location, content, isInput⟩ := exists_isInput_of_found tree found member
  exact ⟨location, content, isInput, isInput⟩

theorem SameInput.symm (same : SameInput start fs input) : SameInput fs start input := by
  obtain ⟨location, content, first, second⟩ := same
  exact ⟨location, content, second, first⟩

theorem SameInput.readText {text : String} (same : SameInput start fs input)
    (startPlain : start.NoLinks) (plain : fs.NoLinks) (read : fs.readText input = .ok text) :
    start.readText input = .ok text := by
  obtain ⟨_, _, first, second⟩ := same
  exact (first.readText_eq_ok_iff startPlain).mpr ((second.readText_eq_ok_iff plain).mp read)

theorem SameInput.of_writes {files : List Location} {new : Location → Prop}
    (same : SameInput start before input) (writes : before.Writes after files new)
    (noInput : ∀ location ∈ files, isAbiLocation location = false) :
    SameInput start after input := by
  obtain ⟨location, content, first, second⟩ := same
  have unlisted : location ∉ files := fun listed =>
    Bool.false_ne_true ((noInput location listed).symm.trans second.abi)
  exact ⟨location, content, first, writes.leads second.leads, second.noSlash,
    (writes.file_iff unlisted).mpr second.there, second.abi⟩

end ContractBinder.CommandLine
