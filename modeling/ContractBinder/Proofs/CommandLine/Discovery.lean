import ContractBinder.Proofs.CommandLine.Inputs

/-!
# What a batch finds

A batch takes the files below its directory whose names are those of ABI files, except
those that are somewhere below the directory it leaves out. The listing goes into a
directory where the name of the directory stands among the others. So locations come in
the order of the names on the way, compared one after the other by their bytes: all that is
in `a` comes before `a.json`. A directory is passed over if its path is too long to be
opened, and a name that is no text is never that of a manifest.

Results:
1. `mem_abiLocations_iff`, `pairwise_abiLocations`: what is listed below a location, and in
   which order.
2. `abi_files_found_once_in_order`: the paths that `findAbiFiles` gives.
3. `long_paths_and_odd_names_matter`: where that is not what the names alone say.
-/

namespace ContractBinder.CommandLine

open Files (FileSystem Location Name Path)
open Text (bytes)

variable {fs : FileSystem} {directory skipped : Path} {around relative : Location}

/-! ## 1. Locations -/

theorem mem_abiLocations_iff {left : Option Location} (distinct : fs.root.HasDistinctNames) :
    relative ∈ abiLocations fs directory around left ↔
      isAbiLocation relative = true ∧
        (∃ content, fs.stored (around ++ relative) = some (.file content)) ∧
        ∀ part, part <+: relative → part ≠ relative →
          passesOver fs directory around left part = false := by
  have below : fs.get? (around ++ relative) = (fs.get? around).bind (·.get? relative) :=
    Files.Node.get?_append fs.root around relative
  unfold abiLocations
  cases found : fs.get? around with
  | none =>
    rw [found, Option.bind_none] at below
    simp [FileSystem.stored, below]
  | some node =>
    rw [found, Option.bind_some] at below
    have file {content : ByteArray} : fs.stored (around ++ relative) = some (.file content) ↔
        node.get? relative = some (.file content) := by
      rw [← below]
      exact ⟨FileSystem.get?_of_stored_file, fun there => by rw [FileSystem.stored, there]; rfl⟩
    simp only [List.mem_filter, (distinct.of_get? found).mem_filesBelow_iff, file, List.nil_append]
    exact and_comm

theorem pairwise_abiLocations (distinct : fs.root.HasDistinctNames) (directory : Path)
    (around : Location) (left : Option Location) :
    (abiLocations fs directory around left).Pairwise (· < ·) := by
  unfold abiLocations
  cases found : fs.get? around with
  | none => exact .nil
  | some node => exact (distinct.of_get? found).pairwise_filesBelow.filter _

/-- What a batch is to find below a directory: a file with the name of an ABI file, and each
directory on the way there can be opened and is not the one to leave out. -/
structure IsAbiFileBelow (fs : FileSystem) (directory : Path) (around : Location) (skipped : Path)
    (relative : Location) : Prop where
  file : ∃ content, fs.stored (around ++ relative) = some (.file content)
  named : ∃ name, relative.getLast? = some name ∧ HasAbiExtension name ∧ ¬ IsManifestName name
  /-- The directory itself is on the way too. -/
  visited : ∀ part, part <+: relative → part ≠ relative →
    fs.canonicalize skipped ≠ some (around ++ part)
  opened : ∀ part, part <+: relative → part ≠ relative →
    (Files.pathBelow directory part).length ≤ Files.maxPathSize

theorem isAbiLocation_iff :
    isAbiLocation relative = true ↔
      ∃ name, relative.getLast? = some name ∧ HasAbiExtension name ∧ ¬ IsManifestName name := by
  unfold isAbiLocation
  cases relative.getLast? with
  | none => simp
  | some name => simp [isAbiName_iff]

theorem passesOver_eq_false_iff {left : Option Location} (plain : fs.NoLinks) :
    passesOver fs directory around left relative = false ↔
      left ≠ some (around ++ relative) ∧
        Files.checkPath (Files.pathBelow directory relative) = .ok () := by
  have opened : (Files.checkPath (Files.pathBelow directory relative)).toBool = true ↔
      Files.checkPath (Files.pathBelow directory relative) = .ok () := by
    cases Files.checkPath (Files.pathBelow directory relative) <;> simp [Except.toBool]
  rw [← opened, passesOver, plain.isLink_eq_false, Bool.or_eq_false_iff, Bool.not_eq_false',
    Bool.and_false, Bool.not_false, Bool.and_true, decide_eq_false_iff_not, eq_comm]

theorem storable_of_file {content : ByteArray} (tree : fs.root.IsTree)
    (file : fs.stored (around ++ relative) = some (.file content)) :
    ∀ name ∈ relative, Files.IsStorable name := fun name part =>
  (tree.of_get? (FileSystem.get?_of_stored_file file)).2 name (List.mem_append_right around part)

theorem mem_abiLocations_iff_isAbiFileBelow (tree : fs.root.IsTree)
    (located : fs.locate directory = .ok around) :
    relative ∈ abiLocations fs directory around (fs.canonicalize skipped) ↔
      IsAbiFileBelow fs directory around skipped relative := by
  have plain := FileSystem.noLinks_of_isTree tree
  have checked := (FileSystem.locate_eq_ok_iff.mp located).1
  rw [mem_abiLocations_iff tree.hasDistinctNames, isAbiLocation_iff]
  have onTheWay {content : ByteArray} {part : Location}
      (file : fs.stored (around ++ relative) = some (.file content)) (inside : part <+: relative) :
      Files.checkPath (Files.pathBelow directory part) = .ok () ↔
        (Files.pathBelow directory part).length ≤ Files.maxPathSize :=
    Files.checkPath_pathBelow_iff
      (fun name member => storable_of_file tree file name (inside.subset member)) checked
  constructor
  · rintro ⟨named, ⟨content, file⟩, visited⟩
    have each (part : Location) (inside : part <+: relative) (proper : part ≠ relative) :=
      (passesOver_eq_false_iff plain).mp (visited part inside proper)
    exact ⟨⟨content, file⟩, named, fun part inside proper => (each part inside proper).1,
      fun part inside proper => (onTheWay file inside).mp (each part inside proper).2⟩
  · rintro ⟨⟨content, file⟩, named, visited, opened⟩
    refine ⟨named, ⟨content, file⟩, fun part inside proper => ?_⟩
    exact (passesOver_eq_false_iff plain).mpr
      ⟨visited part inside proper, (onTheWay file inside).mpr (opened part inside proper)⟩

/-! ## 2. Paths -/

/-- Paths that are those of all ABI files below a directory. -/
structure ListsAbiFiles (fs : FileSystem) (directory : Path) (around : Location)
    (skipped : Path) (relatives : List Location) (paths : List Path) : Prop where
  paths_eq : paths = relatives.map (Files.pathBelow directory)
  leads : ∀ relative ∈ relatives,
    fs.Leads (Files.pathBelow directory relative) (around ++ relative)
  mem_iff : ∀ relative,
    relative ∈ relatives ↔ IsAbiFileBelow fs directory around skipped relative
  once : paths.Nodup
  /-- Names are compared one after the other, by their bytes. -/
  inOrder : relatives.Pairwise (· < ·)

theorem IsAbiFileBelow.leads (below : IsAbiFileBelow fs directory around skipped relative)
    (tree : fs.root.IsTree) (located : fs.locate directory = .ok around) :
    fs.Leads (Files.pathBelow directory relative) (around ++ relative) := by
  have plain := FileSystem.noLinks_of_isTree tree
  obtain ⟨content, file⟩ := below.file
  refine FileSystem.leads_pathBelow plain (plain.leads_of_locate located)
    (storable_of_file tree file) ?_
  rw [file]
  rfl

theorem pathBelow_inj {first second : Location} (storable : ∀ name ∈ first, Files.IsStorable name)
    (storable' : ∀ name ∈ second, Files.IsStorable name)
    (same : Files.pathBelow directory first = Files.pathBelow directory second) :
    first = second := by
  have parts := congrArg Files.parts same
  rw [Files.parts_pathBelow storable, Files.parts_pathBelow storable'] at parts
  exact List.append_cancel_left parts

theorem exists_of_isDirectory (there : fs.isDirectory directory = true) :
    ∃ around, fs.locate directory = .ok around ∧ fs.stored around = some .directory := by
  unfold FileSystem.isDirectory at there
  split at there
  · next around located => exact ⟨around, located, FileSystem.hasDirectory_iff.mp there⟩
  · cases there

/-- Whatever is in a directory of a tree without links, its ABI files are found, each of them
once, and they come in the order of the names on the way to them. Nothing else is found. -/
theorem abi_files_found_once_in_order (fs : FileSystem) (directory skipped : Path)
    (tree : fs.root.IsTree) (there : fs.isDirectory directory = true) :
    ∃ around relatives paths, fs.locate directory = .ok around ∧
      findAbiFiles fs directory skipped = .ok paths ∧
      ListsAbiFiles fs directory around skipped relatives paths := by
  have distinct := tree.hasDistinctNames
  obtain ⟨around, located, inside⟩ := exists_of_isDirectory there
  have listed {relative : Location} :
      relative ∈ abiLocations fs directory around (fs.canonicalize skipped) ↔
        IsAbiFileBelow fs directory around skipped relative :=
    mem_abiLocations_iff_isAbiFileBelow tree located
  have storable {relative : Location}
      (member : relative ∈ abiLocations fs directory around (fs.canonicalize skipped)) :
      ∀ name ∈ relative, Files.IsStorable name := by
    obtain ⟨content, file⟩ := (listed.mp member).file
    exact storable_of_file tree file
  have sorted := pairwise_abiLocations distinct directory around (fs.canonicalize skipped)
  have different : (abiLocations fs directory around (fs.canonicalize skipped)).Nodup := by
    refine sorted.imp fun below => ?_
    rintro rfl
    exact List.lt_irrefl _ below
  refine ⟨around, _, _, located, findAbiFiles_eq_ok_iff.mpr ⟨around, located, inside, rfl⟩,
    ⟨rfl, ?_, fun _ => listed, ?_, sorted⟩⟩
  · exact fun relative member => (listed.mp member).leads tree located
  · refine List.Nodup.map_on ?_ different
    intro first inFirst second inSecond same
    exact pathBelow_inj (storable inFirst) (storable inSecond) same

/-- A tree where `a` and `a.json` are side by side, with names that are nearly those of ABI
files. -/
def interleavedInputs : FileSystem :=
  { root := .directory [(bytes "in", .directory [(bytes "a.json", .file .empty),
      (bytes ".json", .file .empty),
      (bytes "a", .directory [(bytes "out", .directory [(bytes "c.abi", .file .empty)]),
        (bytes "b.v2.abi", .file .empty)]),
      (bytes "a.manifest.json", .file .empty), (bytes "a.ABI", .file .empty)])]
    workingDirectory := [] }

theorem isTree_interleavedInputs : interleavedInputs.root.IsTree := by
  refine .directory (by decide) (by decide +kernel) (List.forall_mem_singleton.mpr ?_)
  refine .directory (by decide) (by decide +kernel) ?_
  simp only [List.forall_mem_cons]
  refine ⟨.file _, .file _, ?_, .file _, .file _, fun _ listed => absurd listed List.not_mem_nil⟩
  refine .directory (by decide) (by decide +kernel) ?_
  refine List.forall_mem_cons.mpr ⟨?_, List.forall_mem_singleton.mpr (.file _)⟩
  exact .directory (by decide) (by decide +kernel) (List.forall_mem_singleton.mpr (.file _))

/-- What is in `a` comes before `a.json`, also where the path as a whole is behind it. -/
theorem abi_files_found_once_in_order_interleaved :
    interleavedInputs.root.IsTree ∧ interleavedInputs.isDirectory (bytes "in") = true ∧
      ∃ relatives, ListsAbiFiles interleavedInputs (bytes "in") [bytes "in"] (bytes "in/a/out")
        relatives [bytes "in/a/b.v2.abi", bytes "in/a.json"] := by
  have tree := isTree_interleavedInputs
  have there : interleavedInputs.isDirectory (bytes "in") = true := by decide +kernel
  obtain ⟨around, relatives, paths, located, found, lists⟩ :=
    abi_files_found_once_in_order interleavedInputs (bytes "in") (bytes "in/a/out") tree there
  have same : findAbiFiles interleavedInputs (bytes "in") (bytes "in/a/out") =
      .ok [bytes "in/a/b.v2.abi", bytes "in/a.json"] :=
    Outcome.toOption_eq_some_iff.mp (by decide +kernel)
  have place : interleavedInputs.locate (bytes "in") = .ok [bytes "in"] :=
    Outcome.toOption_eq_some_iff.mp (by decide +kernel)
  obtain rfl := Except.ok.inj (place.symm.trans located)
  obtain rfl := Except.ok.inj (same.symm.trans found)
  exact ⟨tree, there, relatives, lists⟩

/-! ## 3. What names do not tell -/

/-- What a batch would find by the names alone: a directory is left out if the path leads to
it, and a manifest is told by how its name ends. -/
structure IsNamedAbiFileBelow (fs : FileSystem) (around : Location) (skipped : Path)
    (relative : Location) : Prop where
  file : ∃ content, fs.stored (around ++ relative) = some (.file content)
  named : ∃ name, relative.getLast? = some name ∧ HasAbiExtension name ∧
    ¬ bytes ".manifest.json" <:+ name
  visited : ∀ part, part <+: relative → part ≠ relative →
    fs.locate skipped ≠ .ok (around ++ part)

/-- The name of a manifest, apart from its first byte, with which it is no text. -/
def oddManifest : Name :=
  0xff :: bytes ".manifest.json"

/-- A tree with an ABI file in `in/dd`, and a manifest whose name is no text. -/
def oddInputs : FileSystem :=
  { root := .directory [(bytes "in", .directory
      [(bytes "dd", .directory [(bytes "x.abi", .file .empty)]), (oddManifest, .file .empty)])]
    workingDirectory := [] }

theorem isTree_oddInputs : oddInputs.root.IsTree := by
  refine .directory (by decide) (by decide +kernel) (List.forall_mem_singleton.mpr ?_)
  refine .directory (by decide +kernel) (by decide +kernel) (List.forall_mem_cons.mpr ⟨?_, ?_⟩)
  · exact .directory (by decide) (by decide +kernel) (List.forall_mem_singleton.mpr (.file _))
  · exact List.forall_mem_singleton.mpr (.file _)

/-- The directory `in`, with a path that can be opened, where that of `in/dd` cannot. -/
def longDirectory : Path :=
  bytes "in" ++ List.replicate 4092 Files.slash

/-- The ABI file is passed over, and the manifest is taken for one. -/
theorem long_paths_and_odd_names_matter :
    oddInputs.root.IsTree ∧ oddInputs.locate longDirectory = .ok [bytes "in"] ∧
      IsNamedAbiFileBelow oddInputs [bytes "in"] (bytes "out") [bytes "dd", bytes "x.abi"] ∧
      ¬ IsNamedAbiFileBelow oddInputs [bytes "in"] (bytes "out") [oddManifest] ∧
      findAbiFiles oddInputs longDirectory (bytes "out") =
        .ok [Files.pathBelow longDirectory [oddManifest]] := by
  have located : oddInputs.locate longDirectory = .ok [bytes "in"] :=
    Outcome.toOption_eq_some_iff.mp (by decide +kernel)
  have nowhere (place : Location) : oddInputs.locate (bytes "out") ≠ .ok place := by
    have absent : (oddInputs.locate (bytes "out")).toOption = none := by decide +kernel
    intro there
    rw [there] at absent
    cases absent
  refine ⟨isTree_oddInputs, located, ⟨⟨.empty, rfl⟩, ?_, fun _ _ _ => nowhere _⟩, ?_, ?_⟩
  · exact ⟨bytes "x.abi", rfl, ⟨bytes "x", by decide, .inl (by decide)⟩, by decide +kernel⟩
  · rintro ⟨_, ⟨name, last, _, noManifest⟩, _⟩
    cases last
    exact noManifest ⟨[0xff], rfl⟩
  · have listed : abiLocations oddInputs longDirectory [bytes "in"]
        (oddInputs.canonicalize (bytes "out")) = [[oddManifest]] := by decide +kernel
    refine findAbiFiles_eq_ok_iff.mpr ⟨[bytes "in"], located, rfl, ?_⟩
    rw [listed, List.map_singleton]

end ContractBinder.CommandLine
