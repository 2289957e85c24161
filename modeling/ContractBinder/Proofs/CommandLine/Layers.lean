import ContractBinder.Proofs.CommandLine.Runs

/-!
# Settings in layers

What is said about settings comes in layers (`Layer`): the options of the command line,
and below them the keys of a file with settings. The upper layer counts where both say
something, and where none says anything the default does.

The code never sees the layer of the file. It fills the defaults in as it reads the file,
puts the options in place of what it has, and then asks for the name of the contract
whether there is a file, not whether the file says a name.

Results:
1. `Layer.fill_above`: filling in layer by layer is filling in once.
2. `Config.ofMembers?_eq`: to read settings is to read what the keys say and to fill in the
   defaults.
3. `settings_come_in_layers`: a run for one ABI file uses the settings of the layers. The
   default of the contract's name is the one of the ABI file if there is no file with
   settings; else it is a fixed one, so such a file matters even if it says no name
   (`settings_file_hides_file_name`).
-/

namespace ContractBinder

/-! ## 1. Layers -/

/-- What is said about settings: a value for each setting that is mentioned. -/
structure Layer where
  contractName : Option String
  runtimePath : Option String
  nativeTypes : Option Bool
  generateEvents : Option Bool
  emitDocs : Option Bool
  outputDir : Option Files.Path
  writeManifest : Option Bool
  prettyJson : Option Bool
  deriving DecidableEq, Repr

namespace Layer

/-- Nothing is said. -/
def empty : Layer :=
  ⟨none, none, none, none, none, none, none, none⟩

/-- What two layers say together. Where both say something, the upper one counts. -/
def above (upper lower : Layer) : Layer :=
  { contractName := upper.contractName.or lower.contractName
    runtimePath := upper.runtimePath.or lower.runtimePath
    nativeTypes := upper.nativeTypes.or lower.nativeTypes
    generateEvents := upper.generateEvents.or lower.generateEvents
    emitDocs := upper.emitDocs.or lower.emitDocs
    outputDir := upper.outputDir.or lower.outputDir
    writeManifest := upper.writeManifest.or lower.writeManifest
    prettyJson := upper.prettyJson.or lower.prettyJson }

/-- The settings that a layer says, and other ones where it says nothing. -/
def fill (layer : Layer) (other : Config) : Config :=
  { contractName := layer.contractName.getD other.contractName
    runtimePath := layer.runtimePath.getD other.runtimePath
    nativeTypes := layer.nativeTypes.getD other.nativeTypes
    generateEvents := layer.generateEvents.getD other.generateEvents
    emitDocs := layer.emitDocs.getD other.emitDocs
    output :=
      { outputDir := layer.outputDir.getD other.output.outputDir
        writeManifest := layer.writeManifest.getD other.output.writeManifest
        prettyJson := layer.prettyJson.getD other.output.prettyJson } }

theorem fill_above (upper lower : Layer) (other : Config) :
    (upper.above lower).fill other = upper.fill (lower.fill other) := by
  simp only [above, fill, Option.getD_or]

end Layer

/-! ## 2. Files with settings -/

/-- What a key says, if it is there. A value of another kind is not read. -/
def Toml.Members.said? {α : Type} (members : Members) (key : String) (read : Toml → Option α) :
    Option (Option α) :=
  match members.lookup key with
  | some value => (read value).map some
  | none => some none

/-- The output settings as members: those of a table, or values in the order of the keys. -/
def OutputConfig.membersOf? : Toml → Option Toml.Members
  | .table _ members => some members
  | .array elements => some (OutputConfig.keys.zip elements)
  | .moment => some []
  | .tables elements =>
    some (OutputConfig.keys.zip (elements.map fun members => Toml.table .header members))
  | _ => none

/-- What the members of a document say about settings. -/
def Layer.ofMembers? (members : Toml.Members) : Option Layer := do
  let contractName ← members.said? "contract_name" Toml.textOf?
  let runtimePath ← members.said? "runtime_path" Toml.textOf?
  let nativeTypes ← members.said? "native_types" Toml.flagOf?
  let generateEvents ← members.said? "generate_events" Toml.flagOf?
  let emitDocs ← members.said? "emit_docs" Toml.flagOf?
  let output := (← members.said? "output" OutputConfig.membersOf?).getD []
  let outputDir ← output.said? "output_dir" Toml.pathOf?
  let writeManifest ← output.said? "write_manifest" Toml.flagOf?
  let prettyJson ← output.said? "pretty_json" Toml.flagOf?
  return { contractName, runtimePath, nativeTypes, generateEvents, emitDocs, outputDir,
           writeManifest, prettyJson }

variable {members : Toml.Members}

theorem Toml.Members.read?_eq {α : Type} (members : Members) (key : String)
    (read : Toml → Option α) (other : α) :
    members.read? key read other = (members.said? key read).map (·.getD other) := by
  unfold read? said?
  cases members.lookup key with
  | none => rfl
  | some value =>
    show read value = ((read value).map some).map (·.getD other)
    cases read value <;> rfl

theorem OutputConfig.ofToml?_eq (value : Toml) :
    OutputConfig.ofToml? value = (OutputConfig.membersOf? value).bind OutputConfig.ofMembers? := by
  cases value <;> rfl

/-- Without output settings it is as if there were no members in them. -/
theorem OutputConfig.read?_eq (members : Toml.Members) :
    members.read? "output" OutputConfig.ofToml? OutputConfig.default =
      (members.said? "output" OutputConfig.membersOf?).bind fun output =>
        OutputConfig.ofMembers? (output.getD []) := by
  unfold Toml.Members.read? Toml.Members.said?
  cases members.lookup "output" with
  | none => rfl
  | some value =>
    show OutputConfig.ofToml? value = ((OutputConfig.membersOf? value).map some).bind _
    rw [OutputConfig.ofToml?_eq, Option.bind_map]
    rfl

theorem Config.ofMembers?_eq (members : Toml.Members) :
    Config.ofMembers? members = (Layer.ofMembers? members).map (·.fill Config.default) := by
  unfold Config.ofMembers? Layer.ofMembers?
  rw [OutputConfig.read?_eq]
  simp only [OutputConfig.ofMembers?, Toml.Members.read?_eq]
  simp only [Option.bind_eq_bind, Option.map_bind, Option.bind_map, Option.bind_assoc,
    Function.comp_def, Layer.fill, Option.pure_def, Option.map_some, Option.bind_some]
  rfl

/-! ## 3. Runs -/

namespace CommandLine

open Files (Action FileSystem Path)
open Text (bytes)

variable {formatter : Formatter} {abiFile path : Path} {text : String} {name : Option String}
  {settings : Settings} {fs after : FileSystem} {file : GeneratedFile} {base config : Config}
  {layer : Layer}

/-- What the options of the command line say. -/
def optionLayer (name : Option String) (settings : Settings) : Layer :=
  { Layer.empty with
    contractName := name
    runtimePath := settings.runtime
    nativeTypes := if settings.wireTypes then some false else none
    generateEvents := if settings.noEvents then some false else none
    outputDir := settings.outputDir }

/-- What a file with settings says. Where there is no such file, nothing is said. -/
inductive FileSays (fs : FileSystem) : Option Path → Layer → Prop
  | noFile : FileSays fs none .empty
  | file {path : Path} {text : String} {members : Toml.Members} {layer : Layer} :
      fs.readText path = .ok text → Toml.parse? text = some members →
      Layer.ofMembers? members = some layer → FileSays fs (some path) layer

theorem FileSays.eq {other : Layer} (said : FileSays fs (some path) layer)
    (read : fs.readText path = .ok text)
    (known : (Toml.parse? text).bind Layer.ofMembers? = some other) : layer = other := by
  cases said with
  | file readToo parsed said =>
    cases read.symm.trans readToo
    rw [parsed, Option.bind_some, said] at known
    exact Option.some.inj known

theorem fileSays_of_loadConfig (loaded : (loadConfig settings).Ends fs (.ok base) fs) :
    ∃ layer, FileSays fs settings.config layer ∧ base = layer.fill Config.default := by
  unfold loadConfig at loaded
  cases given : settings.config with
  | none =>
    rw [given] at loaded
    cases (Action.ends_pure_iff.mp loaded).1
    exact ⟨.empty, .noFile, rfl⟩
  | some path =>
    rw [given] at loaded
    rcases Action.ends_look_bind loaded with ⟨_, _, failed, _⟩ | ⟨text, read, rest⟩
    · cases failed
    split at rest
    · next config decoded =>
      unfold Config.ofToml? at decoded
      obtain ⟨members, parsed, filled⟩ := Option.bind_eq_some_iff.mp decoded
      rw [Config.ofMembers?_eq] at filled
      obtain ⟨layer, said, rfl⟩ := Option.map_eq_some_iff.mp filled
      exact ⟨layer, .file (Outcome.mapError_eq_ok_iff.mp read) parsed said,
        eq_of_validated (Action.ends_ofExcept_iff.mp rest).1⟩
    · cases (Action.ends_ofExcept_iff.mp rest).1

/-- The settings that count where nothing is said. Next to a file with settings the ABI file
does not count. -/
def defaultsFor (abiFile : Path) (settings : Settings) : Config :=
  { Config.default with
    contractName :=
      if settings.config.isSome then Config.default.contractName else contractNameOf abiFile }

theorem overridden_eq_fill (said : FileSays fs settings.config layer) :
    overridden (layer.fill Config.default) settings
        (chosenName abiFile name settings (layer.fill Config.default)) =
      ((optionLayer name settings).above layer).fill (defaultsFor abiFile settings) := by
  rw [Layer.fill_above]
  have named : chosenName abiFile name settings (layer.fill Config.default) =
      name.getD (layer.fill (defaultsFor abiFile settings)).contractName := by
    cases name with
    | some given => rfl
    | none =>
      unfold chosenName defaultsFor
      cases given : settings.config with
      | some path => simp [Layer.fill]
      | none =>
        rw [given] at said
        cases said
        simp [Layer.fill, Layer.empty]
  unfold overridden
  rw [named]
  unfold optionLayer
  cases settings.wireTypes <;> cases settings.noEvents <;>
    simp [Layer.fill, Layer.empty, defaultsFor]

/-- The module of an ABI file is saved with the settings of the layers. -/
inductive GeneratesInLayers (defaults : Config) (abiFile : Path) (name : Option String)
    (settings : Settings) (fs : FileSystem) (file : GeneratedFile) (after : FileSystem) : Prop
  | intro {layer : Layer} : FileSays fs settings.config layer →
      Saves (((optionLayer name settings).above layer).fill defaults) fs abiFile file after →
      GeneratesInLayers defaults abiFile name settings fs file after

/-- The file of a module is called after its contract. -/
theorem sourcePath_of_saves (saves : Saves config fs abiFile file after) :
    file.sourcePath = Files.join config.output.outputDir
      (bytes (Naming.fileStem (Naming.typeName config.contractName) ++ ".rs")) := by
  obtain @⟨text, generated, _, _, made, _, _, path, _⟩ := saves
  rw [path, Generated.saved, Generated.sourcePath, Generated.fileStem,
    (Generated.of_generate made).1]

/-- A run that succeeds uses for each setting what the options say, else what the file with
settings says, else the default. -/
theorem settings_come_in_layers (formatter : Formatter) (abiFile : Path) (name : Option String)
    (settings : Settings) (fs : FileSystem) (file : GeneratedFile) (after : FileSystem)
    (plain : settings.rustfmt = false)
    (done : (runGenerate formatter abiFile name settings).Ends fs (.ok file) after) :
    GeneratesInLayers (defaultsFor abiFile settings) abiFile name settings fs file after := by
  obtain @⟨base, config, loaded, built, saves⟩ := generatesOne_of_runGenerate plain done
  obtain ⟨layer, said, rfl⟩ := fileSays_of_loadConfig loaded
  obtain rfl := eq_of_buildConfig built
  rw [overridden_eq_fill said] at saves
  exact .intro said saves

/-- An ABI file next to a file with settings. -/
def withSettings (toml : String) : FileSystem :=
  { root := .directory [(bytes "Token.abi", .file "[]".toUTF8), (bytes "c.toml", .file toml.toUTF8)]
    workingDirectory := [] }

/-- A run for this ABI file, with the options that are given. -/
def runToken (given : Given) : Action RunFault GeneratedFile :=
  runGenerate missingFormatter (bytes "Token.abi") none (.ofGiven given)

/-- The name comes from the file with settings. Of two directories the one of the command line
counts. -/
theorem settings_come_in_layers_mixed :
    ∃ settings fs file after,
      settings = .ofGiven ⟨[(.config, bytes "c.toml"), (.outputDir, bytes "gen")], []⟩ ∧
      fs = withSettings "contract_name = 'Vault'\noutput.output_dir = 'other'\n" ∧
      settings.rustfmt = false ∧
      (runGenerate missingFormatter (bytes "Token.abi") none settings).Ends fs (.ok file) after ∧
      file.sourcePath = bytes "gen/vault.rs" ∧
      GeneratesInLayers (defaultsFor (bytes "Token.abi") settings) (bytes "Token.abi") none settings
        fs file after := by
  let settled := withSettings "contract_name = 'Vault'\noutput.output_dir = 'other'\n"
  have succeeds : (runToken ⟨[(.config, bytes "c.toml"), (.outputDir, bytes "gen")], []⟩
      settled).1.outcome.toOption.map GeneratedFile.sourcePath = some (bytes "gen/vault.rs") := by
    decide +kernel
  obtain ⟨file, ends, path⟩ := Action.exists_ends_of_map succeeds
  exact ⟨_, _, file, _, rfl, rfl, rfl, ends, path,
    settings_come_in_layers missingFormatter _ _ _ _ _ _ rfl ends⟩

/-- A file with settings that says no name. -/
def unnamed : String :=
  "output.write_manifest = false\n"

/-- It is not the case that a file with settings that says no name leaves the name to the ABI
file: the module is that of a contract called `Contract`. -/
theorem settings_file_hides_file_name :
    ¬ ∀ (abiFile : Path) (name : Option String) (settings : Settings) (fs : FileSystem)
        (file : GeneratedFile) (after : FileSystem), settings.rustfmt = false →
        (runGenerate missingFormatter abiFile name settings).Ends fs (.ok file) after →
        GeneratesInLayers { Config.default with contractName := contractNameOf abiFile } abiFile
          name settings fs file after := by
  intro claimed
  have succeeds : (runToken ⟨[(.config, bytes "c.toml")], []⟩
      (withSettings unnamed)).1.outcome.toOption.map GeneratedFile.sourcePath =
        some (bytes "out/contract.rs") := by
    decide +kernel
  have read : (withSettings unnamed).readText (bytes "c.toml") = .ok unnamed :=
    Outcome.toOption_eq_some_iff.mp (by decide +kernel)
  have known : (Toml.parse? unnamed).bind Layer.ofMembers? =
      some { Layer.empty with writeManifest := some false } := by
    decide +kernel
  obtain ⟨file, ends, path⟩ := Action.exists_ends_of_map succeeds
  obtain @⟨layer, said, saves⟩ := claimed _ _ _ _ _ _ rfl ends
  obtain rfl := FileSays.eq said read known
  -- The claimed settings have the name of the ABI file, so the module would be called after it.
  have expected := sourcePath_of_saves saves
  rw [path] at expected
  exact absurd expected (by decide +kernel)

end CommandLine

end ContractBinder
