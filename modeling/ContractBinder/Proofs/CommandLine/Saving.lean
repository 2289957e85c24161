import ContractBinder.CommandLine.Run
import ContractBinder.Proofs.Files.Action
import ContractBinder.Proofs.Files.Writing
import ContractBinder.Proofs.Naming.FileStems

/-!
# Modules that are saved

Saving a module makes its output directory, writes its files where their paths lead and
changes nothing else (`written_of_save`). Without links these files lie directly in the
output directory (`savedIn_of_save`). Generating for one ABI file does this last, so if it
fails for another reason than that a file cannot be written, there are no files that were
not there before (`refuses_of_generateFile`): at most directories were made.
-/

namespace ContractBinder

open Files (Action FileSystem IsName Location Name Path)
open Text (bytes)

/-! ## 1. Saving -/

namespace Generated

variable {abi : String} {config : Config} {generated : Generated} {output : OutputConfig}
  {before after : FileSystem} {directory : Location}

/-- The names of the files of a module. -/
def fileNames (generated : Generated) (output : OutputConfig) : List Name :=
  bytes (generated.fileStem ++ ".rs") ::
    if output.writeManifest then [bytes (generated.fileStem ++ manifestEnding)] else []

/-- The paths of the files of a module. -/
def filePaths (generated : Generated) (output : OutputConfig) : List Path :=
  (generated.fileNames output).map (Files.join output.outputDir)

/-- The module and its manifest, if one is wanted, are in the files that their paths lead to,
and nothing else has changed but for directories on the way to the output directory. Should
both paths lead to one file, the manifest is in it. -/
structure Written (generated : Generated) (output : OutputConfig) (before after : FileSystem)
    (files : List Location) : Prop where
  located : (generated.filePaths output).map after.locate = files.map .ok
  writes : before.Writes after files (after.OnTheWay output.outputDir)
  source : files.Nodup →
    after.readText (generated.sourcePath output.outputDir) = .ok generated.source
  manifest : output.writeManifest = true →
    after.readText (generated.manifestPath output.outputDir) =
      .ok (generated.manifest.text output.prettyJson)

/-- The module and its manifest, if one is wanted, are in the directory that the output
path leads to. -/
structure StandsIn (generated : Generated) (output : OutputConfig) (fs : FileSystem)
    (directory : Location) : Prop where
  source :
    fs.Holds output.outputDir (bytes (generated.fileStem ++ ".rs")) generated.source directory
  manifest : output.writeManifest = true →
    fs.Holds output.outputDir (bytes (generated.fileStem ++ manifestEnding))
      (generated.manifest.text output.prettyJson) directory

/-- They are there, and nothing else has changed but for directories on the way there. -/
structure SavedIn (generated : Generated) (output : OutputConfig) (before after : FileSystem)
    (directory : Location) : Prop extends generated.StandsIn output after directory where
  writes : before.Writes after ((generated.fileNames output).map fun name => directory ++ [name])
    (after.OnTheWay output.outputDir)

/-- What stands in a directory goes on to stand there while other files are written. -/
theorem StandsIn.of_writes {fs : FileSystem} {files : List Location}
    {new : Location → Prop} (stands : generated.StandsIn output fs directory)
    (writes : fs.Writes after files new)
    (unlisted : ∀ name ∈ generated.fileNames output, directory ++ [name] ∉ files) :
    generated.StandsIn output after directory where
  source := stands.source.of_writes writes (unlisted _ List.mem_cons_self)
  manifest := by
    intro wanted
    refine (stands.manifest wanted).of_writes writes (unlisted _ ?_)
    rw [fileNames, if_pos wanted]
    exact List.mem_cons_of_mem _ List.mem_cons_self

theorem isName_source (made : (generate abi config).outcome = .ok generated) :
    IsName (bytes (generated.fileStem ++ ".rs")) :=
  isName_of_generate made (by decide) ⟨'r', by decide, by decide⟩

theorem isName_manifest (made : (generate abi config).outcome = .ok generated) :
    IsName (bytes (generated.fileStem ++ manifestEnding)) :=
  isName_of_generate made (by decide) ⟨'m', by decide, by decide⟩

def saved (generated : Generated) (output : OutputConfig) : Saved where
  sourcePath := generated.sourcePath output.outputDir
  manifestPath :=
    if output.writeManifest then some (generated.manifestPath output.outputDir) else none

variable {saved : Saved}

theorem ends_makeOutputDirectory_ok_iff {path : Path} :
    (makeOutputDirectory path).Ends before (.ok ()) after ↔
      before.makeDirectoryAt path = (after, .ok ()) := by
  unfold Action.Ends makeOutputDirectory
  obtain ⟨changed, outcome⟩ := before.makeDirectoryAt path
  simp only [Logged.silent, Outcome.mapError_eq_ok_iff, Prod.mk.injEq]
  exact and_comm

/-- The steps of saving: the directory, the module, and the manifest if it is wanted. -/
theorem steps_of_save
    (done : (generated.save output).Ends before (.ok saved) after) :
    saved = generated.saved output ∧ ∃ prepared written,
      before.makeDirectoryAt output.outputDir = (prepared, .ok ()) ∧
      prepared.writeText (generated.sourcePath output.outputDir) generated.source = .ok written ∧
      if output.writeManifest then
        written.writeText (generated.manifestPath output.outputDir)
          (generated.manifest.text output.prettyJson) = .ok after
      else after = written := by
  unfold save at done
  obtain ⟨_, prepared, directoryMade, rest⟩ := Action.ends_bind_ok_iff.mp done
  obtain ⟨_, written, sourceWritten, rest⟩ := Action.ends_bind_ok_iff.mp rest
  obtain ⟨_, same, said, rest⟩ := Action.ends_bind_ok_iff.mp rest
  rw [(Action.ends_ofLogged_iff.mp said).2] at rest
  rw [Action.ends_change_ok_iff, Outcome.mapError_eq_ok_iff] at sourceWritten
  rw [ends_makeOutputDirectory_ok_iff] at directoryMade
  unfold Generated.saved
  split at rest
  · next wanted =>
    obtain ⟨_, last, manifestWritten, rest⟩ := Action.ends_bind_ok_iff.mp rest
    obtain ⟨_, same, said, rest⟩ := Action.ends_bind_ok_iff.mp rest
    rw [(Action.ends_ofLogged_iff.mp said).2] at rest
    obtain ⟨returned, rfl⟩ := Action.ends_pure_iff.mp rest
    unfold Manifest.save at manifestWritten
    rw [Action.ends_change_ok_iff, Outcome.mapError_eq_ok_iff] at manifestWritten
    rw [if_pos wanted]
    refine ⟨Except.ok.inj returned, prepared, written, directoryMade, sourceWritten, ?_⟩
    rwa [if_pos wanted]
  · next unwanted =>
    obtain ⟨returned, rfl⟩ := Action.ends_pure_iff.mp rest
    rw [if_neg unwanted]
    refine ⟨Except.ok.inj returned, prepared, after, directoryMade, sourceWritten, ?_⟩
    rw [if_neg unwanted]

theorem written_of_save (done : (generated.save output).Ends before (.ok saved) after) :
    ∃ files, generated.Written output before after files := by
  obtain ⟨_, prepared, written, directoryMade, sourceWritten, rest⟩ := steps_of_save done
  have making := Files.FileSystem.writes_makeDirectoryAt before output.outputDir
  rw [directoryMade] at making
  obtain ⟨source, sourceAt, sourceThere, writing⟩ :=
    Files.FileSystem.writes_of_writeText sourceWritten
  have first := (making.mono fun _ onTheWay => onTheWay.of_extends writing.extends).trans
    (writing.mono fun _ => False.elim)
  split at rest
  · next wanted =>
    obtain ⟨manifest, manifestAt, manifestThere, ending⟩ :=
      Files.FileSystem.writes_of_writeText rest
    have sourceStill := Files.FileSystem.locate_of_extends ending.extends sourceAt
    refine ⟨[source, manifest], ?_, ?_, fun apart => ?_, fun _ => ?_⟩
    · rw [filePaths, fileNames, if_pos wanted]
      simp only [List.map_cons, List.map_nil]
      exact congrArg₂ (fun source manifest => [source, manifest]) sourceStill manifestAt
    · exact (first.mono fun _ onTheWay => onTheWay.of_extends ending.extends).trans
        (ending.mono fun _ => False.elim)
    · refine Files.FileSystem.readText_of_stored sourceStill ((ending.file_iff ?_).mpr sourceThere)
      simpa using apart
    · exact Files.FileSystem.readText_of_stored manifestAt manifestThere
  · next unwanted =>
    subst rest
    refine ⟨[source], ?_, first, fun _ => ?_, fun wanted => absurd wanted unwanted⟩
    · rw [filePaths, fileNames, if_neg unwanted]
      exact congrArg (fun source => [source]) sourceAt
    · exact Files.FileSystem.readText_of_stored sourceAt sourceThere

theorem savedIn_of_save (plain : before.NoLinks)
    (made : (generate abi config).outcome = .ok generated)
    (done : (generated.save output).Ends before (.ok saved) after) :
    ∃ directory, generated.SavedIn output before after directory := by
  obtain ⟨_, prepared, written, directoryMade, sourceWritten, rest⟩ := steps_of_save done
  have making := Files.FileSystem.writes_makeDirectoryAt before output.outputDir
  rw [directoryMade] at making
  have preparedPlain := plain.of_extends making.extends
  obtain ⟨directory, writing, source⟩ :=
    Files.FileSystem.holds_of_writeText preparedPlain (isName_source made) sourceWritten
  have first := (making.mono fun _ onTheWay => onTheWay.of_extends writing.extends).trans
    (writing.mono fun _ => False.elim)
  split at rest
  · next wanted =>
    obtain ⟨around, ending, manifest⟩ := Files.FileSystem.holds_of_writeText
      (preparedPlain.of_extends writing.extends) (isName_manifest made) rest
    -- Both files lie in the directory that the path leads to in the end.
    have same : directory = around := (ending.leads source.leads).eq manifest.leads
    subst same
    have apart : directory ++ [bytes (generated.fileStem ++ ".rs")] ∉
        [directory ++ [bytes (generated.fileStem ++ manifestEnding)]] := by
      have differs := Naming.source_ne_manifest generated.fileStem generated.fileStem
      simpa using mt (@Text.bytes_injective _ _) differs
    have both := (first.mono fun _ onTheWay => onTheWay.of_extends ending.extends).trans
      (ending.mono fun _ => False.elim)
    refine ⟨directory, ⟨source.of_writes ending apart, fun _ => manifest⟩, ?_⟩
    simpa [fileNames, wanted] using both
  · next unwanted =>
    subst rest
    refine ⟨directory, ⟨source, fun wanted => absurd wanted unwanted⟩, ?_⟩
    simpa [fileNames, unwanted] using first

/-- Saving fails if the output directory cannot be made, before a file is written, or if a file
cannot be written. -/
theorem fault_of_save {fault : SaveFault}
    (failed : (generated.save output).Ends before (.error fault) after) :
    (∃ cause, fault = .directory output.outputDir cause ∧
        before.makeDirectoryAt output.outputDir = (after, .error cause)) ∨
      ∃ path cause, fault = .source path cause ∨ fault = .manifest path cause := by
  unfold save at failed
  rcases Action.ends_bind_error_iff.mp failed with making | ⟨_, prepared, _, rest⟩
  · obtain ⟨outcome, left⟩ := making
    simp only [makeOutputDirectory, Logged.silent, Outcome.mapError_eq_error_iff] at outcome left
    obtain ⟨cause, outcome, rfl⟩ := outcome
    exact .inl ⟨cause, rfl, Prod.ext left outcome⟩
  refine .inr ?_
  rcases Action.ends_bind_error_iff.mp rest with source | ⟨_, written, _, rest⟩
  · obtain ⟨cause, _, rfl⟩ :=
      Outcome.mapError_eq_error_iff.mp (Action.ends_change_error_iff.mp source).1
    exact ⟨_, cause, .inl rfl⟩
  rcases Action.ends_bind_error_iff.mp rest with said | ⟨_, _, _, rest⟩
  · cases (Action.ends_ofLogged_iff.mp said).1
  split at rest
  · rcases Action.ends_bind_error_iff.mp rest with manifest | ⟨_, _, _, rest⟩
    · obtain ⟨cause, _, rfl⟩ :=
        Outcome.mapError_eq_error_iff.mp (Action.ends_change_error_iff.mp manifest).1
      exact ⟨_, cause, .inr rfl⟩
    rcases Action.ends_bind_error_iff.mp rest with said | ⟨_, _, _, rest⟩
    · cases (Action.ends_ofLogged_iff.mp said).1
    · cases (Action.ends_pure_iff.mp rest).1
  · cases (Action.ends_pure_iff.mp rest).1

end Generated

namespace CommandLine

/-! ## 2. One input -/

variable {formatter : Formatter} {before after fs : FileSystem} {input : Path} {config : Config}
  {file : GeneratedFile} {fault : RunFault}

/-- The input is read, and the module that is generated for it is saved: in a tree without
links, in the directory that the output path leads to. -/
inductive Saves (config : Config) (before : FileSystem) (input : Path) (file : GeneratedFile)
    (after : FileSystem) : Prop
  | intro {text : String} {generated : Generated} {files : List Location} :
      before.readText input = .ok text → (generate text config).outcome = .ok generated →
      generated.Written config.output before after files →
      (before.NoLinks → ∃ directory, generated.SavedIn config.output before after directory) →
      file.sourcePath = (generated.saved config.output).sourcePath →
      file.manifestPath = (generated.saved config.output).manifestPath →
      Saves config before input file after

/-- The fault is that a file cannot be written. -/
def RunFault.isWriteFault : RunFault → Bool
  | save (.source _ _) | save (.manifest _ _) => true
  | _ => false

/-- No file is written: a run has stopped before, and has changed nothing but for directories on
the way to an output directory that could not be made. -/
inductive StopsEarly (before : FileSystem) : RunFault → FileSystem → Prop
  | unchanged (fault : RunFault) : StopsEarly before fault before
  | directory {path : Path} {cause : Files.Fault} {after : FileSystem} :
      before.Writes after [] (after.OnTheWay path) →
      StopsEarly before (.save (.directory path cause)) after

/-- Why no module is generated for an input, given the settings that are made for it. -/
inductive Refuses (fs : FileSystem) (input : Path) (built : Except RunFault Config) :
    RunFault → Prop
  | settings {fault : RunFault} : built = .error fault → Refuses fs input built fault
  | unreadable {config : Config} {cause : Files.Fault} : built = .ok config →
      fs.readText input = .error cause → Refuses fs input built (.unreadableAbi input cause)
  | generation {config : Config} {text : String} {cause : BindingFault} : built = .ok config →
      fs.readText input = .ok text → (generate text config).outcome = .error cause →
      Refuses fs input built (.generation input cause)
  | directory {config : Config} {text : String} {generated : Generated} {cause : Files.Fault} :
      built = .ok config → fs.readText input = .ok text →
      (generate text config).outcome = .ok generated →
      (fs.makeDirectoryAt config.output.outputDir).2 = .error cause →
      Refuses fs input built (.save (.directory config.output.outputDir cause))

/-- The steps of generating for an input: it is read, and what is generated for it is saved. -/
theorem steps_of_generateFile
    (done : (generateFile formatter input config false).Ends before (.ok file) after) :
    ∃ text generated saved, before.readText input = .ok text ∧
      (generate text config).outcome = .ok generated ∧
      (generated.save config.output).Ends before (.ok saved) after ∧
      file =
        { contractName := generated.bindings.contractName
          abiFile := input
          sourcePath := saved.sourcePath
          manifestPath := saved.manifestPath
          functions := generated.bindings.functions.length
          events := generated.bindings.events.length
          warnings := (generate text config).warnings } := by
  unfold generateFile at done
  rcases Action.ends_look_bind done with ⟨_, _, failed, _⟩ | ⟨text, found, rest⟩
  · cases failed
  rcases Action.ends_ofLogged_bind rest with ⟨_, _, failed, _⟩ | ⟨generated, made, rest⟩
  · cases failed
  obtain ⟨saved, _, saving, rest⟩ := Action.ends_bind_ok_iff.mp rest
  rw [if_neg Bool.false_ne_true] at rest
  obtain ⟨returned, rfl⟩ := Action.ends_pure_iff.mp rest
  rw [Outcome.mapError_eq_ok_iff] at found
  rw [Logged.mapFailure_outcome_eq_ok_iff] at made
  rw [Action.ends_mapFailure_ok_iff] at saving
  exact ⟨text, generated, saved, found, made, saving, Except.ok.inj returned⟩

theorem saves_of_generateFile
    (done : (generateFile formatter input config false).Ends before (.ok file) after) :
    Saves config before input file after := by
  obtain ⟨text, generated, saved, found, made, saving, rfl⟩ := steps_of_generateFile done
  obtain ⟨files, written⟩ := Generated.written_of_save saving
  have paths := (Generated.steps_of_save saving).1
  exact .intro found made written (fun plain => Generated.savedIn_of_save plain made saving)
    (congrArg Saved.sourcePath paths) (congrArg Saved.manifestPath paths)

/-- Unless a file cannot be written, generating for an input fails before any file is. -/
theorem refuses_of_generateFile (noWriteFault : fault.isWriteFault = false)
    (failed : (generateFile formatter input config false).Ends before (.error fault) after) :
    StopsEarly before fault after ∧ Refuses before input (.ok config) fault := by
  unfold generateFile at failed
  rcases Action.ends_look_bind failed with ⟨_, missing, ended, rfl⟩ | ⟨text, found, rest⟩
  · cases ended
    obtain ⟨cause, unreadable, rfl⟩ := Outcome.mapError_eq_error_iff.mp missing
    exact ⟨.unchanged _, .unreadable rfl unreadable⟩
  rw [Outcome.mapError_eq_ok_iff] at found
  rcases Action.ends_ofLogged_bind rest with ⟨_, unmade, ended, rfl⟩ | ⟨generated, made, rest⟩
  · cases ended
    obtain ⟨cause, generation, rfl⟩ := Logged.mapFailure_outcome_eq_error_iff.mp unmade
    exact ⟨.unchanged _, .generation rfl found generation⟩
  rw [Logged.mapFailure_outcome_eq_ok_iff] at made
  rcases Action.ends_bind_error_iff.mp rest with saving | ⟨_, _, _, rest⟩
  · obtain ⟨_, saveFailed, rfl⟩ := Action.ends_mapFailure_error_iff.mp saving
    rcases Generated.fault_of_save saveFailed with ⟨cause, rfl, making⟩ | ⟨_, _, rfl | rfl⟩
    · have writes := FileSystem.writes_makeDirectoryAt before config.output.outputDir
      rw [making] at writes
      exact ⟨.directory writes, .directory rfl found made (by rw [making])⟩
    · cases noWriteFault
    · cases noWriteFault
  · rw [if_neg Bool.false_ne_true] at rest
    cases (Action.ends_pure_iff.mp rest).1

end CommandLine

end ContractBinder
