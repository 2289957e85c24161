import ContractBinder.Proofs.CommandLine.Batch
import ContractBinder.Proofs.CommandLine.Discovery
import ContractBinder.Proofs.Files.Rewriting

/-!
# Batches that run again

A batch that has succeeded finds the same inputs again: what it wrote is no input, and a
directory around an input is skipped by the second run if and only if the first one
skipped it (`abiLocations_again`). It also finds what it writes there already, so it
changes nothing and says what it said before (`repeats_runBatch`).

Result: `batch_again_changes_nothing`.
-/

namespace ContractBinder

open Files (Action FileSystem IsName Location Path dotDot)
open Text (bytes)

/-! ## 1. Saving again -/

namespace Generated

variable {abi : String} {config : Config} {generated : Generated} {output : OutputConfig}
  {before after final : FileSystem} {directory : Location} {saved : Saved}

theorem repeats_makeOutputDirectory {path : Path}
    (first : before.makeDirectoryAt path = (after, .ok ()))
    (second : final.makeDirectoryAt path = (final, .ok ())) :
    (makeOutputDirectory path).Repeats before () after final where
  ends := ends_makeOutputDirectory_ok_iff.mpr first
  again := by rw [makeOutputDirectory, makeOutputDirectory, first, second]

/-- Where a module stands, saving it changes nothing. -/
theorem repeats_save (made : (generate abi config).outcome = .ok generated)
    (done : (generated.save output).Ends before (.ok saved) after)
    (stands : generated.StandsIn output final directory) (ordered : final.root.IsOrdered) :
    (generated.save output).Repeats before saved after final := by
  obtain ⟨rfl, prepared, written, directoryMade, sourceWritten, rest⟩ := steps_of_save done
  have directoryThere : final.makeDirectoryAt output.outputDir = (final, .ok ()) :=
    FileSystem.makeDirectoryAt_of_leads (by rw [directoryMade]) stands.source.leads
      stands.source.inside
  have sourceThere := stands.source.writeText_again (isName_source made) ordered
  unfold save
  refine .bind (repeats_makeOutputDirectory directoryMade directoryThere) ?_
  refine .bind (Action.repeats_change (Outcome.mapError_eq_ok_iff.mpr sourceWritten)
    (Outcome.mapError_eq_ok_iff.mpr sourceThere)) ?_
  refine .bind (Action.repeats_ofLogged rfl) ?_
  unfold Generated.saved
  split at rest
  · next wanted =>
    have manifestThere := (stands.manifest wanted).writeText_again (isName_manifest made) ordered
    rw [if_pos wanted, if_pos wanted]
    refine .bind (Action.repeats_change (Outcome.mapError_eq_ok_iff.mpr rest)
      (Outcome.mapError_eq_ok_iff.mpr manifestThere)) ?_
    exact .bind (Action.repeats_ofLogged rfl) Action.repeats_pure
  · next unwanted =>
    subst rest
    rw [if_neg unwanted, if_neg unwanted]
    exact Action.repeats_pure

theorem isOrdered_of_save (ordered : before.root.IsOrdered)
    (done : (generated.save output).Ends before (.ok saved) after) : after.root.IsOrdered := by
  obtain ⟨_, prepared, written, directoryMade, sourceWritten, rest⟩ := steps_of_save done
  have prepared_ := FileSystem.isOrdered_makeDirectoryAt output.outputDir ordered
  rw [directoryMade] at prepared_
  have written_ := FileSystem.isOrdered_writeText prepared_ sourceWritten
  split at rest
  · exact FileSystem.isOrdered_writeText written_ rest
  · exact rest ▸ written_

end Generated

namespace CommandLine

variable {formatter : Formatter} {start before after final fs : FileSystem} {settings : Settings}
  {base config : Config} {directory input outputDir : Path} {inputs : List Path}
  {file : GeneratedFile} {files : List GeneratedFile}

/-! ## 2. Inputs that are read again -/

theorem repeats_generateFile
    (done : (generateFile formatter input config false).Ends before (.ok file) after)
    (kept : ∀ text, before.readText input = .ok text → final.readText input = .ok text)
    (stands : ∀ text generated, before.readText input = .ok text →
      (generate text config).outcome = .ok generated →
      ∃ directory, generated.StandsIn config.output final directory)
    (ordered : final.root.IsOrdered) :
    (generateFile formatter input config false).Repeats before file after final := by
  obtain ⟨text, generated, saved, read, made, saving, rfl⟩ := steps_of_generateFile done
  obtain ⟨directory, standsIn⟩ := stands text generated read made
  unfold generateFile
  refine .bind (Action.repeats_look (Outcome.mapError_eq_ok_iff.mpr read)
    (Outcome.mapError_eq_ok_iff.mpr (kept text read))) ?_
  refine .bind (Action.repeats_ofLogged (Logged.mapFailure_outcome_eq_ok_iff.mpr made)) ?_
  refine .bind (Generated.repeats_save made saving standsIn ordered).mapFailure ?_
  rw [if_neg Bool.false_ne_true]
  exact Action.repeats_pure

/-- Where the modules of all inputs are delivered, generating them changes nothing. -/
theorem repeats_generateAll (plain : settings.rustfmt = false) (startPlain : start.NoLinks)
    (beforePlain : before.NoLinks) (finalPlain : final.NoLinks)
    (done : (generateAll formatter base settings inputs).Ends before (.ok files) after)
    (delivers : List.Forall₂ (Delivers base settings start final) inputs files)
    (first : ∀ input ∈ inputs, SameInput start before input)
    (second : ∀ input ∈ inputs, SameInput start final input)
    (ordered : final.root.IsOrdered) :
    (generateAll formatter base settings inputs).Repeats before files after final := by
  -- In the first run the inputs that are still to be read are as they were at its start.
  induction delivers generalizing before with
  | nil =>
    obtain ⟨_, rfl⟩ := Action.ends_pure_iff.mp done
    exact Action.repeats_pure
  | @cons input file inputs files one _ ih =>
    obtain ⟨firstInput, firstOthers⟩ := List.forall_mem_cons.mp first
    obtain ⟨secondInput, secondOthers⟩ := List.forall_mem_cons.mp second
    obtain ⟨config, _, middle, _, built, saving, more, same⟩ := steps_of_generateAll_cons plain done
    cases same
    obtain ⟨_, writes, outputs, _⟩ :=
      writes_of_saves beforePlain built (saves_of_generateFile saving)
    have firstLater : ∀ other ∈ inputs, SameInput start middle other := fun other listed =>
      (firstOthers other listed).of_writes writes fun location written =>
        (outputs location written).noInput
    have kept : ∀ text, before.readText input = .ok text → final.readText input = .ok text :=
      fun text read => secondInput.symm.readText finalPlain startPlain
        (firstInput.readText startPlain beforePlain read)
    have stands : ∀ text generated, before.readText input = .ok text →
        (generate text config).outcome = .ok generated →
        ∃ directory, generated.StandsIn config.output final directory := by
      intro text generated read made
      obtain @⟨config', text', generated', directory, built', read', made', _, stands, _, _⟩ := one
      cases built.symm.trans built'
      cases (firstInput.readText startPlain beforePlain read).symm.trans read'
      cases made.symm.trans made'
      exact ⟨directory, stands⟩
    rw [generateAll_cons, plain]
    refine .bind (Action.repeats_ofExcept built) ?_
    refine .bind (repeats_generateFile saving kept stands ordered) ?_
    exact .bind (ih (beforePlain.of_extends writes.extends) more firstLater secondOthers)
      Action.repeats_pure

theorem isOrdered_of_generateAll (plain : settings.rustfmt = false)
    (ordered : before.root.IsOrdered)
    (done : (generateAll formatter base settings inputs).Ends before (.ok files) after) :
    after.root.IsOrdered := by
  induction inputs generalizing before files with
  | nil =>
    obtain ⟨_, rfl⟩ := Action.ends_pure_iff.mp done
    exact ordered
  | cons input inputs ih =>
    obtain ⟨_, _, _, _, _, saving, more, _⟩ := steps_of_generateAll_cons plain done
    obtain ⟨_, _, _, _, _, saved, _⟩ := steps_of_generateFile saving
    exact ih (Generated.isOrdered_of_save ordered saved) more

/-! ## 3. Inputs that are found again -/

/-- A path without steps back has not come to lead to a directory that was there before. -/
theorem canonicalize_eq_some_iff_of_stored {location : Location} (plain : before.NoLinks)
    (grown : before.Extends after) (forward : dotDot ∉ Files.parts outputDir)
    (stood : before.stored location = some .directory) :
    after.canonicalize outputDir = some location ↔
      before.canonicalize outputDir = some location := by
  rw [FileSystem.canonicalize_eq_some_iff, FileSystem.canonicalize_eq_some_iff, plain.walks_iff,
    (plain.of_extends grown).walks_iff]
  refine and_congr_right fun _ => and_congr_right fun _ =>
    ⟨FileSystem.goes_stepsOf_of_stored grown forward stood, fun goes => ?_⟩
  rw [grown.startOf]
  exact FileSystem.Goes.of_extends grown goes

/-- The locations of inputs are the same after a run that writes no files with names of
inputs. If it makes the output directory itself, no input has been in there. -/
theorem abiLocations_again (plain : before.NoLinks) (grown : before.Extends after)
    (first : before.root.IsOrdered) (second : after.root.IsOrdered)
    (forward : dotDot ∉ Files.parts outputDir)
    (same : ∀ location content, isAbiLocation location = true →
      (after.stored location = some (.file content) ↔
        before.stored location = some (.file content))) (around : Location) :
    abiLocations after directory around (after.canonicalize outputDir) =
      abiLocations before directory around (before.canonicalize outputDir) := by
  refine eq_of_pairwise_of_mem_iff (fun _ _ => List.lt_asymm)
    (pairwise_abiLocations second.hasDistinctNames _ _ _)
    (pairwise_abiLocations first.hasDistinctNames _ _ _) fun relative => ?_
  rw [mem_abiLocations_iff second.hasDistinctNames, mem_abiLocations_iff first.hasDistinctNames]
  refine and_congr_right fun abi => ?_
  have nonempty : relative ≠ [] := by
    rintro rfl
    cases abi
  have sameFile : ∀ content, after.stored (around ++ relative) = some (.file content) ↔
      before.stored (around ++ relative) = some (.file content) := by
    refine fun content => same _ content ?_
    rwa [isAbiLocation, List.getLast?_append_of_ne_nil around nonempty]
  rw [exists_congr sameFile]
  refine and_congr_right ?_
  rintro ⟨content, there⟩
  refine forall_congr' fun part => forall₂_congr fun inside proper => ?_
  -- The directory of the part was there at first, so no path has come to lead to it.
  have stood : before.stored (around ++ part) = some .directory := by
    refine FileSystem.stored_of_proper_prefix ((List.prefix_append_right_inj around).mpr inside)
      (mt List.append_cancel_left proper) ?_
    rw [there]
    rfl
  rw [passesOver_eq_false_iff plain, passesOver_eq_false_iff (plain.of_extends grown), ne_eq, ne_eq,
    canonicalize_eq_some_iff_of_stored plain grown forward stood]

theorem findAbiFiles_again (plain : before.NoLinks) (grown : before.Extends after)
    (first : before.root.IsOrdered) (second : after.root.IsOrdered)
    (forward : dotDot ∉ Files.parts outputDir)
    (same : ∀ location content, isAbiLocation location = true →
      (after.stored location = some (.file content) ↔
        before.stored location = some (.file content)))
    (found : findAbiFiles before directory outputDir = .ok inputs) :
    findAbiFiles after directory outputDir = .ok inputs := by
  obtain ⟨around, located, inside, rfl⟩ := findAbiFiles_eq_ok_iff.mp found
  refine findAbiFiles_eq_ok_iff.mpr ⟨around, FileSystem.locate_of_extends grown located,
    grown.directories around inside, ?_⟩
  rw [abiLocations_again plain grown first second forward same]

/-! ## 4. Batches -/

theorem repeats_loadConfig (loaded : (loadConfig settings).Ends before (.ok base) before)
    (kept : ∀ path text, settings.config = some path → before.readText path = .ok text →
      final.readText path = .ok text) :
    (loadConfig settings).Repeats before base before final := by
  unfold loadConfig at loaded ⊢
  cases given : settings.config with
  | none =>
    rw [given] at loaded
    obtain ⟨same, _⟩ := Action.ends_pure_iff.mp loaded
    cases same
    exact Action.repeats_pure
  | some path =>
    rw [given] at loaded
    simp only at loaded ⊢
    unfold readConfig at loaded ⊢
    rcases Action.ends_look_bind loaded with ⟨_, _, failed, _⟩ | ⟨text, found, rest⟩
    · cases failed
    rw [Outcome.mapError_eq_ok_iff] at found
    refine .bind (Action.repeats_look (Outcome.mapError_eq_ok_iff.mpr found)
      (Outcome.mapError_eq_ok_iff.mpr (kept path text given found))) ?_
    split at rest
    · next config _ =>
      exact Action.repeats_ofExcept (Action.ends_ofExcept_iff.mp rest).1
    · cases (Action.ends_ofExcept_iff.mp rest).1

/-- A batch repeats itself where its settings, its inputs and their modules are found. -/
theorem repeats_runBatch (loading : (loadConfig settings).Repeats before base before final)
    (first : Finds directory settings before base inputs)
    (second : Finds directory settings final base inputs)
    (checked : checkModules [] inputs = .ok ())
    (generating : (generateAll formatter base settings inputs).Repeats before files after final) :
    (runBatch formatter directory settings).Repeats before files after final := by
  unfold runBatch
  refine .bind loading (.bind (Action.repeats_look first.found second.found) ?_)
  split
  · exact .bind (Action.repeats_ofLogged rfl)
      (.bind (Action.repeats_ofExcept checked) generating)
  · exact .bind (Action.repeats_ofExcept checked) generating

/-- All that can be seen of a run can be seen of a run that repeats it. -/
theorem report_of_repeats {parsed : Arguments} {outcome : Outcome}
    (repeats : (parsed.command.run formatter).Repeats before outcome after after) :
    report formatter parsed after = report formatter parsed before := by
  have left := repeats.ends.2
  unfold report
  rw [repeats.again]
  cases run : parsed.command.run formatter before with
  | mk computed files =>
    rw [run] at left
    rw [show files = after from left]

/-- A batch that has succeeded can be run again: it succeeds on the tree that it left, finds
the same inputs in the same order, returns, prints and logs the same, and leaves the tree
as it is. The output directory may be anywhere, whether it was there before or not, if its
path has no steps back; only the file with the settings must not be one of those in it. A
tree has one form in which all entries are in the order of their names, and runs are about
trees in this form. -/
theorem batch_again_changes_nothing (formatter : Formatter) (directory : Path)
    (settings : Settings) (verbose quiet : Bool) (fs after : FileSystem)
    (files : List GeneratedFile) (tree : fs.root.IsTree) (ordered : fs.root.IsOrdered)
    (plain : settings.rustfmt = false)
    (forward : ∀ base, (loadConfig settings).Ends fs (.ok base) fs →
      dotDot ∉ Files.parts (settings.outputDir.getD base.output.outputDir))
    (apart : ∀ base path location, (loadConfig settings).Ends fs (.ok base) fs →
      settings.config = some path → fs.locate path = .ok location →
      ¬ fs.LiesIn (settings.outputDir.getD base.output.outputDir) location)
    (done : (runBatch formatter directory settings).Ends fs (.ok files) after) :
    (runBatch formatter directory settings).Ends after (.ok files) after ∧
      report formatter ⟨.batch directory settings, verbose, quiet⟩ after =
        report formatter ⟨.batch directory settings, verbose, quiet⟩ fs ∧
      ∃ base inputs, Finds directory settings fs base inputs ∧
        Finds directory settings after base inputs := by
  obtain ⟨base, inputs, finds, checked, rest⟩ := (ends_runBatch done).resolve_left (by simp)
  have noLinks := FileSystem.noLinks_of_isTree tree
  have saves := savesEach_of_generateAll plain rest
  obtain ⟨written, writes, outputs, lieIn⟩ := writes_of_savesEach noLinks saves
  have noLinksAfter := noLinks.of_extends writes.extends
  have noInput : ∀ location ∈ written, isAbiLocation location = false := fun location listed =>
    (outputs location listed).noInput
  have onward := forward base finds.loaded
  have orderedAfter := isOrdered_of_generateAll plain ordered rest
  -- What was written is neither the file with the settings nor an input.
  have sameConfig : ∀ path text, settings.config = some path → fs.readText path = .ok text →
      after.readText path = .ok text := fun path text given read =>
    writes.readText read fun location located there listed =>
      apart base path location finds.loaded given located
        ((lieIn location listed).of_extends writes.extends onward there)
  have sameFiles : ∀ location content, isAbiLocation location = true →
      (after.stored location = some (.file content) ↔
        fs.stored location = some (.file content)) := fun location content abi =>
    writes.file_iff fun listed =>
      Bool.false_ne_true ((noInput location listed).symm.trans abi)
  have first : ∀ input ∈ inputs, SameInput fs fs input := fun input listed =>
    .of_found tree finds.found listed
  have second : ∀ input ∈ inputs, SameInput fs after input := fun input listed =>
    (first input listed).of_writes writes noInput
  have loading := repeats_loadConfig finds.loaded sameConfig
  have findsAgain : Finds directory settings after base inputs :=
    ⟨loading.ends_again, findAbiFiles_again noLinks writes.extends ordered orderedAfter onward
      sameFiles finds.found⟩
  have delivers := delivers_of_savesEach noLinks noLinks saves first
    (checkModules_eq_ok_iff.mp checked).1
  have repeats := repeats_runBatch loading finds findsAgain checked
    (repeats_generateAll plain noLinks noLinks noLinksAfter rest delivers first second orderedAfter)
  refine ⟨repeats.ends_again, ?_, base, inputs, finds, findsAgain⟩
  exact report_of_repeats (repeats.bind Action.repeats_pure)

/-- An input, next to which modules are put into a directory that is missing. -/
def nestedOutput : FileSystem :=
  { root := .directory [(bytes "abi.toml", .file "[output]\noutput_dir = \"in/out\"\n".toUTF8),
      (bytes "in", .directory [(bytes "T.json", .file "[]".toUTF8)])]
    workingDirectory := [] }

theorem isTree_nestedOutput : nestedOutput.root.IsTree := by
  have settings : Files.IsStorable (bytes "abi.toml") := by decide +kernel
  have around : Files.IsStorable (bytes "in") := by decide +kernel
  have input : Files.IsStorable (bytes "T.json") := by decide +kernel
  refine .directory (by decide) ?_ ?_
  · exact List.forall_mem_cons.mpr ⟨settings, List.forall_mem_singleton.mpr around⟩
  · refine List.forall_mem_cons.mpr ⟨.file _, List.forall_mem_singleton.mpr ?_⟩
    exact .directory (List.nodup_singleton (bytes "T.json")) (List.forall_mem_singleton.mpr input)
      (List.forall_mem_singleton.mpr (.file _))

theorem isOrdered_nestedOutput : nestedOutput.root.IsOrdered := by
  have below : bytes "abi.toml" < bytes "in" := by decide
  refine .directory ?_ ?_
  · exact List.pairwise_cons.mpr ⟨List.forall_mem_singleton.mpr below, List.pairwise_singleton _ _⟩
  · refine List.forall_mem_cons.mpr ⟨.file _, List.forall_mem_singleton.mpr ?_⟩
    exact .directory (List.pairwise_singleton _ _) (List.forall_mem_singleton.mpr (.file _))

/-- Settings that are read from a file. -/
def nestedSettings : Settings :=
  .ofGiven ⟨[(.config, bytes "abi.toml")], []⟩

/-- The first run makes the directory in the one where inputs are looked for, and the second
one passes over it. -/
theorem batch_again_changes_nothing_nested :
    nestedOutput.root.IsTree ∧ nestedOutput.root.IsOrdered ∧ nestedSettings.rustfmt = false ∧
      ∃ files after base,
        (runBatch missingFormatter (bytes "in") nestedSettings).Ends nestedOutput (.ok files)
          after ∧
        files.length = 1 ∧ nestedOutput.stored [bytes "in", bytes "out"] = none ∧
        after.stored [bytes "in", bytes "out"] = some .directory ∧
        (runBatch missingFormatter (bytes "in") nestedSettings).Ends after (.ok files) after ∧
        Finds (bytes "in") nestedSettings after base [bytes "in/T.json"] := by
  have loads : (loadConfig nestedSettings nestedOutput).1.outcome.toOption.map
      (fun base => nestedSettings.outputDir.getD base.output.outputDir) =
        some (bytes "in/out") := by
    decide +kernel
  have outputDir : ∀ base, (loadConfig nestedSettings).Ends nestedOutput (.ok base) nestedOutput →
      nestedSettings.outputDir.getD base.output.outputDir = bytes "in/out" := by
    rintro base ⟨loaded, _⟩
    rw [loaded] at loads
    exact Option.some.inj loads
  have nowhere : (nestedOutput.locate (bytes "in/out")).toOption = none := by decide +kernel
  have found : findAbiFiles nestedOutput (bytes "in") (bytes "in/out") = .ok [bytes "in/T.json"] :=
    Outcome.toOption_eq_some_iff.mp (by decide +kernel)
  have one : (runBatch missingFormatter (bytes "in") nestedSettings
      nestedOutput).1.outcome.toOption.map List.length = some 1 := by
    decide +kernel
  have made : (runBatch missingFormatter (bytes "in") nestedSettings nestedOutput).2.stored
      [bytes "in", bytes "out"] = some .directory :=
    FileSystem.hasDirectory_iff.mp (by decide +kernel)
  obtain ⟨files, ends, length⟩ := Action.exists_ends_of_map one
  have forward : ∀ base, (loadConfig nestedSettings).Ends nestedOutput (.ok base) nestedOutput →
      dotDot ∉ Files.parts (nestedSettings.outputDir.getD base.output.outputDir) := by
    intro base loaded
    rw [outputDir base loaded]
    decide
  obtain ⟨again, _, base, inputs, finds, findsAgain⟩ :=
    batch_again_changes_nothing missingFormatter (bytes "in") nestedSettings false false
      nestedOutput _ files isTree_nestedOutput isOrdered_nestedOutput rfl forward
      (fun base path location loaded _ _ ⟨around, name, leads, _⟩ => by
        rw [outputDir base loaded] at leads
        rw [FileSystem.locate_of_leads leads rfl rfl] at nowhere
        cases nowhere)
      ends
  have same := finds.found
  rw [outputDir base finds.loaded, found] at same
  cases same
  exact ⟨isTree_nestedOutput, isOrdered_nestedOutput, rfl, files, _, base, ends, length,
    rfl, made, again, findsAgain⟩

end CommandLine

end ContractBinder
