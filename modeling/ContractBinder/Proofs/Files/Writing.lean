import ContractBinder.Proofs.Files.Walking

/-!
# What writing changes

`before.Writes after files new` says that a tree changes at these files and gains
directories at such locations, and that everything else is stored as it was. Writing a
text changes the file that the path leads to, links followed (`writes_of_writeText`), and
making a directory gains directories on the way to it, whether it succeeds or not
(`writes_makeDirectoryAt`). A text that was written is read back (`readText_of_writeText`).

In a tree without links the path of a name in a directory leads to that name
(`holds_of_writeText`), and what was written is also read back after other writes
(`Holds.readText`).
-/

namespace ContractBinder.Files

namespace FileSystem

variable {before middle after fs : FileSystem} {path directory : Path} {name : Name}
  {text : String} {around location : Location} {place : Place}

/-! ## 1. Changes -/

/-- Only these files were written, and directories were only made at such locations. -/
structure Writes (before after : FileSystem) (files : List Location) (new : Location → Prop) :
    Prop where
  workingDirectory : after.workingDirectory = before.workingDirectory
  old : ∀ location ∈ files, before.stored location = none ∨
    ∃ content, before.stored location = some (.file content)
  written : ∀ location ∈ files, ∃ content, after.stored location = some (.file content)
  others : ∀ location, location ∉ files →
    after.stored location = before.stored location ∨
      before.stored location = none ∧ after.stored location = some .directory ∧ new location

variable {files more : List Location} {new other : Location → Prop}

theorem Writes.refl (fs : FileSystem) : fs.Writes fs [] new :=
  ⟨rfl, fun _ listed => absurd listed List.not_mem_nil,
    fun _ listed => absurd listed List.not_mem_nil, fun _ _ => .inl rfl⟩

theorem Writes.mono (writes : before.Writes after files new)
    (weaker : ∀ location, new location → other location) : before.Writes after files other :=
  { writes with
    others := fun location unlisted => (writes.others location unlisted).imp_right
      fun ⟨free, made, here⟩ => ⟨free, made, weaker location here⟩ }

theorem Writes.trans (first : before.Writes middle files new)
    (second : middle.Writes after more new) : before.Writes after (files ++ more) new where
  workingDirectory := second.workingDirectory.trans first.workingDirectory
  old := by
    intro location listed
    by_cases early : location ∈ files
    · exact first.old location early
    · have late := (List.mem_append.mp listed).resolve_left early
      rcases first.others location early with same | ⟨free, _, _⟩
      · rw [← same]
        exact second.old location late
      · exact .inl free
  written := by
    intro location listed
    by_cases late : location ∈ more
    · exact second.written location late
    · have early := (List.mem_append.mp listed).resolve_right late
      obtain ⟨content, there⟩ := first.written location early
      rcases second.others location late with same | ⟨free, _, _⟩
      · exact ⟨content, same.trans there⟩
      · rw [free] at there
        cases there
  others := by
    intro location unlisted
    obtain ⟨early, late⟩ := not_or.mp (mt List.mem_append.mpr unlisted)
    rcases second.others location late with same | ⟨free, made, here⟩
    · rw [same]
      exact first.others location early
    · rcases first.others location early with before_ | ⟨_, there, _⟩
      · exact .inr ⟨before_ ▸ free, made, here⟩
      · rw [free] at there
        cases there

/-- What is neither missing nor a file is no file that is written. -/
theorem Writes.stored_eq (writes : before.Writes after files new) {stored : Stored}
    (noFile : ∀ content, stored ≠ .file content) (there : before.stored location = some stored) :
    after.stored location = some stored := by
  have unlisted : location ∉ files := by
    intro listed
    rcases writes.old location listed with free | ⟨content, file⟩
    · rw [free] at there
      cases there
    · rw [file] at there
      exact noFile content (Option.some.inj there).symm
  rcases writes.others location unlisted with same | ⟨free, _, _⟩
  · exact same.trans there
  · rw [free] at there
    cases there

theorem Writes.extends (writes : before.Writes after files new) : before.Extends after where
  workingDirectory := writes.workingDirectory
  directories := fun location there => writes.stored_eq nofun there
  files := by
    intro location content there
    by_cases listed : location ∈ files
    · exact writes.written location listed
    · rcases writes.others location listed with same | ⟨free, _, _⟩
      · exact ⟨content, same.trans there⟩
      · rw [free] at there
        cases there
  links := by
    refine fun location target => ⟨fun there => ?_, fun there => writes.stored_eq nofun there⟩
    have unlisted : location ∉ files := by
      intro listed
      obtain ⟨content, written⟩ := writes.written location listed
      rw [written] at there
      cases there
    rcases writes.others location unlisted with same | ⟨_, made, _⟩
    · rwa [← same]
    · rw [made] at there
      cases there

/-- A file that is not written stays as it is. -/
theorem Writes.file_iff (writes : before.Writes after files new) (unlisted : location ∉ files)
    {content : ByteArray} :
    after.stored location = some (.file content) ↔
      before.stored location = some (.file content) := by
  rcases writes.others location unlisted with same | ⟨free, made, _⟩
  · rw [same]
  · rw [free, made]
    simp

theorem Writes.leads (writes : before.Writes after files new) (leads : before.Leads path location) :
    after.Leads path location :=
  leads.of_extends writes.extends

/-- A location is that of a name in the directory that a path leads to. -/
def LiesIn (fs : FileSystem) (path : Path) (location : Location) : Prop :=
  ∃ around name, fs.Leads path around ∧ location = around ++ [name]

theorem LiesIn.of_writes (lies : before.LiesIn path location)
    (writes : before.Writes after files new) : after.LiesIn path location := by
  obtain ⟨around, name, leads, same⟩ := lies
  exact ⟨around, name, writes.leads leads, same⟩

/-- What is in a directory now was in there before if it was anywhere. -/
theorem LiesIn.of_extends (lies : after.LiesIn path location) (grown : before.Extends after)
    (forward : dotDot ∉ parts path) (there : (before.stored location).isSome = true) :
    before.LiesIn path location := by
  obtain ⟨around, name, leads, rfl⟩ := lies
  have stood := stored_of_stored_append (List.cons_ne_nil name []) there
  exact ⟨around, name, leads_of_stored grown forward stood leads, rfl⟩

/-! ## 2. Files -/

/-- A text can be written where a path leads. -/
structure Target (fs : FileSystem) (path : Path) (place : Place) : Prop where
  walks : fs.Walks maxLinks (fs.startOf path) (parts path) place
  writable : fs.isWritable place = true
  noSlash : endsWithSlash path = false
  checked : checkPath path = .ok ()

theorem writeText_eq_ok_iff :
    before.writeText path text = .ok after ↔
      ∃ place, before.Target path place ∧
        after = before.put place.location (.file text.toUTF8) := by
  constructor
  · intro done
    obtain ⟨_, checked, done⟩ := Outcome.bind_eq_ok_iff.mp done
    obtain ⟨place, walked, done⟩ := Outcome.bind_eq_ok_iff.mp done
    split at done
    · cases done
    · next open_ =>
      cases done
      simp only [Bool.or_eq_true, Bool.not_eq_true', not_or, Bool.not_eq_true,
        Bool.not_eq_false] at open_
      exact ⟨place, ⟨walk_eq_ok_iff.mp walked, open_.2, open_.1, checked⟩, rfl⟩
  · rintro ⟨place, target, rfl⟩
    refine Outcome.bind_eq_ok_iff.mpr ⟨(), target.checked, ?_⟩
    refine Outcome.bind_eq_ok_iff.mpr ⟨place, walk_eq_ok_iff.mpr target.walks, ?_⟩
    rw [target.noSlash, target.writable]
    rfl

/-- Where steps lead to nothing, a name can be put into a directory. -/
theorem Follows.of_free {steps : List Name}
    (follows : fs.Follows location steps (.place (.free around name))) :
    fs.CanLookUp around name ∧ fs.stored (around ++ [name]) = none := by
  generalize stop_eq : Stop.place (.free around name) = stop at follows
  induction follows with
  | arrives | link => cases stop_eq
  | same _ _ ih | around _ _ ih | into _ _ _ ih => exact ih stop_eq
  | free canLookUp absent =>
    cases stop_eq
    exact ⟨canLookUp, absent⟩

theorem Walks.of_free {links : Nat} {steps : List Name}
    (walks : fs.Walks links location steps (.free around name)) :
    fs.CanLookUp around name ∧ fs.stored (around ++ [name]) = none := by
  generalize reached : Place.free around name = place at walks
  induction walks with
  | stays follows => exact Follows.of_free (reached ▸ follows)
  | link _ _ ih => exact ih reached

theorem exists_of_isWritable_taken (writable : fs.isWritable (.taken location) = true) :
    ∃ content, fs.stored location = some (.file content) := by
  unfold isWritable at writable
  split at writable
  · next same => cases same
  · next same =>
    cases same
    split at writable
    · next content there => exact ⟨content, by rw [stored, there]; rfl⟩
    · cases writable

/-- Nothing is at a place where a text can be written, or a file. -/
theorem Target.old (target : fs.Target path place) :
    fs.stored place.location = none ∨
      ∃ content, fs.stored place.location = some (.file content) := by
  cases place with
  | taken location => exact .inr (exists_of_isWritable_taken target.writable)
  | free around name => exact .inl target.walks.of_free.2

theorem Target.stored_put (target : fs.Target path place) (content : ByteArray)
    (location : Location) :
    (fs.put place.location (.file content)).stored location =
      if location = place.location then some (.file content) else fs.stored location := by
  cases place with
  | taken there =>
    obtain ⟨_, file⟩ := exists_of_isWritable_taken target.writable
    exact stored_put_of_file file (Node.isLeaf_file content) location
  | free around name =>
    obtain ⟨canLookUp, absent⟩ := target.walks.of_free
    refine stored_put_leaf canLookUp.inside (Node.isLeaf_file content) ?_ location
    rw [absent]
    exact (Option.some_ne_none _).symm

theorem Target.writes (target : before.Target path place) (content : ByteArray) :
    before.Writes (before.put place.location (.file content)) [place.location] fun _ => False where
  workingDirectory := rfl
  old := fun location listed => List.mem_singleton.mp listed ▸ target.old
  written := fun location listed =>
    ⟨content, by rw [target.stored_put, if_pos (List.mem_singleton.mp listed)]⟩
  others := fun location unlisted =>
    .inl (by rw [target.stored_put, if_neg (mt List.mem_singleton.mpr unlisted)])

/-- After a text was written at a path, the path leads to it. -/
theorem Target.locate (target : before.Target path place) (content : ByteArray) :
    (before.put place.location (.file content)).locate path = .ok place.location := by
  have grown := (target.writes content).extends
  refine locate_of_walks ?_ target.noSlash target.checked
  rw [grown.startOf]
  refine target.walks.of_extends grown fun directory name same => .inr ⟨content, ?_⟩
  rw [target.stored_put, if_pos (same ▸ rfl)]

/-- Writing a text writes the file that the path leads to then. -/
theorem writes_of_writeText (done : before.writeText path text = .ok after) :
    ∃ location, after.locate path = .ok location ∧
      after.stored location = some (.file text.toUTF8) ∧
      before.Writes after [location] fun _ => False := by
  obtain ⟨place, target, rfl⟩ := writeText_eq_ok_iff.mp done
  refine ⟨place.location, target.locate _, ?_, target.writes _⟩
  rw [target.stored_put, if_pos rfl]

theorem readText_of_stored (located : fs.locate path = .ok location)
    (there : fs.stored location = some (.file text.toUTF8)) : fs.readText path = .ok text :=
  readText_eq_ok_iff.mpr ⟨location, _, located, there, dif_pos text.isValidUTF8⟩

theorem readText_of_writeText (done : before.writeText path text = .ok after) :
    after.readText path = .ok text := by
  obtain ⟨location, located, there, _⟩ := writes_of_writeText done
  exact readText_of_stored located there

/-- A text that is read from a file that is not written is read again. -/
theorem Writes.readText (writes : before.Writes after files new)
    (read : before.readText path = .ok text)
    (unlisted : ∀ location, before.locate path = .ok location →
      (before.stored location).isSome = true → location ∉ files) :
    after.readText path = .ok text := by
  obtain ⟨location, content, located, there, decoded⟩ := readText_eq_ok_iff.mp read
  have present : (before.stored location).isSome = true := by
    rw [there]
    rfl
  exact readText_eq_ok_iff.mpr ⟨location, content, locate_of_extends writes.extends located,
    (writes.file_iff (unlisted location located present)).mpr there, decoded⟩

/-- A text is stored under a name in the directory that a path leads to. -/
structure Holds (fs : FileSystem) (directory : Path) (name : Name) (text : String)
    (around : Location) : Prop where
  leads : fs.Leads directory around
  inside : fs.stored around = some .directory
  there : fs.stored (around ++ [name]) = some (.file text.toUTF8)
  checked : checkPath (join directory name) = .ok ()
  short : name.length ≤ maxNameSize

/-- Without links a text that is written into a directory is written to the place of its name. -/
theorem holds_of_writeText (plain : before.NoLinks) (named : IsName name)
    (done : before.writeText (join directory name) text = .ok after) :
    ∃ around, before.Writes after [around ++ [name]] (fun _ => False) ∧
      after.Holds directory name text around := by
  obtain ⟨place, target, rfl⟩ := writeText_eq_ok_iff.mp done
  have follows := plain.walks_iff.mp target.walks
  rw [parts_join named, startOf_join before named] at follows
  obtain ⟨around, goes, last⟩ := exists_goes_of_append follows (List.cons_ne_nil name [])
  obtain ⟨canLookUp, same⟩ := last.of_name named.proper
  have writes := target.writes text.toUTF8
  have stored := target.stored_put text.toUTF8 place.location
  rw [if_pos rfl] at stored
  rw [same] at writes stored ⊢
  refine ⟨around, writes, ?_⟩
  exact
    { leads := writes.leads goes
      inside := writes.extends.directories around canLookUp.inside
      there := stored
      checked := target.checked
      short := canLookUp.short }

theorem Holds.locate (holds : fs.Holds directory name text around) (named : IsName name) :
    fs.locate (join directory name) = .ok (around ++ [name]) :=
  locate_of_leads
    (leads_join named holds.leads holds.inside holds.short (.inr ⟨_, holds.there⟩))
    (endsWithSlash_join named) holds.checked

/-- What was written is read back. -/
theorem Holds.readText (holds : fs.Holds directory name text around) (named : IsName name) :
    fs.readText (join directory name) = .ok text :=
  readText_of_stored (holds.locate named) holds.there

theorem Holds.of_writes (holds : before.Holds directory name text around)
    (writes : before.Writes after files new) (unlisted : around ++ [name] ∉ files) :
    after.Holds directory name text around where
  leads := writes.leads holds.leads
  inside := writes.extends.directories around holds.inside
  there := (writes.file_iff unlisted).mpr holds.there
  checked := holds.checked
  short := holds.short

/-! ## 3. Directories -/

/-- A part of a path leads to this location. Steps from a directory to itself are not counted. -/
def OnTheWay (fs : FileSystem) (path : Path) (location : Location) : Prop :=
  ∃ steps, steps.filter (· ≠ dot) <+: (parts path).filter (· ≠ dot) ∧
    fs.Walks maxLinks (fs.startOf path) steps (.taken location)

theorem OnTheWay.of_extends (onTheWay : before.OnTheWay path location)
    (grown : before.Extends after) : after.OnTheWay path location := by
  obtain ⟨steps, inParts, walks⟩ := onTheWay
  rw [← grown.startOf] at walks
  exact ⟨steps, inParts, walks.taken_of_extends grown⟩

theorem writes_of_makeDirectory {steps : List Name}
    (done : before.makeDirectory path steps = .ok after) :
    before.Writes after [] fun location =>
      after.Walks maxLinks (after.startOf path) steps (.taken location) := by
  unfold makeDirectory at done
  cases reversed : steps.reverse with
  | nil =>
    rw [reversed] at done
    cases done
  | cons name others =>
    rw [reversed] at done
    obtain ⟨⟨location, old⟩, placed, done⟩ := Outcome.bind_eq_ok_iff.mp done
    obtain ⟨around, walks, inside, short, rfl, rfl⟩ := place_eq_ok_iff.mp placed
    simp only at done
    split at done
    · cases done
    next free =>
    cases done
    simp only [Bool.or_eq_true, not_or, Bool.not_eq_true, Option.isSome_eq_false_iff,
      Option.isNone_iff_eq_none] at free
    have absent : before.stored (around ++ [name]) = none := by
      rw [stored, free.2]
      rfl
    have noDirectory : before.stored (around ++ [name]) ≠ some .directory := by
      rw [absent]
      exact (Option.some_ne_none _).symm
    have spelled : steps = others.reverse ++ [name] := by
      rw [← List.reverse_reverse steps, reversed, List.reverse_cons]
    have put := stored_put_leaf inside Node.isLeaf_directory noDirectory
    have writes : before.Writes (before.put (around ++ [name]) (.directory [])) []
        (· = around ++ [name]) :=
      { workingDirectory := rfl
        old := fun _ listed => absurd listed List.not_mem_nil
        written := fun _ listed => absurd listed List.not_mem_nil
        others := by
          intro location _
          rw [put location]
          split
          · next same => exact .inr ⟨same ▸ absent, rfl, same⟩
          · exact .inl rfl }
    refine writes.mono fun location same => ?_
    have made : (before.put (around ++ [name]) (.directory [])).Has (around ++ [name]) := by
      rw [Has, put, if_pos rfl]
      exact .inl rfl
    have canLookUp : before.CanLookUp around name := ⟨inside, free.1, short⟩
    rw [same, spelled, writes.extends.startOf]
    refine (walks.taken_of_extends writes.extends).append ?_
    exact .into (writes.extends.canLookUp canLookUp) made (.arrives _)

/-- Directories are made on the way, also if a later one cannot be made. -/
theorem writes_makeDirectories (fs : FileSystem) (path : Path) (around : List (List Name)) :
    fs.Writes (fs.makeDirectories path around).1 [] fun location =>
      ∃ steps ∈ around, (fs.makeDirectories path around).1.Walks maxLinks
        ((fs.makeDirectories path around).1.startOf path) steps (.taken location) := by
  induction around with
  | nil => exact .refl fs
  | cons steps around ih =>
    have earlier : fs.Writes (fs.makeDirectories path around).1 [] fun location =>
        ∃ others ∈ steps :: around, (fs.makeDirectories path around).1.Walks maxLinks
          ((fs.makeDirectories path around).1.startOf path) others (.taken location) :=
      ih.mono fun _ ⟨others, listed, walks⟩ => ⟨others, List.mem_cons_of_mem steps listed, walks⟩
    rw [makeDirectories]
    split
    · next made done =>
      exact (writes_of_makeDirectory done).mono fun _ walks => ⟨steps, List.mem_cons_self, walks⟩
    -- The directory around was missing, so those around it come first.
    · split
      · next prepared fault failed =>
        rw [failed] at earlier
        exact earlier
      · next prepared done =>
        rw [done] at earlier
        split
        · next made last =>
          have writes := writes_of_makeDirectory last
          refine (earlier.mono ?_).trans
            (writes.mono fun _ walks => ⟨steps, List.mem_cons_self, walks⟩)
          rintro location ⟨others, listed, walks⟩
          refine ⟨others, listed, ?_⟩
          rw [writes.extends.startOf]
          exact walks.taken_of_extends writes.extends
        · exact earlier
    · exact .refl fs

theorem prefix_of_mem_surroundings {steps around : List Name}
    (member : around ∈ surroundings steps) : around <+: steps := by
  induction steps generalizing around with
  | nil => exact absurd member List.not_mem_nil
  | cons first rest ih =>
    rcases List.mem_append.mp member with inner | outer
    · obtain ⟨other, listed, rfl⟩ := List.mem_map.mp inner
      exact List.prefix_cons_iff.mpr (.inr ⟨other, rfl, ih listed⟩)
    · split at outer
      · exact absurd outer List.not_mem_nil
      · cases List.mem_singleton.mp outer
        exact List.prefix_cons_iff.mpr (.inr ⟨[], rfl, List.nil_prefix⟩)

/-- Making the directory at a path makes directories on the way to it, and nothing else. -/
theorem writes_makeDirectoryAt (fs : FileSystem) (path : Path) :
    fs.Writes (fs.makeDirectoryAt path).1 [] ((fs.makeDirectoryAt path).1.OnTheWay path) := by
  unfold makeDirectoryAt
  split
  · exact .refl fs
  split
  · exact .refl fs
  split
  · exact .refl fs
  refine (writes_makeDirectories fs path _).mono fun location ⟨steps, listed, walks⟩ =>
    ⟨steps, ?_, walks⟩
  rcases List.mem_cons.mp listed with rfl | inner
  · exact List.prefix_rfl
  · rw [← filter_components]
    exact (prefix_of_mem_surroundings inner).filter _

end FileSystem

end ContractBinder.Files
