import ContractBinder.Files.Tree
import ContractBinder.Proofs.Files.Paths
import ContractBinder.Proofs.Files.Stored
import ContractBinder.Proofs.Outcome

/-!
# Where paths lead

Following steps depends on what is stored where, and on nothing else: `Follows` says how
far steps lead up to the first link, and `Walks` how links are followed
(`follow_eq_ok_iff`, `walk_eq_ok_iff`). So if directories and links stay and files stay
files (`Extends`), steps go on to lead where they led (`Walks.of_extends`).

Steps that lead to something without a link on the way (`Goes`) can be put together
(`goes_append_iff`), and in a tree without links (`NoLinks`) there are no others
(`NoLinks.walks_iff`).
-/

namespace ContractBinder.Files

/-- The same stop once something is where nothing was. -/
def Stop.settled : Stop → Stop
  | .place reached => .place (.taken reached.location)
  | .link directory target rest => .link directory target rest

namespace FileSystem

variable {fs : FileSystem} {here there : Location} {step name : Name} {rest steps : List Name}
  {stop : Stop} {place : Place} {links : Nat}

/-! ## 1. Steps and links -/

/-- There is a file or a directory. -/
def Has (fs : FileSystem) (location : Location) : Prop :=
  fs.stored location = some .directory ∨ ∃ content, fs.stored location = some (.file content)

/-- A name can be looked up in a directory. -/
structure CanLookUp (fs : FileSystem) (directory : Location) (name : Name) : Prop where
  inside : fs.stored directory = some .directory
  proper : isDotName name = false
  short : name.length ≤ maxNameSize

/-- How far steps lead from a location. A step is to the directory itself, to the one around
it, or to what is in the directory. At a link there may be steps left. Where nothing is, there
must not be. -/
inductive Follows (fs : FileSystem) : Location → List Name → Stop → Prop
  | arrives (here : Location) : Follows fs here [] (.place (.taken here))
  | same {here : Location} {rest : List Name} {stop : Stop} :
      fs.stored here = some .directory → Follows fs here rest stop →
      Follows fs here (dot :: rest) stop
  | around {here : Location} {rest : List Name} {stop : Stop} :
      fs.stored here = some .directory → Follows fs here.dropLast rest stop →
      Follows fs here (dotDot :: rest) stop
  | into {here : Location} {step : Name} {rest : List Name} {stop : Stop} :
      fs.CanLookUp here step → fs.Has (here ++ [step]) → Follows fs (here ++ [step]) rest stop →
      Follows fs here (step :: rest) stop
  | free {here : Location} {name : Name} :
      fs.CanLookUp here name → fs.stored (here ++ [name]) = none →
      Follows fs here [name] (.place (.free here name))
  | link {here : Location} {step : Name} {rest : List Name} {target : Path} :
      fs.CanLookUp here step → fs.stored (here ++ [step]) = some (.link target) →
      Follows fs here (step :: rest) (.link here target rest)

/-- Where steps lead if at most so many links are on the way. A link is as good as the steps
of its target. -/
inductive Walks (fs : FileSystem) : Nat → Location → List Name → Place → Prop
  | stays {links : Nat} {here : Location} {steps : List Name} {place : Place} :
      fs.Follows here steps (.place place) → Walks fs links here steps place
  | link {links : Nat} {here directory : Location} {steps rest : List Name} {target : Path}
      {place : Place} :
      fs.Follows here steps (.link directory target rest) →
      Walks fs links (startFrom directory target) (stepsOf target ++ rest) place →
      Walks fs (links + 1) here steps place

theorem isDotName_eq_false_iff {name : Name} :
    isDotName name = false ↔ name ≠ dot ∧ name ≠ dotDot := by
  rw [isDotName, Bool.or_eq_false_iff, decide_eq_false_iff_not, decide_eq_false_iff_not]

theorem hasDirectory_iff {location : Location} :
    fs.hasDirectory location = true ↔ fs.stored location = some .directory := by
  rw [hasDirectory, stored]
  cases fs.get? location with
  | none => simp
  | some node => cases node <;> simp [Node.stored]

/-- What a directory says about a name is what is stored there. -/
theorem CanLookUp.follow_eq (canLookUp : fs.CanLookUp here step) :
    fs.follow here (step :: rest) =
      match fs.stored (here ++ [step]) with
      | some (.link target) => .ok (.link here target rest)
      | some _ => fs.follow (here ++ [step]) rest
      | none => if rest.isEmpty then .ok (.place (.free here step)) else .error .notFound := by
  obtain ⟨entries, around⟩ := exists_get?_of_stored canLookUp.inside
  obtain ⟨notDot, notDotDot⟩ := isDotName_eq_false_iff.mp canLookUp.proper
  rw [follow, around, stored, get?_child around]
  simp only
  rw [if_neg notDot, if_neg notDotDot, if_neg (Nat.not_lt.mpr canLookUp.short)]
  cases entries.lookup step with
  | none => rfl
  | some node => cases node <;> rfl

theorem follow_dot (inside : fs.stored here = some .directory) :
    fs.follow here (dot :: rest) = fs.follow here rest := by
  obtain ⟨entries, around⟩ := exists_get?_of_stored inside
  rw [follow, around]
  exact if_pos rfl

theorem follow_dotDot (inside : fs.stored here = some .directory) :
    fs.follow here (dotDot :: rest) = fs.follow here.dropLast rest := by
  obtain ⟨entries, around⟩ := exists_get?_of_stored inside
  have apart : dotDot ≠ dot := by decide
  rw [follow, around]
  exact (if_neg apart).trans (if_pos rfl)

/-- Every step but a name that is too long is looked up somewhere. -/
theorem inside_of_follow (done : fs.follow here (step :: rest) = .ok stop) :
    fs.stored here = some .directory ∧ (step = dot ∨ step = dotDot ∨ fs.CanLookUp here step) := by
  rw [follow] at done
  split at done
  · next entries found =>
    have inside : fs.stored here = some .directory := by
      rw [stored, found]
      rfl
    refine ⟨inside, ?_⟩
    split at done
    · next same => exact .inl same
    next notDot =>
    split at done
    · next same => exact .inr (.inl same)
    next notDotDot =>
    split at done
    · cases done
    · next short =>
      have noDots := isDotName_eq_false_iff.mpr ⟨notDot, notDotDot⟩
      exact .inr (.inr ⟨inside, noDots, Nat.not_lt.mp short⟩)
  · cases done

theorem follow_eq_ok_iff : fs.follow here steps = .ok stop ↔ fs.Follows here steps stop := by
  constructor
  · intro done
    induction steps generalizing here with
    | nil =>
      cases done
      exact .arrives here
    | cons step rest ih =>
      obtain ⟨inside, rfl | rfl | canLookUp⟩ := inside_of_follow done
      · rw [follow_dot inside] at done
        exact .same inside (ih done)
      · rw [follow_dotDot inside] at done
        exact .around inside (ih done)
      rw [canLookUp.follow_eq] at done
      cases there : fs.stored (here ++ [step]) with
      | none =>
        rw [there] at done
        cases rest with
        | nil =>
          cases done
          exact .free canLookUp there
        | cons _ _ => cases done
      | some stored =>
        rw [there] at done
        cases stored with
        | file content => exact .into canLookUp (.inr ⟨content, there⟩) (ih done)
        | directory => exact .into canLookUp (.inl there) (ih done)
        | link target =>
          cases done
          exact .link canLookUp there
  · intro follows
    induction follows with
    | arrives => rfl
    | same inside _ ih => rwa [follow_dot inside]
    | around inside _ ih => rwa [follow_dotDot inside]
    | into canLookUp has _ ih =>
      rw [canLookUp.follow_eq]
      rcases has with directory | ⟨content, file⟩
      · rwa [directory]
      · rwa [file]
    | free canLookUp absent => rw [canLookUp.follow_eq, absent]; rfl
    | link canLookUp there => rw [canLookUp.follow_eq, there]

theorem walk_eq_ok_iff :
    fs.walk links here steps = .ok place ↔ fs.Walks links here steps place := by
  constructor
  · intro done
    induction links generalizing here steps with
    | zero =>
      rw [walk, Outcome.bind_eq_ok_iff] at done
      obtain ⟨stop, follow, done⟩ := done
      cases stop with
      | place _ =>
        cases done
        exact .stays (follow_eq_ok_iff.mp follow)
      | link => cases done
    | succ links ih =>
      rw [walk, Outcome.bind_eq_ok_iff] at done
      obtain ⟨stop, follow, done⟩ := done
      cases stop with
      | place _ =>
        cases done
        exact .stays (follow_eq_ok_iff.mp follow)
      | link => exact .link (follow_eq_ok_iff.mp follow) (ih done)
  · intro walks
    induction walks with
    | stays follows =>
      unfold walk
      exact Outcome.bind_eq_ok_iff.mpr ⟨_, follow_eq_ok_iff.mpr follows, rfl⟩
    | link follows _ ih =>
      rw [walk]
      exact Outcome.bind_eq_ok_iff.mpr ⟨_, follow_eq_ok_iff.mpr follows, ih⟩

/-! ## 2. Steps behind steps -/

variable {middle : Location} {first second : List Name}

/-- Steps lead to something, and no link is on the way. -/
def Goes (fs : FileSystem) (here : Location) (steps : List Name) (there : Location) : Prop :=
  fs.Follows here steps (.place (.taken there))

theorem Goes.eq {other : Location} (goes : fs.Goes here steps there)
    (goesToo : fs.Goes here steps other) : there = other := by
  have same := (follow_eq_ok_iff.mpr goes).symm.trans (follow_eq_ok_iff.mpr goesToo)
  cases same
  rfl

/-- What a step without a link can do: stay in a directory, go back to the one around it, or go
on to something that is in it. -/
theorem goes_cons_iff :
    fs.Goes here (step :: rest) there ↔
      fs.stored here = some .directory ∧
        (step = dot ∧ fs.Goes here rest there ∨
          step = dotDot ∧ fs.Goes here.dropLast rest there ∨
          fs.CanLookUp here step ∧ fs.Has (here ++ [step]) ∧
            fs.Goes (here ++ [step]) rest there) := by
  constructor
  · intro goes
    cases goes with
    | same inside goes => exact ⟨inside, .inl ⟨rfl, goes⟩⟩
    | around inside goes => exact ⟨inside, .inr (.inl ⟨rfl, goes⟩)⟩
    | into canLookUp has goes => exact ⟨canLookUp.inside, .inr (.inr ⟨canLookUp, has, goes⟩)⟩
  · rintro ⟨inside, ⟨rfl, goes⟩ | ⟨rfl, goes⟩ | ⟨canLookUp, has, goes⟩⟩
    · exact .same inside goes
    · exact .around inside goes
    · exact .into canLookUp has goes

theorem Goes.append (goes : fs.Goes here first middle) (follows : fs.Follows middle second stop) :
    fs.Follows here (first ++ second) stop := by
  induction first generalizing here with
  | nil =>
    cases goes
    exact follows
  | cons step rest ih =>
    obtain ⟨inside, ⟨rfl, next⟩ | ⟨rfl, next⟩ | ⟨canLookUp, has, next⟩⟩ := goes_cons_iff.mp goes
    · exact .same inside (ih next)
    · exact .around inside (ih next)
    · exact .into canLookUp has (ih next)

/-- If nothing is where steps lead, their way has to come to an end there. -/
theorem exists_goes_of_append (follows : fs.Follows here (first ++ second) (.place place))
    (nonempty : second ≠ []) :
    ∃ middle, fs.Goes here first middle ∧ fs.Follows middle second (.place place) := by
  induction first generalizing here with
  | nil => exact ⟨here, .arrives here, follows⟩
  | cons step rest ih =>
    rw [List.cons_append] at follows
    generalize steps_eq : rest ++ second = steps at follows
    cases follows with
    | same inside follows =>
      subst steps_eq
      obtain ⟨middle, goes, follows⟩ := ih follows
      exact ⟨middle, .same inside goes, follows⟩
    | around inside follows =>
      subst steps_eq
      obtain ⟨middle, goes, follows⟩ := ih follows
      exact ⟨middle, .around inside goes, follows⟩
    | into canLookUp has follows =>
      subst steps_eq
      obtain ⟨middle, goes, follows⟩ := ih follows
      exact ⟨middle, .into canLookUp has goes, follows⟩
    | free => exact absurd (List.append_eq_nil_iff.mp steps_eq).2 nonempty

theorem goes_append_iff :
    fs.Goes here (first ++ second) there ↔
      ∃ middle, fs.Goes here first middle ∧ fs.Goes middle second there := by
  constructor
  · intro goes
    by_cases nothing : second = []
    · subst nothing
      rw [List.append_nil] at goes
      exact ⟨there, goes, .arrives there⟩
    · exact exists_goes_of_append goes nothing
  · rintro ⟨middle, goes, goesOn⟩
    exact goes.append goesOn

/-- The steps that are left at a link are those behind it. -/
theorem Follows.append_of_link {directory : Location} {target : Path}
    (follows : fs.Follows here first (.link directory target rest)) (second : List Name) :
    fs.Follows here (first ++ second) (.link directory target (rest ++ second)) := by
  generalize stop_eq : Stop.link directory target rest = stop at follows
  induction follows with
  | arrives | free => cases stop_eq
  | same inside _ ih => exact .same inside (ih stop_eq)
  | around inside _ ih => exact .around inside (ih stop_eq)
  | into canLookUp has _ ih => exact .into canLookUp has (ih stop_eq)
  | link canLookUp there =>
    cases stop_eq
    exact .link canLookUp there

theorem Walks.append (walks : fs.Walks links here first (.taken middle))
    (follows : fs.Follows middle second (.place place)) :
    fs.Walks links here (first ++ second) place := by
  generalize reached : Place.taken middle = earlier at walks
  induction walks with
  | stays goes =>
    subst reached
    exact .stays (Goes.append goes follows)
  | link stops _ ih =>
    refine .link (stops.append_of_link second) ?_
    rw [← List.append_assoc]
    exact ih reached

/-- A last name leads into the directory that the steps before it lead to. -/
theorem Follows.of_name {directory : Location} (proper : isDotName name = false)
    (follows : fs.Follows directory [name] (.place place)) :
    fs.CanLookUp directory name ∧ place.location = directory ++ [name] := by
  obtain ⟨notDot, notDotDot⟩ := isDotName_eq_false_iff.mp proper
  cases follows with
  | same | around => contradiction
  | into canLookUp _ arrived =>
    cases arrived
    exact ⟨canLookUp, rfl⟩
  | free canLookUp _ => exact ⟨canLookUp, rfl⟩

/-! ## 3. Trees that grow -/

/-- Directories and links stay, and files stay files. No links are added. -/
structure Extends (earlier later : FileSystem) : Prop where
  workingDirectory : later.workingDirectory = earlier.workingDirectory
  directories : ∀ location, earlier.stored location = some .directory →
    later.stored location = some .directory
  files : ∀ location content, earlier.stored location = some (.file content) →
    ∃ newContent, later.stored location = some (.file newContent)
  links : ∀ location target, later.stored location = some (.link target) ↔
    earlier.stored location = some (.link target)

variable {earlier later : FileSystem}

theorem Extends.has (grown : earlier.Extends later) {location : Location}
    (has : earlier.Has location) : later.Has location := by
  rcases has with directory | ⟨content, file⟩
  · exact .inl (grown.directories location directory)
  · exact .inr (grown.files location content file)

theorem Extends.canLookUp (grown : earlier.Extends later)
    (canLookUp : earlier.CanLookUp here name) : later.CanLookUp here name :=
  { canLookUp with inside := grown.directories here canLookUp.inside }

/-- Steps go on to lead where they led. Where nothing was there has to be something now. -/
theorem Follows.of_extends (grown : earlier.Extends later)
    (follows : earlier.Follows here steps stop)
    (made : ∀ directory name, stop = .place (.free directory name) →
      later.Has (directory ++ [name])) :
    later.Follows here steps stop.settled := by
  induction follows with
  | arrives here => exact .arrives here
  | same inside _ ih => exact .same (grown.directories _ inside) (ih made)
  | around inside _ ih => exact .around (grown.directories _ inside) (ih made)
  | into canLookUp has _ ih => exact .into (grown.canLookUp canLookUp) (grown.has has) (ih made)
  | free canLookUp _ => exact .into (grown.canLookUp canLookUp) (made _ _ rfl) (.arrives _)
  | link canLookUp there =>
    exact .link (grown.canLookUp canLookUp) ((grown.links _ _).mpr there)

theorem Walks.of_extends (grown : earlier.Extends later)
    (walks : earlier.Walks links here steps place)
    (made : ∀ directory name, place = .free directory name → later.Has (directory ++ [name])) :
    later.Walks links here steps (.taken place.location) := by
  induction walks with
  | stays follows =>
    exact .stays (follows.of_extends grown fun directory name same =>
      made directory name (Stop.place.inj same))
  | link stops _ ih =>
    exact .link (stops.of_extends grown fun _ _ same => by cases same) (ih made)

theorem Walks.taken_of_extends (grown : earlier.Extends later)
    (walks : earlier.Walks links here steps (.taken there)) :
    later.Walks links here steps (.taken there) :=
  walks.of_extends grown fun _ _ same => by cases same

theorem Goes.of_extends (grown : earlier.Extends later) (goes : earlier.Goes here steps there) :
    later.Goes here steps there :=
  Follows.of_extends grown goes fun _ _ same => by cases same

/-! ## 4. Trees without links -/

/-- No links are stored anywhere. -/
def NoLinks (fs : FileSystem) : Prop :=
  ∀ location target, fs.stored location ≠ some (.link target)

theorem NoLinks.of_extends (plain : earlier.NoLinks) (grown : earlier.Extends later) :
    later.NoLinks := fun location target there =>
  plain location target ((grown.links location target).mp there)

/-- Without links steps lead to where they can be followed. -/
theorem NoLinks.walks_iff (plain : fs.NoLinks) :
    fs.Walks links here steps place ↔ fs.Follows here steps (.place place) := by
  constructor
  · intro walks
    cases walks with
    | stays follows => exact follows
    | link stops _ =>
      generalize stop_eq : Stop.link _ _ _ = stop at stops
      exfalso
      induction stops with
      | arrives | free => cases stop_eq
      | same _ _ ih | around _ _ ih | into _ _ _ ih => exact ih stop_eq
      | link _ there => exact plain _ _ there
  · exact .stays

theorem NoLinks.has_of_isSome (plain : fs.NoLinks) {location : Location}
    (present : (fs.stored location).isSome = true) : fs.Has location := by
  obtain ⟨stored, there⟩ := Option.isSome_iff_exists.mp present
  cases stored with
  | file content => exact .inr ⟨content, there⟩
  | directory => exact .inl there
  | link target => exact absurd there (plain location target)

/-- Without steps back a way goes further into where it starts. -/
theorem prefix_of_goes (forward : dotDot ∉ steps) (goes : fs.Goes here steps there) :
    here <+: there := by
  induction steps generalizing here with
  | nil =>
    cases goes
    exact List.prefix_rfl
  | cons step rest ih =>
    obtain ⟨noStepBack, forward⟩ := not_or.mp (mt List.mem_cons.mpr forward)
    obtain ⟨_, ⟨_, next⟩ | ⟨dots, _⟩ | ⟨_, _, next⟩⟩ := goes_cons_iff.mp goes
    · exact ih forward next
    · exact absurd dots.symm noStepBack
    · exact (List.prefix_append here [step]).trans (ih forward next)

/-- A way without steps back to a directory is the same in each tree that has the directory. -/
theorem goes_of_stored (forward : dotDot ∉ steps)
    (stood : earlier.stored there = some .directory) (goes : later.Goes here steps there) :
    earlier.Goes here steps there := by
  induction steps generalizing here with
  | nil =>
    cases goes
    exact .arrives _
  | cons step rest ih =>
    have around := stored_of_prefix (prefix_of_goes forward goes) stood
    obtain ⟨noStepBack, forward⟩ := not_or.mp (mt List.mem_cons.mpr forward)
    refine goes_cons_iff.mpr ⟨around, ?_⟩
    obtain ⟨_, ⟨same, next⟩ | ⟨dots, _⟩ | ⟨canLookUp, _, next⟩⟩ := goes_cons_iff.mp goes
    · exact .inl ⟨same, ih forward next⟩
    · exact absurd dots.symm noStepBack
    · have inner := stored_of_prefix (prefix_of_goes forward next) stood
      exact .inr (.inr ⟨{ canLookUp with inside := around }, .inl inner, ih forward next⟩)

/-! ## 5. Paths -/

variable {path directory text : List UInt8} {location around : Location}

def startOf (fs : FileSystem) (path : Path) : Location :=
  startFrom fs.workingDirectory path

/-- A path leads to a location, and no link is on the way. -/
def Leads (fs : FileSystem) (path : Path) (location : Location) : Prop :=
  fs.Goes (fs.startOf path) (parts path) location

theorem checkPath_eq_ok_iff {path : Path} :
    checkPath path = .ok () ↔ (0 ∉ path ∧ path ≠ []) ∧ path.length ≤ maxPathSize := by
  unfold checkPath
  simp only [List.contains_iff_mem, List.isEmpty_iff]
  split
  · next zero => simp [zero]
  split
  · next empty => simp [empty]
  split
  · next long => simp [Nat.not_le.mpr long]
  · next noZero nonempty short => simp [noZero, nonempty, Nat.not_lt.mp short]

theorem locateFrom_eq_ok_iff :
    fs.locateFrom path steps = .ok location ↔
      fs.Walks maxLinks (fs.startOf path) steps (.taken location) := by
  rw [locateFrom, Outcome.bind_eq_ok_iff]
  constructor
  · rintro ⟨place, walked, reached⟩
    cases place with
    | free _ _ => cases reached
    | taken _ =>
      cases reached
      exact walk_eq_ok_iff.mp walked
  · exact fun walks => ⟨_, walk_eq_ok_iff.mpr walks, rfl⟩

theorem locate_eq_ok_iff :
    fs.locate path = .ok location ↔
      checkPath path = .ok () ∧
        fs.Walks maxLinks (fs.startOf path) (stepsOf path) (.taken location) := by
  rw [locate, Outcome.bind_eq_ok_iff, ← locateFrom_eq_ok_iff]
  exact ⟨fun ⟨_, located⟩ => located, fun located => ⟨(), located⟩⟩

theorem Extends.startOf (grown : earlier.Extends later) (path : Path) :
    later.startOf path = earlier.startOf path := by
  rw [FileSystem.startOf, FileSystem.startOf, grown.workingDirectory]

theorem locate_of_extends (grown : earlier.Extends later)
    (located : earlier.locate path = .ok location) : later.locate path = .ok location := by
  obtain ⟨checked, walks⟩ := locate_eq_ok_iff.mp located
  rw [← grown.startOf] at walks
  exact locate_eq_ok_iff.mpr ⟨checked, walks.of_extends grown fun _ _ same => by cases same⟩

theorem Leads.of_extends (grown : earlier.Extends later) (leads : earlier.Leads path location) :
    later.Leads path location := by
  rw [Leads, grown.startOf]
  exact Goes.of_extends grown leads

/-- A slash at the end of a path changes nothing, as it leads to a directory if it leads
anywhere. -/
theorem leads_of_goes_stepsOf (goes : fs.Goes (fs.startOf path) (stepsOf path) location) :
    fs.Leads path location := by
  obtain ⟨final, leads, last⟩ := goes_append_iff.mp goes
  have same : final = location := by
    split at last
    · cases last with
      | same _ arrived => cases arrived; rfl
      | into canLookUp => cases canLookUp.proper
    · cases last
      rfl
  exact same ▸ leads

theorem NoLinks.leads_of_locate (plain : fs.NoLinks) (located : fs.locate path = .ok location) :
    fs.Leads path location :=
  leads_of_goes_stepsOf (plain.walks_iff.mp (locate_eq_ok_iff.mp located).2)

/-- Without a slash at its end a path is located where it leads. -/
theorem locate_of_walks (walks : fs.Walks maxLinks (fs.startOf path) (parts path) (.taken location))
    (noSlash : endsWithSlash path = false) (checked : checkPath path = .ok ()) :
    fs.locate path = .ok location := by
  refine locate_eq_ok_iff.mpr ⟨checked, ?_⟩
  rwa [stepsOf, noSlash, if_neg Bool.false_ne_true, List.append_nil]

theorem locate_of_leads (leads : fs.Leads path location) (noSlash : endsWithSlash path = false)
    (checked : checkPath path = .ok ()) : fs.locate path = .ok location :=
  locate_of_walks (.stays leads) noSlash checked

/-- A path without steps back to a directory that stood earlier led there earlier, too. -/
theorem goes_stepsOf_of_stored (grown : earlier.Extends later) (forward : dotDot ∉ parts path)
    (stood : earlier.stored location = some .directory)
    (goes : later.Goes (later.startOf path) (stepsOf path) location) :
    earlier.Goes (earlier.startOf path) (stepsOf path) location := by
  rw [grown.startOf] at goes
  refine goes_of_stored ?_ stood goes
  rw [stepsOf, List.mem_append, not_or]
  refine ⟨forward, ?_⟩
  split <;> decide

theorem leads_of_stored (grown : earlier.Extends later) (forward : dotDot ∉ parts path)
    (stood : earlier.stored location = some .directory) (leads : later.Leads path location) :
    earlier.Leads path location := by
  rw [Leads, grown.startOf] at leads
  exact goes_of_stored forward stood leads

theorem canonicalize_eq_some_iff :
    fs.canonicalize path = some location ↔
      (0 ∉ path ∧ path ≠ []) ∧ (pathOf location).length ≤ maxPathSize ∧
        fs.Walks maxLinks (fs.startOf path) (stepsOf path) (.taken location) := by
  rw [canonicalize, ← locateFrom_eq_ok_iff]
  simp only [Bool.or_eq_true, List.contains_iff_mem, List.isEmpty_iff]
  split
  · next refused =>
    exact ⟨nofun, fun ⟨⟨noZero, nonempty⟩, _⟩ => absurd refused (not_or.mpr ⟨noZero, nonempty⟩)⟩
  · next given =>
    rw [and_iff_right (not_or.mp given), Option.filter_eq_some_iff, Outcome.toOption_eq_some_iff,
      and_comm, decide_eq_true_iff]

theorem readText_eq_ok_iff {text : String} :
    fs.readText path = .ok text ↔
      ∃ location content, fs.locate path = .ok location ∧
        fs.stored location = some (.file content) ∧ String.fromUTF8? content = some text := by
  rw [readText, Outcome.bind_eq_ok_iff]
  refine exists_congr fun location => ?_
  rw [exists_and_left, and_congr_right_iff, stored]
  intro _
  cases fs.get? location with
  | none => simp
  | some node =>
    cases node with
    | directory _ => simp [Node.stored]
    | link _ => simp [Node.stored]
    | file content =>
      simp only [Node.stored, Option.map_some, Option.some.injEq, Stored.file.injEq,
        exists_eq_left']
      cases String.fromUTF8? content <;> simp

theorem place_eq_ok_iff {old : Option Node} :
    fs.place path steps name = .ok (location, old) ↔
      ∃ directory, fs.Walks maxLinks (fs.startOf path) steps (.taken directory) ∧
        fs.stored directory = some .directory ∧ name.length ≤ maxNameSize ∧
        location = directory ++ [name] ∧ old = fs.get? (directory ++ [name]) := by
  rw [place, Outcome.bind_eq_ok_iff]
  refine exists_congr fun directory => ?_
  rw [locateFrom_eq_ok_iff, and_congr_right_iff]
  intro _
  constructor
  · intro placed
    split at placed
    · next entries around =>
      split at placed
      · cases placed
      · next short =>
        cases placed
        exact ⟨by rw [stored, around]; rfl, Nat.not_lt.mp short, rfl, (get?_child around).symm⟩
    · cases placed
  · rintro ⟨inside, short, rfl, rfl⟩
    obtain ⟨entries, around⟩ := exists_get?_of_stored inside
    rw [around, get?_child around]
    exact if_neg (Nat.not_lt.mpr short)

theorem NoLinks.isLink_eq_false (plain : fs.NoLinks) (path : Path) : fs.isLink path = false := by
  unfold isLink
  split
  · rfl
  · next name before _ =>
    split
    · next placed =>
      obtain ⟨around, _, _, _, _, there⟩ := place_eq_ok_iff.mp placed
      exact absurd (by rw [stored, ← there]; rfl) (plain (around ++ [name]) _)
    · rfl

theorem startOf_join (fs : FileSystem) (named : IsName name) :
    fs.startOf (join directory name) = fs.startOf directory := by
  rw [startOf, startOf, startFrom, startFrom, isAbsolute_join named]

theorem leads_join (named : IsName name) (leads : fs.Leads directory around)
    (inside : fs.stored around = some .directory) (short : name.length ≤ maxNameSize)
    (has : fs.Has (around ++ [name])) : fs.Leads (join directory name) (around ++ [name]) := by
  rw [Leads, startOf_join fs named, parts_join named]
  exact leads.append (.into ⟨inside, named.proper, short⟩ has (.arrives _))

end FileSystem

end ContractBinder.Files
