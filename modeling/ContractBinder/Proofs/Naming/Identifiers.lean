import ContractBinder.Naming.Items
import ContractBinder.Proofs.Code.Lexing
import ContractBinder.Proofs.Naming.Registry
import ContractBinder.Proofs.Text.Casing

/-!
# Names as identifiers

Every name that is derived from a name which a contract's compiler emits is an
identifier (`sanitize_isIdentifier`), whatever letter case it is converted to and
whatever is put around it. Such names hold no character that code could skip, so
a name that is kept is an identifier by itself; one that is repaired is plain,
and an underscore behind it takes it out of the reserved words.

What can become of any name at all is said once, by `Sanitizes`; what is proved of
sanitized names follows from its rules (`sanitizes`).
-/

namespace ContractBinder.Naming

open Code (IsIdentifier isPlain isReserved isIdentStart isIdentContinue)

/-! ## 1. Characters of emitted names -/

/-- The characters of the names that compilers of contracts emit: ASCII letters,
digits, underscores and dollar signs. -/
def isEmittedChar (c : Char) : Bool :=
  isWordChar c || c == '$'

/-- A name that consists of such characters. It may be empty, and it may be
reserved or begin with a digit. -/
def IsEmitted (name : String) : Prop :=
  ∀ c ∈ name.toList, isEmittedChar c = true

instance (name : String) : Decidable (IsEmitted name) :=
  decidable_of_iff (name.toList.all isEmittedChar = true) List.all_eq_true

theorem printable_of_isEmittedChar {c : Char} (emitted : isEmittedChar c = true) :
    0x20 < c.toNat ∧ c.toNat < 0x7f := by
  simp only [isEmittedChar, isWordChar, Bool.or_eq_true, Text.isAlphanum_iff, beq_iff_eq] at emitted
  rcases emitted with (bounds | rfl) | rfl
  · omega
  · decide
  · decide

theorem caseClosed_isEmittedChar : Text.CaseClosed isEmittedChar := by
  -- Few enough code points to try them all.
  have cases : ∀ code < 0x80, isEmittedChar (Char.ofNat code) = true →
      isEmittedChar (Char.ofNat code).toLower = true ∧
        isEmittedChar (Char.ofNat code).toUpper = true := by decide +kernel
  have both : ∀ c, isEmittedChar c = true →
      isEmittedChar c.toLower = true ∧ isEmittedChar c.toUpper = true := by
    intro c emitted
    have small := (printable_of_isEmittedChar emitted).2
    have same := cases c.toNat (by omega)
    rw [Char.ofNat_toNat] at same
    exact same emitted
  exact ⟨fun c emitted => by have := printable_of_isEmittedChar emitted; omega,
    fun c emitted => (both c emitted).1, fun c emitted => (both c emitted).2⟩

theorem isIdentContinue_of_isWordChar {c : Char} (word : isWordChar c = true) :
    isIdentContinue c = true := by
  have emitted : isEmittedChar c = true := by simp [isEmittedChar, word]
  have ascii : c.toNat < 0x80 := by
    have := printable_of_isEmittedChar emitted
    omega
  simpa [isIdentContinue, Text.isNameContinue, ascii, isWordChar] using word

theorem isIdentStart_of_isWordChar {c : Char} (word : isWordChar c = true)
    (noDigit : c.isDigit = false) : isIdentStart c = true := by
  have emitted : isEmittedChar c = true := by simp [isEmittedChar, word]
  have ascii : c.toNat < 0x80 := by
    have := printable_of_isEmittedChar emitted
    omega
  simp only [isWordChar, Char.isAlphanum, noDigit, Bool.or_false, Bool.or_eq_true] at word
  simpa [isIdentStart, Text.isNameStart, ascii, or_comm] using word

/-! ## 2. Legal names -/

theorem bare_of_isEmittedChar {text : List Char} (emitted : ∀ c ∈ text, isEmittedChar c = true) :
    Code.Bare text := by
  have absent : ∀ d, isEmittedChar d = false → d ∉ text := by
    intro d foreign member
    rw [emitted d member] at foreign
    cases foreign
  exact
    { double := absent _ rfl
      single := absent _ rfl
      hash := absent _ rfl
      noSlash := absent _ rfl
      noMark := absent _ rfl
      solid := fun c member =>
        have printable := printable_of_isEmittedChar (emitted c member)
        Code.isSpacing_of_printable printable.1 printable.2 }

/-- Of names in which nothing can be skipped exactly the identifiers are legal. -/
theorem isLegal_iff {name : String} (bare : Code.Bare name.toList) :
    isLegal name = true ↔ IsIdentifier name := by
  have notRaw : Code.startsWith name.toList "r#" = false :=
    Bool.eq_false_iff.mpr fun raw => bare.hash (Code.mem_of_startsWith raw (by decide))
  simp only [isLegal, notRaw, Bool.not_false, Bool.true_and]
  constructor
  · intro kept
    split at kept
    · next sole found =>
      obtain ⟨plain, rfl⟩ := bare.soleName?_eq_some_iff.mp found
      exact ⟨plain, by simpa using kept⟩
    · cases kept
  · intro identifier
    rw [bare.soleName?_eq_some_iff.mpr ⟨identifier.plain, rfl⟩]
    simp [identifier.free]

/-! ## 3. Sanitized names -/

theorem trim_of_solid {text : List Char} (solid : ∀ c ∈ text, Text.isBlank c = false) :
    Text.trim text = text := by
  have kept : ∀ part : List Char, (∀ c ∈ part, Text.isBlank c = false) →
      part.dropWhile Text.isBlank = part := by
    intro part clean
    cases part with
    | nil => rfl
    | cons c rest => simp [clean c List.mem_cons_self]
  rw [Text.trim, kept text solid, kept text.reverse fun c h => solid c (List.mem_reverse.mp h),
    List.reverse_reverse]

theorem isWordChar_of_mem_replaceForeign {text : List Char} {c : Char}
    (member : c ∈ replaceForeign text) : isWordChar c = true := by
  obtain ⟨d, _, rfl⟩ := List.mem_map.mp member
  split
  · next word => exact word
  · rfl

theorem isWordChar_of_mem_guardDigit {text : List Char}
    (word : ∀ c ∈ text, isWordChar c = true) : ∀ c ∈ guardDigit text, isWordChar c = true := by
  have lead : ∀ c ∈ "param_".toList, isWordChar c = true := List.all_eq_true.mp (by decide)
  intro c member
  unfold guardDigit at member
  split at member
  · split at member
    · exact (List.mem_append.mp member).elim (lead c) (word c)
    · exact word c member
  · exact absurd member List.not_mem_nil

theorem isWordChar_of_mem_repr {number : Nat} {c : Char}
    (member : c ∈ (Nat.repr number).toList) : isWordChar c = true := by
  rw [Nat.toList_repr] at member
  simp [isWordChar, Char.isAlphanum, (Text.isNumeral_toDigits number).digit c member]

theorem isIdentContinue_of_mem_repr {number : Nat} {c : Char}
    (member : c ∈ (Nat.repr number).toList) : isIdentContinue c = true :=
  isIdentContinue_of_isWordChar (isWordChar_of_mem_repr member)

theorem isIdentifier_withNumber {lead : String} (plain : isPlain lead = true) (number : Nat) :
    IsIdentifier (lead ++ Nat.repr number) := by
  refine IsIdentifier.of_append plain (fun c member => isIdentContinue_of_mem_repr member) ?_
  rw [Nat.toList_repr]
  have numeral := Text.isNumeral_toDigits number
  obtain ⟨c, member⟩ := List.exists_mem_of_ne_nil _ numeral.nonempty
  exact ⟨c, member, by simp [Code.isUnreservedChar, numeral.digit c member]⟩

theorem isIdentifier_positional (index : Nat) : IsIdentifier (positional index) :=
  isIdentifier_withNumber (by decide) index

theorem isPlain_guardDigit {text : List Char} (nonempty : text ≠ [])
    (word : ∀ c ∈ text, isWordChar c = true) :
    isPlain (String.ofList (guardDigit text)) = true := by
  cases text with
  | nil => exact absurd rfl nonempty
  | cons c rest =>
    have continues : ∀ d ∈ c :: rest, isIdentContinue d = true :=
      fun d member => isIdentContinue_of_isWordChar (word d member)
    rw [guardDigit]
    split
    · rw [String.ofList_append]
      exact Code.isPlain_append (by decide) fun d member => continues d (by simpa using member)
    · next noDigit =>
      have start := isIdentStart_of_isWordChar (word c List.mem_cons_self)
        (Bool.eq_false_iff.mpr noDigit)
      exact Code.isPlain_iff.mpr ⟨c, rest, String.toList_ofList, start,
        fun d member => continues d (List.mem_cons_of_mem c member)⟩

/-- What is left of a trimmed name when its foreign characters are replaced and a digit at
its start has a word in front. -/
def repair (text : List Char) : List Char :=
  guardDigit (replaceForeign text)

theorem isWordChar_of_mem_repair {text : List Char} : ∀ c ∈ repair text, isWordChar c = true :=
  isWordChar_of_mem_guardDigit fun _ => isWordChar_of_mem_replaceForeign

theorem isPlain_repair {text : List Char} (some : text ≠ []) :
    isPlain (String.ofList (repair text)) = true :=
  isPlain_guardDigit (by simpa [replaceForeign] using some)
    fun _ => isWordChar_of_mem_replaceForeign

/-- A repaired name is legal unless it is reserved. -/
theorem isLegal_repair {text : List Char} (some : text ≠ []) :
    isLegal (String.ofList (repair text)) = !isReserved (String.ofList (repair text)) := by
  have bare : Code.Bare (String.ofList (repair text)).toList := by
    rw [String.toList_ofList]
    exact bare_of_isEmittedChar fun c member => by
      simp [isEmittedChar, isWordChar_of_mem_repair c member]
  rw [Bool.eq_iff_iff, isLegal_iff bare, Bool.not_eq_true']
  exact ⟨fun identifier => identifier.free, fun free => ⟨isPlain_repair some, free⟩⟩

/-- `Sanitizes index text name`: `name` is what becomes of a trimmed name `text` at the position
`index`.

* `kept`: the text is legal.
* `numbered`: repairing leaves nothing but underscores, or there was no text.
* `repaired`: the repaired text is an identifier.
* `marked`: the repaired text is reserved. The lone underscore is numbered, so this is a keyword. -/
inductive Sanitizes (index : Nat) (text : List Char) : String → Prop
  | kept : isLegal (String.ofList text) = true → Sanitizes index text (String.ofList text)
  | numbered : isLegal (String.ofList text) = false → (∀ c ∈ repair text, c = '_') →
      Sanitizes index text (positional index)
  | repaired : isLegal (String.ofList text) = false → (∃ c ∈ repair text, c ≠ '_') →
      IsIdentifier (String.ofList (repair text)) →
      Sanitizes index text (String.ofList (repair text))
  | marked : isLegal (String.ofList text) = false → (∃ c ∈ repair text, c ≠ '_') →
      isPlain (String.ofList (repair text)) = true →
      isReserved (String.ofList (repair text)) = true →
      Sanitizes index text (String.ofList (repair text) ++ "_")

theorem isLegal_empty : isLegal (String.ofList []) = false := by
  have bare : Code.Bare (String.ofList []).toList :=
    bare_of_isEmittedChar fun _ member => absurd member List.not_mem_nil
  exact Bool.eq_false_iff.mpr fun legal => nomatch ((isLegal_iff bare).mp legal).plain

/-- Every name is sanitized by one of these rules. -/
theorem sanitizes (name : String) (index : Nat) :
    Sanitizes index (Text.trim name.toList) (sanitize name index) := by
  simp only [sanitize]
  rw [← repair]
  split
  · next empty =>
    rw [List.isEmpty_iff.mp empty]
    exact .numbered isLegal_empty fun _ member => absurd member List.not_mem_nil
  next some =>
  have legality := isLegal_repair (mt List.isEmpty_iff.mpr some)
  have plain := isPlain_repair (mt List.isEmpty_iff.mpr some)
  split
  · next legal => exact .kept legal
  next illegal =>
  replace illegal := Bool.eq_false_iff.mpr illegal
  split
  · next underscores => exact .numbered illegal (by simpa using underscores)
  next more =>
  replace more : ∃ c ∈ repair (Text.trim name.toList), c ≠ '_' := by simpa using more
  split
  · next legal => exact .repaired illegal more ⟨plain, by simpa [legal] using legality.symm⟩
  · next still => exact .marked illegal more plain (by simpa [still] using legality.symm)

/-- A sanitized name is the trimmed name, if this is legal, or an identifier. -/
theorem sanitize_cases (name : String) (index : Nat) :
    (isLegal (String.ofList (Text.trim name.toList)) = true ∧
      sanitize name index = String.ofList (Text.trim name.toList)) ∨
    IsIdentifier (sanitize name index) := by
  have way := sanitizes name index
  generalize sanitize name index = result at way ⊢
  cases way with
  | kept legal => exact .inl ⟨legal, rfl⟩
  | numbered _ _ => exact .inr (isIdentifier_positional index)
  | repaired _ _ identifier => exact .inr identifier
  | marked _ _ plain _ =>
    exact .inr (IsIdentifier.of_append plain (List.all_eq_true.mp (by decide))
      ⟨'_', by decide, by decide⟩)

theorem sanitize_isIdentifier {name : String} (emitted : IsEmitted name) (index : Nat) :
    IsIdentifier (sanitize name index) := by
  rcases sanitize_cases name index with ⟨legal, kept⟩ | identifier
  · have whole : Text.trim name.toList = name.toList := trim_of_solid fun c member =>
      have printable := printable_of_isEmittedChar (emitted c member)
      Text.isBlank_of_printable printable.1 printable.2
    rw [whole, String.ofList_toList] at legal kept
    rw [kept]
    exact (isLegal_iff (bare_of_isEmittedChar emitted)).mp legal
  · exact identifier

/-! ## 4. Names with something around them -/

theorem isIdentifier_numbered {base : String} (identifier : IsIdentifier base) (number : Nat) :
    IsIdentifier (Registry.numbered base number) := by
  rw [Registry.numbered, String.append_assoc]
  refine IsIdentifier.of_append identifier.plain (fun c member => ?_) ⟨'_', by simp, rfl⟩
  rw [String.toList_append] at member
  rcases List.mem_append.mp member with underscore | digit
  · exact List.mem_singleton.mp underscore ▸ rfl
  · exact isIdentContinue_of_mem_repr digit

theorem isEmitted_append {first second : String} (emitted : IsEmitted first)
    (behind : IsEmitted second) : IsEmitted (first ++ second) := by
  intro c member
  rw [String.toList_append] at member
  exact (List.mem_append.mp member).elim (emitted c) (behind c)

theorem isEmitted_upperName {name : String} (emitted : IsEmitted name) :
    IsEmitted (upperName name) := by
  intro c member
  rw [upperName, String.toList_ofList] at member
  exact caseClosed_isEmittedChar.upper_chars emitted c member

theorem isEmitted_snakeName {name : String} (emitted : IsEmitted name) :
    IsEmitted (snakeName name) := by
  intro c member
  rw [snakeName, String.toList_ofList] at member
  exact caseClosed_isEmittedChar.snakeCase_chars rfl emitted c member

theorem isEmitted_pascalName {name : String} (emitted : IsEmitted name) :
    IsEmitted (pascalName name) := by
  intro c member
  rw [pascalName, String.toList_ofList] at member
  exact caseClosed_isEmittedChar.pascalCase_chars emitted c member

theorem isIdentifier_functionConstant {name : String} (emitted : IsEmitted name) :
    IsIdentifier (functionConstant name) :=
  sanitize_isIdentifier (isEmitted_append (by decide) (isEmitted_upperName emitted)) 0

theorem isIdentifier_eventConstant {name : String} (emitted : IsEmitted name) :
    IsIdentifier (eventConstant name) :=
  sanitize_isIdentifier (isEmitted_append (isEmitted_upperName emitted) (by decide)) 0

theorem isIdentifier_methodName {name : String} (emitted : IsEmitted name) :
    IsIdentifier (methodName name) :=
  sanitize_isIdentifier (isEmitted_snakeName emitted) 0

theorem isIdentifier_typeName {name : String} (emitted : IsEmitted name) :
    IsIdentifier (typeName name) :=
  sanitize_isIdentifier (isEmitted_pascalName emitted) 0

/-- The names for an event are good before they are made distinct. -/
structure EventNames.Each (good : String → Prop) (names : EventNames) : Prop where
  constant : good names.constant
  topicConstant : good names.topicConstant
  response : good names.response
  extractMethod : good names.extractMethod
  streamMethod : good names.streamMethod
  rangeStreamMethod : good names.rangeStreamMethod

theorem EventNames.identifiers_ofEvent {event : String} (emitted : IsEmitted event) :
    (EventNames.ofEvent event).Each IsIdentifier := by
  have constant := isIdentifier_eventConstant emitted
  have snake := isIdentifier_methodName emitted
  have behind : ∀ {name suffix : String}, isPlain name = true →
      suffix.toList.all isIdentContinue = true → '_' ∈ suffix.toList →
      IsIdentifier (name ++ suffix) := fun plain continues underscore =>
    IsIdentifier.of_append plain (List.all_eq_true.mp continues) ⟨'_', underscore, rfl⟩
  have getter : isPlain ("get_" ++ methodName event) = true :=
    Code.isPlain_append (by decide) fun c member =>
      Code.isIdentContinue_of_isPlain snake.plain member
  have response : IsEmitted (pascalName event ++ "EventResponse") :=
    isEmitted_append (isEmitted_pascalName emitted) (by decide)
  constructor <;> simp only [EventNames.ofEvent]
  · exact constant
  · exact behind constant.plain (by decide) (by decide)
  · exact sanitize_isIdentifier response 0
  · exact behind getter (by decide) (by decide)
  · exact behind snake.plain (by decide) (by decide)
  · exact behind snake.plain (by decide) (by decide)

/-! ## 5. Names that are not reserved -/

/-- A sanitized name is not reserved, whatever it is made of. -/
theorem isReserved_sanitize (name : String) (index : Nat) :
    isReserved (sanitize name index) = false := by
  have emitted : ∀ word ∈ Code.reservedWords, IsEmitted word := by decide +kernel
  rcases sanitize_cases name index with ⟨legal, kept⟩ | identifier
  · rw [kept]
    refine Bool.eq_false_iff.mpr fun reserved => ?_
    have bare := bare_of_isEmittedChar (emitted _ (List.contains_iff_mem.mp reserved))
    exact absurd reserved (Bool.eq_false_iff.mp ((isLegal_iff bare).mp legal).free)
  · exact identifier.free

/-- No reserved word is longer than an underscore in it. -/
theorem isReserved_of_underscore {name : String} (underscore : '_' ∈ name.toList)
    (longer : 1 < name.toList.length) : isReserved name = false :=
  Code.isReserved_eq_false underscore rfl fun lone => by
    rw [lone] at longer
    exact absurd longer (by decide)

theorem isReserved_numbered (base : String) (number : Nat) :
    isReserved (Registry.numbered base number) = false := by
  have digits := (Text.isNumeral_toDigits number).nonempty
  refine isReserved_of_underscore ?_ ?_
  · simp [Registry.numbered]
  · have := List.length_pos_iff.mpr digits
    simp only [Registry.numbered, String.toList_append, List.length_append, Nat.toList_repr]
    simp
    omega

theorem isReserved_suffixed (name : String) {suffix : String} (underscore : '_' ∈ suffix.toList)
    (longer : 1 < suffix.toList.length) : isReserved (name ++ suffix) = false := by
  refine isReserved_of_underscore ?_ ?_
  · rw [String.toList_append]
    exact List.mem_append_right _ underscore
  · rw [String.toList_append, List.length_append]
    omega

theorem EventNames.unreserved_ofEvent (event : String) :
    (EventNames.ofEvent event).Each fun name => isReserved name = false := by
  constructor <;> simp only [EventNames.ofEvent]
  · exact isReserved_sanitize _ _
  · exact isReserved_suffixed _ (by decide) (by decide)
  · exact isReserved_sanitize _ _
  · exact isReserved_suffixed _ (by decide) (by decide)
  · exact isReserved_suffixed _ (by decide) (by decide)
  · exact isReserved_suffixed _ (by decide) (by decide)

end ContractBinder.Naming
