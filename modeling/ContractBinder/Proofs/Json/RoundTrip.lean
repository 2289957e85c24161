import ContractBinder.Json.Printer
import ContractBinder.Json.Reader
import ContractBinder.Proofs.Outcome

/-!
# Reading what was written

The text of a value that is made of strings and objects is read as that value, whatever
characters the strings have and whether the text is on one line or on several ones. What
is read has the members of every object in the order of their keys, and of members with
one key the last one (`Json.normal`).

`Reads depth text value` says that a reader finds the value at a text, whatever stands
behind it; the two layouts are instances of one way to spell members (`spellMembers`),
which differ in their gaps.

Results:

1. `readString_escaped`: the characters of a string are read back.
2. `readsMembers_spellMembers`: so are the members of an object, if their values are.
3. `OfStrings.parse_compact` and `OfStrings.parse_pretty`: so is every value.
-/

namespace ContractBinder.Json

/-! ## 1. Strings -/

theorem hexNumber?_control :
    ∀ code < 0x20, Text.hexNumber?
      ['0', '0', Nat.digitChar (code / 16), Nat.digitChar (code % 16)] = some code := by
  decide

theorem readEscape_control {c : Char} (low : c.toNat < 0x20) (rest : List Char) :
    readEscape ('u' :: '0' :: '0' :: Nat.digitChar (c.toNat / 16) ::
      Nat.digitChar (c.toNat % 16) :: rest) = .ok (c, rest) := by
  have unit : readHex ('0' :: '0' :: Nat.digitChar (c.toNat / 16) ::
      Nat.digitChar (c.toNat % 16) :: rest) = .ok (c.toNat, rest) := by
    simp only [readHex, hexNumber?_control c.toNat low, Option.map_some]
  change readCodePoint _ = _
  rw [readCodePoint, unit]
  have noTrail : (decide (0xdc00 ≤ c.toNat) && decide (c.toNat ≤ 0xdfff)) = false := by
    rw [decide_eq_false (by omega), Bool.false_and]
  have noLead : (decide (c.toNat < 0xd800) || decide (0xdbff < c.toNat)) = true := by
    rw [decide_eq_true (by omega), Bool.true_or]
  change ite _ _ (ite _ _ _) = _
  rw [noTrail, if_neg Bool.false_ne_true, noLead, if_pos rfl, Char.ofNat_toNat]

variable {others final : List Char} {bound : Nat}

/-- The escape of a character is read in one step. -/
theorem readString_escape (c : Char) {rest : List Char}
    (behind : readString bound rest = .ok (others, final)) :
    readString (bound + 1) (escapeJsonChar c ++ rest) = .ok (c :: others, final) := by
  have escaped {letters : List Char} (read : readEscape (letters ++ rest) = .ok (c, rest)) :
      readString (bound + 1) ('\\' :: letters ++ rest) = .ok (c :: others, final) := by
    rw [List.cons_append, readString, read]
    change (readString bound rest >>= fun read => .ok (c :: read.1, read.2)) = _
    rw [behind]
    rfl
  unfold escapeJsonChar
  split
  iterate 7 exact escaped rfl
  next noQuote noBackslash _ _ _ _ _ =>
  split
  · next low => exact escaped (readEscape_control low rest)
  · next high =>
    rw [List.singleton_append, readString]
    · rw [if_neg high, behind]
      rfl
    · exact noQuote
    · exact noBackslash

theorem readString_escaped (chars : List Char) (rest : List Char)
    (enough : chars.length < bound) :
    readString bound (chars.flatMap escapeJsonChar ++ '"' :: rest) = .ok (chars, rest) := by
  induction chars generalizing bound with
  | nil =>
    obtain ⟨bound, rfl⟩ := Nat.exists_eq_add_one_of_ne_zero (Nat.ne_of_gt enough)
    rfl
  | cons c chars ih =>
    obtain ⟨bound, rfl⟩ :=
      Nat.exists_eq_add_one_of_ne_zero (Nat.ne_of_gt (Nat.zero_lt_of_lt enough))
    rw [List.flatMap_cons, List.append_assoc]
    exact readString_escape c (ih (Nat.lt_of_succ_lt_succ enough))

theorem length_le_escaped (chars : List Char) :
    chars.length ≤ (chars.flatMap escapeJsonChar).length := by
  induction chars with
  | nil => exact Nat.le_refl _
  | cons c chars ih =>
    have some : 1 ≤ (escapeJsonChar c).length := by
      unfold escapeJsonChar
      split
      iterate 7 exact Nat.le_add_left 1 1
      split <;> simp
    rw [List.flatMap_cons, List.length_append, List.length_cons]
    omega

/-- What stands behind the opening quote of a string. -/
def stringBody (value : String) (rest : List Char) : List Char :=
  value.toList.flatMap escapeJsonChar ++ '"' :: rest

theorem writeString_append (value : String) (rest : List Char) :
    writeString value ++ rest = '"' :: stringBody value rest := by
  simp [writeString, stringBody]

theorem readString_stringBody (value : String) (rest : List Char)
    (enough : (writeString value).length ≤ bound + 1) :
    readString bound (stringBody value rest) = .ok (value.toList, rest) := by
  have long := length_le_escaped value.toList
  simp only [writeString, List.length_append, List.length_cons, List.length_nil] at enough
  exact readString_escaped value.toList rest (by omega)

/-! ## 2. Values -/

/-- The value is read at the text, whatever stands behind it, and `depth` levels are
enough for it. -/
def Reads (depth : Nat) (text : List Char) (value : Json) : Prop :=
  ∀ bound rest, text.length ≤ bound → readValue bound depth (text ++ rest) = .ok (value, rest)

/-- Members are read up to and with the closing brace, whatever stands behind it. -/
def ReadsMembers (depth : Nat) (isFirst : Bool) (text : List Char)
    (members : List (String × Json)) : Prop :=
  ∀ bound rest, text.length ≤ bound →
    readMembers bound depth isFirst (text ++ rest) = .ok (members, rest)

variable {depth : Nat} {gap text : List Char} {value : Json} {members : List (String × Json)}

theorem skipBlanks_append (blank : ∀ c ∈ gap, isJsonBlank c = true) (text : List Char) :
    skipBlanks (gap ++ text) = skipBlanks text :=
  List.dropWhile_append_of_pos blank

theorem skipBlanks_cons {c : Char} (visible : isJsonBlank c = false) (text : List Char) :
    skipBlanks (c :: text) = c :: text :=
  List.dropWhile_cons_of_neg (by rw [visible]; exact Bool.false_ne_true)

theorem Reads.string (depth : Nat) (value : String) :
    Reads depth (writeString value) (.string value) := by
  intro bound rest enough
  obtain _ | bound := bound
  · simp [writeString] at enough
  rw [writeString_append, readValue, skipBlanks_cons rfl]
  simp only
  rw [readString_stringBody value rest enough]
  change Except.ok (Json.string (String.ofList value.toList), rest) = _
  rw [String.ofList_toList]

/-- Blanks in front of a value have no meaning. -/
theorem Reads.blank (blank : ∀ c ∈ gap, isJsonBlank c = true) (reads : Reads depth text value) :
    Reads depth (gap ++ text) value := by
  intro bound rest enough
  have shorter := reads bound rest (by rw [List.length_append] at enough; omega)
  obtain _ | bound := bound
  · cases shorter
  rw [readValue] at shorter ⊢
  rw [List.append_assoc, skipBlanks_append blank]
  exact shorter

theorem ReadsMembers.close (isFirst : Bool) (blank : ∀ c ∈ gap, isJsonBlank c = true) :
    ReadsMembers depth isFirst (gap ++ ['\x7d']) [] := by
  intro bound rest enough
  obtain _ | bound := bound
  · simp at enough
  rw [readMembers, List.append_assoc, skipBlanks_append blank, List.singleton_append,
    skipBlanks_cons rfl]
  rfl

/-- What stands in front of a member. -/
def separator (isFirst : Bool) : List Char :=
  if isFirst then [] else [',']

/-- A member behind others is read like the first one. -/
theorem readMembers_separator (isFirst : Bool) (blank : ∀ c ∈ gap, isJsonBlank c = true)
    (afterQuote : List Char) :
    readMembers (bound + 1) depth isFirst (separator isFirst ++ (gap ++ '"' :: afterQuote)) =
      readMembers (bound + 1) depth true ('"' :: afterQuote) := by
  have inner : skipBlanks (gap ++ '"' :: afterQuote) = '"' :: afterQuote := by
    rw [skipBlanks_append blank, skipBlanks_cons rfl]
  cases isFirst with
  | true =>
    rw [readMembers, readMembers, separator, if_pos rfl, List.nil_append, inner,
      skipBlanks_cons rfl]
  | false =>
    rw [readMembers, readMembers, separator, if_neg Bool.false_ne_true, List.singleton_append,
      skipBlanks_cons rfl]
    simp only
    rw [inner, skipBlanks_cons rfl]
    rfl

theorem ReadsMembers.member {isFirst : Bool} {key : String} {valueText behind : List Char}
    {others : List (String × Json)} (blank : ∀ c ∈ gap, isJsonBlank c = true)
    (here : Reads depth valueText value) (later : ReadsMembers depth false behind others) :
    ReadsMembers depth isFirst
      (separator isFirst ++ (gap ++ (writeString key ++ ':' :: (valueText ++ behind))))
      ((key, value) :: others) := by
  intro bound rest enough
  have colon : isJsonBlank ':' = false := rfl
  have long : (writeString key).length = (stringBody key []).length + 1 := by
    rw [← List.append_nil (writeString key), writeString_append, List.length_cons]
  simp only [List.length_append, List.length_cons] at enough
  obtain _ | bound := bound
  · omega
  simp only [List.append_assoc, List.cons_append]
  rw [writeString_append, readMembers_separator isFirst blank, readMembers, skipBlanks_cons rfl]
  simp only
  rw [if_pos trivial]
  refine Outcome.bind_eq_ok_iff.mpr ⟨_, readString_stringBody key _ (by omega), ?_⟩
  simp only [skipBlanks_cons colon]
  refine Outcome.bind_eq_ok_iff.mpr ⟨_, here bound _ (by omega), ?_⟩
  refine Outcome.bind_eq_ok_iff.mpr ⟨_, later bound _ (by omega), ?_⟩
  rw [String.ofList_toList]

theorem Reads.object (reads : ReadsMembers depth true text members) :
    Reads (depth + 1) ('\x7b' :: text) (.object (sortedPairs members)) := by
  intro bound rest enough
  obtain _ | bound := bound
  · simp at enough
  rw [List.cons_append, readValue, skipBlanks_cons rfl]
  exact Outcome.bind_eq_ok_iff.mpr ⟨_, reads bound rest (Nat.le_of_succ_le_succ enough), rfl⟩

/-- A text at which a value is read is read as the value. -/
theorem parse_of_reads (reads : Reads maxDepth text value) :
    parse (String.ofList text) = .ok value := by
  have read := reads (2 * text.length + 2) [] (by omega)
  rw [List.append_nil] at read
  have whole : parseChars text = .ok value := Outcome.bind_eq_ok_iff.mpr ⟨_, read, rfl⟩
  rw [parse, String.toList_ofList, whole]

/-! ## 3. Layouts -/

/-- The members of an object with its closing brace. There is a gap in front of every
member, one in front of every value, and one in front of the brace. -/
def spellMembers (gap colonGap closing : List Char) (spell : Json → List Char) (isFirst : Bool) :
    List (String × Json) → List Char
  | [] => closing ++ ['\x7d']
  | (key, value) :: rest =>
    separator isFirst ++ (gap ++ (writeString key ++ ':' :: ((colonGap ++ spell value) ++
      spellMembers gap colonGap closing spell false rest)))

variable {colonGap closing : List Char} {spell : Json → List Char}

theorem readsMembers_spellMembers {read : Json → Json} {isFirst : Bool}
    (blank : ∀ c ∈ gap, isJsonBlank c = true) (colonBlank : ∀ c ∈ colonGap, isJsonBlank c = true)
    (closingBlank : ∀ c ∈ closing, isJsonBlank c = true)
    (values : ∀ member ∈ members, Reads depth (spell member.2) (read member.2)) :
    ReadsMembers depth isFirst (spellMembers gap colonGap closing spell isFirst members)
      (members.map fun member => (member.1, read member.2)) := by
  induction members generalizing isFirst with
  | nil => exact .close isFirst closingBlank
  | cons first rest ih =>
    obtain ⟨here, later⟩ := List.forall_mem_cons.mp values
    exact .member blank (here.blank colonBlank) (ih later)

theorem compactMembers_eq (first : String × Json) (rest : List (String × Json)) :
    compactMembers (first :: rest) ++ ['\x7d'] =
      spellMembers [] [] [] compactChars true (first :: rest) := by
  induction rest generalizing first with
  | nil => simp [compactMembers, spellMembers, separator]
  | cons next rest ih =>
    have later := ih next
    simp only [compactMembers, spellMembers, separator] at later ⊢
    simp [later]

theorem prettyMembers_eq (level : Nat) (closing : List Char) (first : String × Json)
    (rest : List (String × Json)) :
    lineStart level ++ (prettyMembers level (first :: rest) ++ (closing ++ ['\x7d'])) =
      spellMembers (lineStart level) [' '] closing (prettyChars level) true (first :: rest) := by
  induction rest generalizing first with
  | nil => simp [prettyMembers, spellMembers, separator]
  | cons next rest ih =>
    have later := ih next
    simp only [prettyMembers, spellMembers, separator] at later ⊢
    simp [later]

theorem isJsonBlank_of_mem_nil : ∀ c ∈ ([] : List Char), isJsonBlank c = true :=
  fun _ listed => absurd listed List.not_mem_nil

theorem isJsonBlank_of_mem_lineStart {level : Nat} :
    ∀ c ∈ lineStart level, isJsonBlank c = true := by
  intro c member
  rcases List.mem_cons.mp member with rfl | inner
  · rfl
  · rw [List.eq_of_mem_replicate inner]
    rfl

/-! ## 4. Values of strings -/

mutual

/-- The value with the members of its objects in order. Of members that share a key the last
is kept. -/
def normal : Json → Json
  | .object members => .object (sortedPairs (normalMembers members))
  | .array elements => .array (normalElements elements)
  | value => value

/-- The same for every element. -/
def normalElements : List Json → List Json
  | [] => []
  | element :: rest => normal element :: normalElements rest

/-- The same for the value of every member. -/
def normalMembers : List (String × Json) → List (String × Json)
  | [] => []
  | (key, value) :: rest => (key, normal value) :: normalMembers rest

end

theorem normalMembers_eq_map (members : List (String × Json)) :
    normalMembers members = members.map fun member => (member.1, member.2.normal) := by
  induction members with
  | nil => rfl
  | cons first rest ih => rw [normalMembers, ih, List.map_cons]

/-- Strings, and objects of them with this many levels at most. -/
inductive OfStrings : Nat → Json → Prop
  | string {levels : Nat} (value : String) : OfStrings levels (.string value)
  | object {levels : Nat} {members : List (String × Json)} :
      (∀ member ∈ members, OfStrings levels member.2) → OfStrings (levels + 1) (.object members)

namespace OfStrings

variable {levels : Nat}

theorem reads_compactChars (plain : OfStrings levels value) :
    Reads levels (compactChars value) value.normal := by
  induction plain with
  | string value => exact .string _ value
  | @object levels members _ ih =>
    rw [compactChars, normal, normalMembers_eq_map, List.cons_append]
    cases members with
    | nil => exact .object (.close true isJsonBlank_of_mem_nil)
    | cons first rest =>
      rw [compactMembers_eq]
      exact .object (readsMembers_spellMembers isJsonBlank_of_mem_nil isJsonBlank_of_mem_nil
        isJsonBlank_of_mem_nil ih)

theorem reads_prettyChars (plain : OfStrings levels value) (level : Nat) :
    Reads levels (prettyChars level value) value.normal := by
  induction plain generalizing level with
  | string value => exact .string _ value
  | @object levels members _ ih =>
    rw [normal, normalMembers_eq_map]
    cases members with
    | nil => exact .object (.close true isJsonBlank_of_mem_nil)
    | cons first rest =>
      rw [prettyChars, List.append_assoc, List.append_assoc, List.cons_append, prettyMembers_eq]
      exact .object (readsMembers_spellMembers isJsonBlank_of_mem_lineStart
        (List.forall_mem_singleton.mpr rfl) isJsonBlank_of_mem_lineStart
        fun member listed => ih member listed (level + 1))

theorem parse_compact (plain : OfStrings maxDepth value) :
    parse value.compact = .ok value.normal :=
  parse_of_reads plain.reads_compactChars

theorem parse_pretty (plain : OfStrings maxDepth value) :
    parse value.pretty = .ok value.normal :=
  parse_of_reads (plain.reads_prettyChars 0)

end OfStrings

end ContractBinder.Json
