import ContractBinder.Proofs.Code.Brackets

/-!
# What generated code is put together from

Generated code consists of plain tokens, brackets, attributes and documentation around the path of
the runtime library, and a separator follows that path wherever it stands. What is true of all
generated code is proved by induction on this, and not once for every item that is rendered.

Results:

1. Phrases are `Composed` if what they are put together from is.
2. `Composed.clear`: undocumented code holds no documentation but that in the path.
3. `Composed.matched`: the brackets of the code match if those of the path do.
-/

namespace ContractBinder.Code

/-- Whether a token stands for itself: it is no bracket and no documentation, and it begins
neither an attribute nor a lifetime. -/
def Token.isSimple : Token → Bool
  | .opening _ | .closing _ | .doc _ => false
  | .mark symbol _ => symbol ≠ '#' && symbol ≠ '\''
  | _ => true

/-- `Composed path documented tokens`: the tokens are put together around a path.

* `cons`: a simple token in front.
* `append`, `enclose`: parts behind each other, and brackets.
* `runtime`: the path with a separator behind it.
* `allowing`: an attribute with a list in round brackets, which is no documentation.
* `doc`: documentation, if there may be any. -/
inductive Composed (path : List Token) (documented : Bool) : List Token → Prop
  | nil : Composed path documented []
  | cons {token : Token} {rest : List Token} :
      token.isSimple = true → Composed path documented rest →
      Composed path documented (token :: rest)
  | append {front back : List Token} :
      Composed path documented front → Composed path documented back →
      Composed path documented (front ++ back)
  | enclose {inside : List Token} :
      Composed path documented inside → (delimiter : Delimiter) →
      Composed path documented (enclose delimiter inside)
  | runtime {rest : List Token} :
      Composed path documented rest → Composed path documented (path ++ .mark ':' true :: rest)
  | allowing {spelling : String} {inside : List Token} :
      spelling ≠ "doc" → Composed path documented inside →
      Composed path documented (attributeOf (.name spelling :: Code.enclose .paren inside))
  | doc (content : String) : documented = true → Composed path documented [.doc content]

variable {path front back type value body tokens : List Token} {documented : Bool}
  {items : List (List Token)}

namespace Composed

/-! ## 1. Phrases -/

theorem name (spelling : String) (composed : Composed path documented tokens) :
    Composed path documented (.name spelling :: tokens) :=
  cons rfl composed

theorem word (spelling : String) : Composed path documented (word spelling) :=
  name spelling nil

theorem single (composed : Composed path documented front) :
    ∀ item ∈ [front], Composed path documented item :=
  List.forall_mem_singleton.mpr composed

theorem pair (first : Composed path documented front) (second : Composed path documented back) :
    ∀ item ∈ [front, back], Composed path documented item :=
  List.forall_mem_cons.mpr ⟨first, single second⟩

theorem flatMap {α : Type} {xs : List α} {f : α → List Token}
    (each : ∀ x ∈ xs, Composed path documented (f x)) : Composed path documented (xs.flatMap f) :=
  flatMap_closed nil append each

theorem flatten (each : ∀ item ∈ items, Composed path documented item) :
    Composed path documented items.flatten := by
  rw [← List.flatMap_id]
  exact flatMap each

theorem commaSeparated (each : ∀ item ∈ items, Composed path documented item) :
    Composed path documented (commaSeparated items) :=
  intercalate_closed nil append (cons rfl nil) each

theorem commaTerminated (each : ∀ item ∈ items, Composed path documented item) :
    Composed path documented (commaTerminated items) :=
  flatMap fun item member => (each item member).append (cons rfl nil)

theorem pathSep : Composed path documented pathSep :=
  cons rfl (cons rfl nil)

theorem pathOf (isAbsolute : Bool) (names : List String) :
    Composed path documented (pathOf isAbsolute names) := by
  refine append ?_ (intercalate_closed nil append pathSep ?_)
  · split
    · exact pathSep
    · exact nil
  · intro item member
    obtain ⟨spelling, _, rfl⟩ := List.mem_map.mp member
    exact word spelling

theorem absolute (names : List String) : Composed path documented (absolute names) :=
  pathOf true names

theorem textOf (content : String) : Composed path documented (textOf content) :=
  cons rfl nil

theorem numberOf (number : Nat) : Composed path documented (numberOf number) :=
  cons rfl nil

theorem applied (composed : Composed path documented front)
    (each : ∀ item ∈ items, Composed path documented item) :
    Composed path documented (applied front items) :=
  (composed.append (cons rfl (commaSeparated each))).append (cons rfl nil)

theorem instantiated (composed : Composed path documented front)
    (each : ∀ item ∈ items, Composed path documented item) :
    Composed path documented (instantiated front items) :=
  applied (composed.append pathSep) each

theorem call (composed : Composed path documented front)
    (each : ∀ item ∈ items, Composed path documented item) :
    Composed path documented (call front items) :=
  composed.append (enclose (commaSeparated each) .paren)

theorem dot (composed : Composed path documented value) (member : String) :
    Composed path documented (dot value member) :=
  composed.append (cons rfl (name member nil))

theorem typed (spelling : String) (composed : Composed path documented type) :
    Composed path documented (typed spelling type) :=
  name spelling (cons rfl composed)

theorem referenceTo (composed : Composed path documented value) :
    Composed path documented (referenceTo value) :=
  cons rfl composed

theorem listOf (each : ∀ item ∈ items, Composed path documented item) :
    Composed path documented (listOf items) :=
  (word "vec").append (cons rfl (enclose (commaSeparated each) .bracket))

theorem block (composed : Composed path documented body) :
    Composed path documented (block body) :=
  enclose composed .brace

theorem statement (composed : Composed path documented body) :
    Composed path documented (statement body) :=
  composed.append (cons rfl nil)

theorem binding (pattern : Composed path documented front)
    (composed : Composed path documented value) : Composed path documented (binding front value) :=
  statement (((word "let").append pattern).append (cons rfl composed))

theorem attempted (composed : Composed path documented value) :
    Composed path documented (attempted value) :=
  composed.append (cons rfl nil)

theorem methodOf (spelling : String) (parameters : Composed path documented front)
    (returned : Composed path documented type) (doing : Composed path documented body) :
    Composed path documented (methodOf spelling front type body) :=
  (((((word "pub").append (word "fn")).append (name spelling (enclose parameters .paren))).append
    (cons rfl (cons rfl nil))).append returned).append (block doing)

theorem receiver : Composed path documented receiver :=
  (referenceTo (word "self")).append (cons rfl nil)

theorem thunk (composed : Composed path documented body) :
    Composed path documented (thunk body) :=
  cons rfl (cons rfl (block composed))

theorem closure (parameter : Composed path documented front)
    (composed : Composed path documented body) : Composed path documented (closure front body) :=
  (cons rfl parameter).append (cons rfl (block composed))

/-- Attributes other than documentation. -/
theorem attributeOf {spelling : String} (other : spelling ≠ "doc")
    (each : ∀ item ∈ items, Composed path documented item) :
    Composed path documented (attributeOf (Code.call (Code.word spelling) items)) :=
  allowing other (commaSeparated each)

end Composed

/-! ## 2. Documentation -/

theorem Token.isQuiet_of_isSimple {token : Token} (simple : token.isSimple = true) :
    token.isQuiet = true := by
  cases token with
  | mark symbol joint =>
    simp only [isSimple, Bool.and_eq_true, decide_eq_true_eq] at simple
    simp [isQuiet, isDoc, isMark, simple.1]
  | opening | closing | doc => cases simple
  | name | text | number | literal => rfl

theorem Token.isDoc_of_isSimple {token : Token} (simple : token.isSimple = true) :
    token.isDoc = false := by
  cases token with
  | doc => cases simple
  | name | mark | text | number | literal | opening | closing => rfl

/-- Code that is not documented holds no documentation but that in the path. -/
theorem Composed.clear (clean : holdsDoc (spellDocs path) = false)
    (composed : Composed path false tokens) : Clear tokens := by
  induction composed with
  | nil => exact .nil
  | cons simple _ ih => exact .cons (Token.isQuiet_of_isSimple simple) ih
  | append _ _ first second => exact first.append second
  | enclose _ delimiter ih => exact ih.enclose delimiter
  | runtime _ ih => exact .separated clean ih
  | allowing other _ ih => exact .attributeOf other ih
  | doc _ documented => cases documented

/-- Code that is not documented has nothing to spell but what the path has. -/
theorem Composed.spellDocs_eq (spelled : spellDocs path = path)
    (composed : Composed path false tokens) : spellDocs tokens = tokens := by
  induction composed with
  | nil => rfl
  | cons simple _ ih => rw [spellDocs_of_not_isDoc (Token.isDoc_of_isSimple simple), ih]
  | append _ _ first second => rw [spellDocs_append, first, second]
  | enclose _ delimiter ih => rw [spellDocs_enclose, ih]
  | runtime _ ih => rw [spellDocs_append, spelled, spellDocs_of_not_isDoc rfl, ih]
  | allowing _ _ ih =>
    rw [Code.attributeOf, mark, spellDocs_of_not_isDoc rfl, spellDocs_enclose,
      spellDocs_of_not_isDoc rfl, spellDocs_enclose, ih]
  | doc _ documented => cases documented

/-! ## 3. Brackets -/

theorem Token.isTame_of_isSimple {token : Token} (simple : token.isSimple = true) :
    token.isTame true = true := by
  cases token with
  | name spelling => exact Token.isTame_name spelling
  | opening | closing | doc => cases simple
  | mark | text | number | literal => rfl

/-- The brackets of the code match if those of the path do. -/
theorem Composed.matched (matched : Matched true path)
    (composed : Composed path documented tokens) : Matched true tokens := by
  induction composed with
  | nil => exact .nil
  | cons simple _ ih => exact .cons (Token.isTame_of_isSimple simple) ih
  | append _ _ first second => exact first.append second
  | enclose _ delimiter ih => exact ih.enclose delimiter
  | runtime _ ih => exact matched.append (.cons rfl ih)
  | allowing _ _ ih => exact .cons rfl (.enclose (.cons (Token.isTame_name _) (ih.enclose _)) _)
  | doc content => exact .single rfl

theorem Token.ne_quote_of_isSimple {token : Token} (simple : token.isSimple = true) :
    token ≠ .mark '\'' true := by
  rintro rfl
  cases simple

theorem whole_spellDocs_closing (front : List Token) (delimiter : Delimiter) :
    Whole (spellDocs (front ++ [.closing delimiter])) := by
  rw [spellDocs_append]
  exact (Whole.closing delimiter).behind (List.cons_ne_nil _ _) _

/-- The code does not end within a lifetime. -/
theorem Composed.whole (composed : Composed path documented tokens) : Whole (spellDocs tokens) := by
  induction composed with
  | nil => exact .nil
  | cons simple _ ih =>
    rw [spellDocs_of_not_isDoc (Token.isDoc_of_isSimple simple)]
    exact .append (.single (Token.ne_quote_of_isSimple simple)) ih
  | append _ _ first second =>
    rw [spellDocs_append]
    exact first.append second
  | @enclose inside _ delimiter _ =>
    exact whole_spellDocs_closing (.opening delimiter :: inside) delimiter
  | @runtime rest _ ih =>
    rw [spellDocs_append]
    have separator : Whole [.mark ':' true] := .single (by decide)
    exact (separator.append ih).behind (List.cons_ne_nil _ _) _
  | @allowing spelling inside _ _ _ =>
    exact whole_spellDocs_closing (mark '#' :: .opening .bracket :: .name spelling ::
      Code.enclose .paren inside) .bracket
  | doc content => exact whole_docAttribute content

end ContractBinder.Code
