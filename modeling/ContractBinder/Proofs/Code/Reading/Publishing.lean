import ContractBinder.Proofs.Code.Reading.Endings

/-!
# Where something public is read

Only visibilities take the word that makes something public. So where this word stands outside
brackets, a reader of many items comes to it as the visibility of an item, whatever it has read
before (`exists_publication`). The documentation in front of it is read as an attribute of the
same item, if no item can end with an attribute.
-/

namespace ContractBinder.Code

open Reader Grammar PathReading

/-- The attribute for documentation, if there is any. -/
def attributeFor : Option String → List Token
  | none => []
  | some content => docAttribute content

/-- Where something public starts, perhaps with documentation. -/
def publicFrom (documentation : Option String) (back : List Token) : List Token :=
  attributeFor documentation ++ .name "pub" :: back

variable {documentation : Option String} {front back rest held : List Token} {pubs : Bool}
  {before after origin : Progress} {nested : Nested}

theorem publicFrom_ne_opening {delimiter : Delimiter} :
    publicFrom documentation back ≠ .opening delimiter :: rest := by
  cases documentation <;> exact nofun

theorem atEnd_publicFrom : atEnd (publicFrom documentation back) = false := by
  cases documentation <;> rfl

/-- Tokens with matching brackets in front of something public do not end any brackets. -/
theorem atEnd_append_publicFrom (matched : Matched true front) :
    atEnd (front ++ publicFrom documentation back) = false := by
  cases front with
  | nil => exact atEnd_publicFrom
  | cons token front =>
    cases token with
    | closing delimiter => exact absurd matched Matched.not_closing
    | name | mark | text | number | literal | opening | doc => rfl

/-- The reader has not come to `back` yet: it is behind some of the tokens that were in front. -/
def Ahead (front back rest : List Token) : Prop :=
  ∃ others, others <:+ front ∧ Matched true others ∧ rest = others ++ back

/-- Brackets in front are taken as a whole. -/
theorem ahead_of_group {delimiter : Delimiter} (first : Matched true front)
    (other : ∀ inside, back ≠ .opening delimiter :: inside) (matched : Matched true held)
    (same : front ++ back = .opening delimiter :: held ++ .closing delimiter :: rest) :
    Ahead front back rest := by
  cases front with
  | nil => exact absurd same (other _)
  | cons token front =>
    obtain ⟨rfl, inside⟩ := List.cons_eq_cons.mp same
    obtain ⟨held', others, rfl, matched', behind⟩ := first.of_opening
    simp only [List.append_eq, List.append_assoc, List.cons_append] at inside
    obtain ⟨_, _, same⟩ := matched'.inside_inj matched inside
    exact ⟨others, (List.suffix_cons _ _).trans
      ((List.suffix_append _ _).trans (List.suffix_cons _ _)), behind, same.symm⟩

theorem Ahead.of_suffix {more : List Token} (ahead : Ahead front back rest)
    (suffix : front <:+ more) : Ahead more back rest := by
  obtain ⟨others, inFront, matched, same⟩ := ahead
  exact ⟨others, inFront.trans suffix, matched, same⟩

/-! ## 1. Attributes -/

/-- Another attribute, if there is one. -/
def nextAttribute (nested : Nested) : Reader Bool := do
  if ← accept (.mark "#") then
    brackets .bracket (attributeContent nested)
    return true
  else return false

theorem outerAttributes_ok {found : Bool}
    (done : outerAttributes nested before = .ok (found, after)) :
    repeatUpTo before.limit (nextAttribute nested) before = .ok ((), after) := by
  obtain ⟨_, _, looked, done⟩ := bind_ok done
  cases looked
  obtain ⟨_, between, repeated, done⟩ := bind_ok done
  cases done
  exact repeated

theorem nextAttribute_ok {goesOn : Bool} (inner : NestedKeeps nested)
    (closes : ClosesEach before.rest) (done : nextAttribute nested before = .ok (goesOn, after)) :
    (goesOn = false ∧ (Sign.mark "#").starts before.rest = false ∧ after = before) ∨
      ∃ joint held, goesOn = true ∧ Matched true held ∧ Step false before after ∧
        before.rest = .mark '#' joint :: .opening .bracket :: held ++
          .closing .bracket :: after.rest := by
  obtain ⟨found, between, one, two⟩ := bind_ok done
  cases found with
  | false =>
    obtain ⟨starts, same⟩ := accept_ok one
    rw [same rfl] at two
    cases two
    exact .inl ⟨rfl, starts.symm, rfl⟩
  | true =>
    have takes : Keeps (Step false before) (accept (.mark "#")) := .accept rfl
    have marked := takes before true between one (Step.refl closes)
    obtain ⟨starts, rfl⟩ := take_mark_ok (take_of_accept one)
    obtain ⟨joint, rest, next⟩ := exists_mark_of_startsOperatorOf starts
    obtain ⟨_, behind, read, same⟩ := bind_ok two
    cases same
    obtain ⟨held, whole, matched, step⟩ :=
      Step.brackets false (fun _ => keeps_attributeContent inner) marked.closes_rest read
    refine .inr ⟨joint, held, rfl, matched, marked.trans step, ?_⟩
    rw [next] at whole ⊢
    exact congrArg _ whole

/-- Texts are read as expressions, and their type is read as a type. -/
structure ReadsTexts (nested : Nested) : Prop where
  value : ∀ content stop rest written unread limit, stop ∈ [.closing .bracket, mark ';'] →
    ∃ form, nested.expression ⟨.text content :: stop :: rest, written, unread, limit + 1⟩ =
      .ok (form, ⟨stop :: rest, .text content :: written, unread, limit + 1⟩)
  type : ∀ rest written unread limit, ∃ form,
    nested.type ⟨mark '&' :: .name "str" :: mark '=' :: rest, written, unread, limit + 1⟩ =
      .ok (form, ⟨mark '=' :: rest, .name "str" :: mark '&' :: written, unread, limit + 1⟩)

theorem readsTexts_nestedUpTo (depth : Nat) : ReadsTexts (nestedUpTo (depth + 4)) where
  value := by
    intro content stop rest written unread limit listed
    rcases List.mem_pair.mp listed with rfl | rfl
    · exact ⟨.plain, rfl⟩
    · exact ⟨.plain, rfl⟩
  type := fun _ _ _ _ => ⟨.plain, rfl⟩

/-- Documentation is read and written as it is. -/
theorem nextAttribute_documentation (texts : ReadsTexts nested) (content : String)
    (rest written : List Token) (unread : Option Delimiter) (limit : Nat) :
    nextAttribute nested ⟨docAttribute content ++ rest, written, unread, limit + 1⟩ =
      .ok (true, ⟨rest, (docAttribute content).reverse ++ written, unread.or none, limit + 1⟩) := by
  obtain ⟨form, value⟩ := texts.value content (.closing .bracket) rest
    (mark '=' :: .name "doc" :: .opening .bracket :: mark '#' :: written) unread limit
    List.mem_cons_self
  have inside : attributeContent nested ⟨.name "doc" :: mark '=' :: .text content ::
      .closing .bracket :: rest, .opening .bracket :: mark '#' :: written, unread, limit + 1⟩ =
      .ok ((), ⟨.closing .bracket :: rest, .text content :: mark '=' :: .name "doc" ::
        .opening .bracket :: mark '#' :: written, unread, limit + 1⟩) :=
    discard_apply value
  have bracketed : brackets .bracket (attributeContent nested)
      ⟨.opening .bracket :: .name "doc" :: mark '=' :: .text content :: .closing .bracket :: rest,
        mark '#' :: written, unread, limit + 1⟩ =
      .ok ((), ⟨rest, (docAttribute content).reverse ++ written, unread.or none, limit + 1⟩) :=
    (brackets_apply rfl inside).trans rfl
  have marked : accept (.mark "#") ⟨docAttribute content ++ rest, written, unread, limit + 1⟩ =
      .ok (true, ⟨.opening .bracket :: .name "doc" :: mark '=' :: .text content ::
        .closing .bracket :: rest, mark '#' :: written, unread, limit + 1⟩) := rfl
  rw [nextAttribute, bind_apply marked, if_pos rfl, bind_apply bracketed]
  rfl

theorem repeat_nextAttribute_pub {bound : Nat} (next : before.rest = .name "pub" :: back)
    (done : repeatUpTo bound (nextAttribute nested) before = .ok ((), after)) : after = before := by
  cases bound with
  | zero =>
    cases done
    rfl
  | succ bound =>
    obtain ⟨rest, written, unread, limit⟩ := before
    subst next
    cases done
    rfl

/-- Attributes are read as long as there are any, so either something else is in front of what is
public, or its documentation was read and written. -/
theorem attributes_ahead (inner : NestedKeeps nested) (texts : ReadsTexts nested) {bound : Nat}
    (closes : ClosesEach before.rest) (enough : before.rest.length < bound)
    (more : 0 < before.limit) (first : Matched true front)
    (next : before.rest = front ++ publicFrom documentation back)
    (done : repeatUpTo bound (nextAttribute nested) before = .ok ((), after)) :
    (Ahead front (publicFrom documentation back) after.rest ∧
      after.rest ≠ publicFrom documentation back) ∨
      after.rest = .name "pub" :: back ∧
        (attributeFor documentation).reverse <+: after.written := by
  induction bound generalizing before front with
  | zero => omega
  | succ bound ih =>
    rcases repeatUpTo_ok done with stopped | ⟨between, read, done⟩
    · rcases nextAttribute_ok inner closes stopped with ⟨_, none, rfl⟩ | ⟨_, _, no, _⟩
      · cases front with
        | nil =>
          cases documentation with
          | none => exact .inr ⟨next, List.nil_prefix⟩
          | some content =>
            rw [next] at none
            cases none
        | cons token front =>
          refine .inl ⟨⟨_, List.suffix_refl _, first, next⟩, fun same => ?_⟩
          have length := congrArg List.length (same.symm.trans next)
          simp only [List.length_append, List.length_cons] at length
          omega
      · cases no
    · rcases nextAttribute_ok inner closes read with
        ⟨no, _⟩ | ⟨joint, held, _, matched, step, whole⟩
      · cases no
      · have shorter : between.rest.length < bound := by
          have length := congrArg List.length whole
          simp only [List.length_append, List.length_cons] at length
          omega
        cases front with
        | nil =>
          cases documentation with
          | none => cases next.symm.trans whole
          | some content =>
            obtain ⟨_, written, unread, limit⟩ := before
            obtain ⟨limit, rfl⟩ := Nat.exists_eq_succ_of_ne_zero (Nat.ne_of_gt more)
            subst next
            have documented := nextAttribute_documentation texts content (.name "pub" :: back)
              written unread limit
            cases documented.symm.trans read
            cases repeat_nextAttribute_pub rfl done
            exact .inr ⟨rfl, List.prefix_append _ _⟩
        | cons token front =>
          obtain ⟨rfl, behind⟩ := List.cons_eq_cons.mp (next.symm.trans whole)
          have others := Matched.of_cons rfl first
          obtain ⟨others, suffix, matched, ahead⟩ :=
            ahead_of_group others (fun _ => publicFrom_ne_opening) matched behind
          have rest := ih step.closes_rest shorter (step.limit ▸ more) matched ahead done
          exact rest.imp_left fun ⟨ahead, other⟩ =>
            ⟨ahead.of_suffix (suffix.trans (List.suffix_cons _ _)), other⟩

/-! ## 2. Names -/

section

variable {name : String} {written : List Token} {unread : Option Delimiter} {limit : Nat}

/-- A reserved word is not taken as a name. -/
theorem take_name_ok
    (done : take .name ⟨.name name :: rest, written, unread, limit⟩ = .ok ((), after)) :
    after = ⟨rest, .name name :: written, unread, limit⟩ := by
  cases reserved : isReserved name with
  | true =>
    have refused : readName ⟨.name name :: rest, written, unread, limit⟩ =
        .error (.reservedName name) := by
      rw [readName, bind_apply rfl]
      simp only [reserved, if_true]
      rfl
    rw [take_name_eq] at done
    obtain ⟨_, _, read, _⟩ := bind_ok done
    cases refused.symm.trans read
  | false =>
    cases (take_name reserved).symm.trans done
    rfl

end

/-! ## 3. Visibilities -/

theorem accept_word_ok {spelling : String}
    (done : accept (.word spelling) before = .ok (true, after)) :
    ∃ rest, before.rest = .name spelling :: rest ∧
      after = ⟨rest, .name spelling :: before.written, before.unread, before.limit⟩ := by
  have starts := (accept_ok done).1.symm
  obtain ⟨rest, next⟩ := starts_word_iff.mp starts
  have took : take (.word spelling) before =
      .ok ((), ⟨rest, .name spelling :: before.written, before.unread, before.limit⟩) := by
    obtain ⟨_, written, unread, limit⟩ := before
    subst next
    rw [take, bind_apply rfl]
    simp only [starts, if_true]
    rfl
  cases took.symm.trans (take_of_accept done)
  exact ⟨rest, next, rfl⟩

theorem visibility_ok (closes : ClosesEach before.rest)
    (done : visibility before = .ok ((), after)) :
    after = before ∨ ∃ rest, before.rest = .name "pub" :: rest ∧ (after.rest = rest ∨
      ∃ held, Matched true held ∧
        rest = .opening .paren :: held ++ .closing .paren :: after.rest) := by
  obtain ⟨visible, between, one, two⟩ := bind_ok done
  cases visible with
  | false =>
    rw [(accept_ok one).2 rfl] at two
    cases two
    exact .inl rfl
  | true =>
    obtain ⟨rest, next, rfl⟩ := accept_word_ok one
    refine .inr ⟨rest, next, ?_⟩
    have behind : ClosesEach rest := closes.of_suffix ⟨[.name "pub"], next.symm⟩
    have bracketed {body : Reader Unit} (keeps : ∀ here, Keeps (Step true here) body)
        (read : brackets .paren body
          ⟨rest, .name "pub" :: before.written, before.unread, before.limit⟩ = .ok ((), after)) :
        ∃ held, Matched true held ∧
          rest = .opening .paren :: held ++ .closing .paren :: after.rest := by
      obtain ⟨held, whole, matched, _⟩ := Step.brackets true keeps behind read
      exact ⟨held, matched, whole⟩
    obtain ⟨_, _, looked, two⟩ := bind_ok two
    cases looked
    split at two
    · obtain ⟨_, _, looked, two⟩ := bind_ok two
      cases looked
      dsimp only at two
      split at two
      · split at two
        · exact .inr (bracketed (fun _ => .take rfl) two)
        · cases two
          exact .inl rfl
      · split at two
        · exact .inr (bracketed (fun _ => .bind (.take rfl) fun _ => keeps_modulePath) two)
        · cases two
          exact .inl rfl
    · cases two
      exact .inl rfl

theorem visibility_ahead (closes : ClosesEach before.rest) (first : Matched true front)
    (other : before.rest ≠ publicFrom documentation back)
    (next : before.rest = front ++ publicFrom documentation back)
    (done : visibility before = .ok ((), after)) :
    Ahead front (publicFrom documentation back) after.rest := by
  rcases visibility_ok closes done with rfl | ⟨rest, visible, taken⟩
  · exact ⟨front, List.suffix_refl _, first, next⟩
  · cases front with
    | nil => exact absurd next other
    | cons token front =>
      obtain ⟨rfl, behind⟩ := List.cons_eq_cons.mp (next.symm.trans visible)
      have others := Matched.of_cons (Token.isTame_name _) first
      rcases taken with same | ⟨held, matched, group⟩
      · exact ⟨front, List.suffix_cons _ _, others, same.trans behind.symm⟩
      · exact (ahead_of_group others (fun _ => publicFrom_ne_opening) matched
          (behind.trans group)).of_suffix (List.suffix_cons _ _)

/-! ## 4. Whole items -/

theorem matched_docAttribute (content : String) : Matched pubs (docAttribute content) :=
  .cons rfl (.enclose (.cons rfl (.cons rfl (.single rfl))) _)

theorem not_matched_pub : ¬Matched false (.name "pub" :: rest) := by
  intro matched
  cases matched with
  | cons tame => cases tame

/-- Nothing that ends as members do, and leaves alone the word that makes something public, ends
behind the beginning of something public. -/
theorem not_passed {more : List Token} (matched : Matched false more) (nonempty : more ≠ [])
    (same : publicFrom documentation back = more ++ rest)
    (final : documentation.isSome = true → ∃ token ∈ more, token.isFinal = true) : False := by
  cases documentation with
  | none =>
    cases more with
    | nil => exact nonempty rfl
    | cons token more =>
      obtain ⟨rfl, _⟩ := List.cons_eq_cons.mp same
      exact not_matched_pub matched
  | some content =>
    cases matched.splits (matched_docAttribute content) same.symm with
    | within others inside =>
      obtain ⟨token, member, isFinal⟩ := final rfl
      have member : token ∈ docAttribute content := inside ▸ List.mem_append_left _ member
      have none : (docAttribute content).all (!·.isFinal) = true := rfl
      have notFinal := List.all_eq_true.mp none token member
      rw [isFinal] at notFinal
      cases notFinal
    | beyond further _ behind nonempty matched =>
      cases further with
      | nil => exact nonempty rfl
      | cons token further =>
        obtain ⟨rfl, _⟩ := List.cons_eq_cons.mp behind
        exact not_matched_pub (matched (whole_docAttribute content))

/-- Something was read as public from `there` on, with its attributes from `here` on. -/
structure Publication (nested : Nested) (behind : Progress → Bool → Reader Unit)
    (documentation : Option String) (back : List Token) (here there after : Progress) : Prop where
  origin : ∃ front, here.rest = front ++ publicFrom documentation back
  step : Step false here there
  next : there.rest = .name "pub" :: back
  documented : (attributeFor documentation).reverse <+: there.written
  read : (do visibility; behind here true) there = .ok ((), after)

theorem Publication.reads {behind : Progress → Bool → Reader Unit} {here there : Progress}
    (keeps : KeepsBehind behind)
    (publication : Publication nested behind documentation back here there after) :
    Step true here after := by
  have reads : Keeps (Step true here) (do visibility; behind here true) :=
    .bind keeps_visibility fun _ => keeps Step.lasting .copySince
  exact reads there () after publication.read publication.step.weaken

section

variable {behind : Progress → Bool → Reader Unit} (inner : NestedKeeps nested)
  (texts : ReadsTexts nested) (keeps : KeepsBehind behind)
  (finishes : documentation.isSome = true → Finishes (publishable nested behind))

include inner texts keeps finishes

/-- An item comes to what is public as its visibility, or not at all. -/
theorem publishable_ahead (closes : ClosesEach before.rest)
    (enough : before.rest.length < before.limit) (first : Matched true front) (whole : Whole front)
    (next : before.rest = front ++ publicFrom documentation back)
    (done : publishable nested behind before = .ok ((), after)) :
    Ahead front (publicFrom documentation back) after.rest ∨
      ∃ there, Publication nested behind documentation back before there after := by
  have ended := finishes
  obtain ⟨_, _, looked, read⟩ := bind_ok done
  cases looked
  obtain ⟨_, there, attributes, read⟩ := bind_ok read
  obtain ⟨found, attributes⟩ := discard_ok attributes
  obtain ⟨visible, _, looked, read⟩ := bind_ok read
  cases looked
  have step : Step false before there :=
    keeps_outerAttributes inner before found there attributes (Step.refl closes)
  rcases attributes_ahead inner texts closes enough (by omega) first next
      (outerAttributes_ok attributes) with
    ⟨⟨others, suffix, matched, ahead⟩, other⟩ | ⟨published, documented⟩
  · left
    obtain ⟨_, between, seen, read⟩ := bind_ok read
    obtain ⟨others, suffix', matched, ahead⟩ :=
      visibility_ahead step.closes_rest matched other ahead seen
    have visibleStep := keeps_visibility there () between seen (Step.refl step.closes_rest)
    have took : Took false between after := keeps Took.lasting Keeps.tookCopySince between () after
      read (Took.refl visibleStep.closes_rest)
    obtain ⟨taken, tame, same⟩ := took.taken
    cases tame.splits matched (same.symm.trans ahead) with
    | within others' inOthers rest matched =>
      have behindOthers : others' <:+ others := inOthers ▸ List.suffix_append _ _
      exact ⟨others', behindOthers.trans (suffix'.trans suffix), matched, rest⟩
    | beyond more _ rest nonempty matched =>
      have wholeOthers := whole.of_suffix (suffix'.trans suffix)
      refine (not_passed (matched wholeOthers) nonempty rest fun documented => ?_).elim
      obtain ⟨_, token, ended, isFinal⟩ := finishes documented before () after closes done
      refine ⟨token, ?_, isFinal⟩
      rw [next, rest, ← List.append_assoc, List.append_cons] at ended
      have last := congrArg List.getLast? (List.append_cancel_right ended)
      rw [List.getLast?_concat, List.getLast?_append_of_ne_nil _ nonempty] at last
      exact List.mem_of_getLast? last
  · refine .inr ⟨there, ⟨front, next⟩, step, published, documented, ?_⟩
    rw [published] at read
    exact read

/-- A reader of many items comes to what is public, and reads on behind it. -/
theorem exists_publication {bound : Nat} {final : Progress} (closes : ClosesEach before.rest)
    (enough : before.rest.length < before.limit) (first : Matched true front) (whole : Whole front)
    (next : before.rest = front ++ publicFrom documentation back)
    (done : repeatUpTo bound (untilEnd (publishable nested behind)) before = .ok ((), final))
    (ended : atEnd final.rest = true) :
    ∃ here there after remaining, Step true before here ∧
      Publication nested behind documentation back here there after ∧
      repeatUpTo remaining (untilEnd (publishable nested behind)) after = .ok ((), final) := by
  have goesOn : atEnd before.rest = false := next ▸ atEnd_append_publicFrom first
  induction bound generalizing before front with
  | zero =>
    cases done
    rw [goesOn] at ended
    cases ended
  | succ bound ih =>
    rcases repeatUpTo_ok done with stopped | ⟨between, again, done⟩
    · rcases untilEnd_ok stopped with ⟨_, stops, _⟩ | ⟨no, _⟩
      · rw [goesOn] at stops
        cases stops
      · cases no
    · rcases untilEnd_ok again with ⟨no, _⟩ | ⟨_, _, read⟩
      · cases no
      rcases publishable_ahead inner texts keeps finishes closes enough first whole next read with
        ⟨others, suffix, matched, ahead⟩ | ⟨there, publication⟩
      · have step := keeps_publishable inner keeps before () between read (Step.refl closes)
        obtain ⟨here, there, after, remaining, later, publication, rest⟩ :=
          ih step.closes_rest (step.length_lt_limit enough) matched (whole.of_suffix suffix) ahead
            done (ahead ▸ atEnd_append_publicFrom matched)
        exact ⟨here, there, after, remaining, step.trans later, publication, rest⟩
      · exact ⟨before, there, between, bound, Step.refl closes, publication, done⟩

end

/-! ## 5. Documented methods -/

/-- A documented method up to its name. -/
def documentedMethod (content name : String) : List Token :=
  docAttribute content ++ [.name "pub", .name "fn", .name name]

/-- The reader is behind `there`, and the beginning is written. -/
structure Begun (beginning : List Token) (there progress : Progress) : Prop where
  took : Took true there progress
  wrote : beginning <:+: progress.written.reverse

variable {beginning : List Token} {here there : Progress}

theorem Begun.lasting : Lasting true (Begun beginning there) where
  closes := fun begun => begun.took.closes_rest
  step := by
    intro before after begun step
    exact ⟨begun.took.trans step.toTook, begun.wrote.trans step.written_prefix.isInfix⟩

/-- An item that is written as it is spelled has its beginning, too. -/
theorem Begun.keeps_copySince (origin : here.rest = front ++ beginning ++ there.rest) :
    Keeps (Begun beginning there) (copySince here) := by
  intro before result after done begun
  cases done
  obtain ⟨taken, matched, whole⟩ := begun.took.taken
  refine ⟨⟨begun.took.closes, ⟨taken, matched, whole⟩, begun.took.limit⟩, ?_⟩
  have length : here.rest.length - before.rest.length = (front ++ beginning ++ taken).length := by
    rw [origin, whole, ← List.append_assoc, List.length_append, Nat.add_sub_cancel]
  show beginning <:+: ((here.rest.take _).reverse ++ here.written).reverse
  rw [length, origin, whole, ← List.append_assoc, List.take_left, List.reverse_append,
    List.reverse_reverse]
  exact ⟨here.written.reverse ++ front, taken, by simp⟩

/-- A documented method is written with its documentation, whether or not it is written as it is
spelled. -/
theorem Publication.method_infix {behind : Progress → Bool → Reader Unit} {content name : String}
    (inner : NestedKeeps nested) (members : BehindMembers nested behind)
    (publication : Publication nested behind (some content) (.name "fn" :: .name name :: rest) here
      there after) : documentedMethod content name <:+: after.written.reverse := by
  obtain ⟨⟨front, origin⟩, step, next, ⟨earlier, documented⟩, read⟩ := publication
  have closes := step.closes_rest
  obtain ⟨_, written, unread, limit⟩ := there
  subst next
  obtain rfl : (docAttribute content).reverse ++ earlier = written := documented
  let named : Progress := ⟨rest, .name name :: .name "fn" :: .name "pub" ::
    ((docAttribute content).reverse ++ earlier), unread, limit⟩
  have begun : Begun (documentedMethod content name) named named := by
    refine ⟨Took.refl (closes.of_suffix ⟨[.name "pub", .name "fn", .name name], rfl⟩),
      ⟨earlier.reverse, [], ?_⟩⟩
    simp [named, documentedMethod]
  have spelled : here.rest = front ++ documentedMethod content name ++ named.rest := by
    rw [origin, publicFrom, documentedMethod]
    simp [named, attributeFor]
  have copies : Keeps (Begun (documentedMethod content name) named) (copySince here) :=
    .keeps_copySince spelled
  have seen : visibility ⟨.name "pub" :: .name "fn" :: .name name :: rest,
      (docAttribute content).reverse ++ earlier, unread, limit⟩ =
      .ok ((), ⟨.name "fn" :: .name name :: rest,
        .name "pub" :: ((docAttribute content).reverse ++ earlier), unread, limit⟩) := rfl
  rw [bind_apply seen, members.function] at read
  obtain ⟨_, between, signed, ended⟩ := bind_ok read
  obtain ⟨_, _, unqualified, signed⟩ := bind_ok signed
  cases unqualified
  obtain ⟨_, _, word, signed⟩ := bind_ok signed
  cases word
  obtain ⟨_, _, taken, signed⟩ := bind_ok signed
  cases take_name_ok taken
  have behindName : Begun (documentedMethod content name) named between :=
    Keeps.lift Begun.lasting (fun _ => keeps_behindName inner) named () between signed begun
  exact (keeps_functionBody inner Begun.lasting copies between () after ended behindName).wrote

end ContractBinder.Code
