import ContractBinder.Code.Phrase
import ContractBinder.Proofs.Code.Reading.Publishing

/-!
# How the items of generated modules are read

A reader of a module comes to whatever is public outside brackets as an item of its own
(`exists_publication_of_readModule`). A record with named fields ends with its braces, so an
implementation behind it is read as one, and what is in its braces as members.

Results:

1. `constant_infix_of_readModule`: public constants that hold texts are written as they are.
2. `method_infix_of_readModule`: documented methods are written with their documentation.
3. `matched_of_readModule`: what is written has matching brackets.
-/

namespace ContractBinder.Code

open Reader Grammar PathReading

variable {nested : Nested} {pubs : Bool} {origin before after : Progress} {name : String}
  {rest written : List Token} {unread : Option Delimiter} {limit : Nat}

/-! ## 1. Constants -/

/-- A constant that holds a text, without its visibility. -/
def textConstant (name content : String) : List Token :=
  [.name "const", .name name, mark ':', mark '&', .name "str", mark '=', .text content, mark ';']

theorem takeAny_name {others : List Sign} (free : isReserved name = false) :
    takeAny (.name :: others) ⟨.name name :: rest, written, unread, limit⟩ =
      .ok ((), ⟨rest, .name name :: written, unread, limit⟩) := by
  have found : (Sign.name :: others).find? (·.starts (.name name :: rest)) = some .name := by
    simp [Sign.starts, free]
  have accepted : acceptAny (.name :: others) ⟨.name name :: rest, written, unread, limit⟩ =
      .ok (true, ⟨rest, .name name :: written, unread, limit⟩) := by
    rw [acceptAny, bind_apply rfl]
    simp only [found]
    rw [bind_apply (take_name free)]
    rfl
  rw [takeAny, bind_apply accepted]
  rfl

/-- A constant that holds a text is written as it is. -/
theorem constant_text (texts : ReadsTexts nested) (free : isReserved name = false)
    (content : String) :
    constant nested origin true ⟨textConstant name content ++ rest, written, unread, limit + 1⟩ =
      .ok ((), ⟨rest, (textConstant name content).reverse ++ written, unread, limit + 1⟩) := by
  let behindName : Progress := ⟨mark ':' :: mark '&' :: .name "str" :: mark '=' :: .text content ::
    mark ';' :: rest, .name name :: .name "const" :: written, unread, limit + 1⟩
  obtain ⟨_, type⟩ := texts.type (.text content :: mark ';' :: rest)
    (mark ':' :: behindName.written) unread limit
  obtain ⟨_, value⟩ := texts.value content (mark ';') rest
    (mark '=' :: .name "str" :: mark '&' :: mark ':' :: behindName.written) unread limit
    (List.mem_cons_of_mem _ List.mem_cons_self)
  have word : take (.word "const")
      ⟨textConstant name content ++ rest, written, unread, limit + 1⟩ =
      .ok ((), ⟨.name name :: behindName.rest, .name "const" :: written, unread, limit + 1⟩) := rfl
  have none : parameters nested behindName = .ok ((), behindName) := rfl
  have colon : take (.mark ":") behindName = .ok ((), ⟨mark '&' :: .name "str" :: mark '=' ::
    .text content :: mark ';' :: rest, mark ':' :: behindName.written, unread, limit + 1⟩) := rfl
  rw [constant, bind_apply word, bind_apply (takeAny_name free)]
  refine (bind_apply (comes_apply _ behindName)).trans ?_
  rw [bind_apply none, bind_apply colon, bind_apply (discard_apply type)]
  refine (bind_apply rfl).trans ?_
  rw [if_pos rfl]
  exact (bind_apply (discard_apply value)).trans rfl

/-- A public constant that holds a text is written as it is. -/
theorem Publication.constant_infix {behind : Progress → Bool → Reader Unit} {here there : Progress}
    {documentation : Option String} {content : String} (items : BehindItems nested behind)
    (texts : ReadsTexts nested) (free : isReserved name = false) (more : 0 < there.limit)
    (publication : Publication nested behind documentation (textConstant name content ++ rest) here
      there after) :
    .name "pub" :: textConstant name content <:+: after.written.reverse := by
  obtain ⟨_, _, next, _, read⟩ := publication
  obtain ⟨_, written, unread, limit⟩ := there
  obtain ⟨limit, rfl⟩ := Nat.exists_eq_succ_of_ne_zero (Nat.ne_of_gt more)
  subst next
  have seen : visibility
      ⟨.name "pub" :: (textConstant name content ++ rest), written, unread, limit + 1⟩ = .ok ((),
        ⟨textConstant name content ++ rest, .name "pub" :: written, unread, limit + 1⟩) := rfl
  rw [Nat.succ_eq_add_one, bind_apply seen, items.constant _ _ _ _ _ free rfl,
    constant_text texts free] at read
  cases read
  exact ⟨written.reverse, [], by simp⟩

/-! ## 2. Records -/

/-- A record with named fields ends with its braces. -/
theorem record_ok {held : List Token} (inner : NestedKeeps nested) (closes : ClosesEach before.rest)
    (matched : Matched true held)
    (next : before.rest = .name "struct" :: .name name :: .opening .brace :: held ++
      .closing .brace :: rest)
    (done : record nested before = .ok ((), after)) : after.rest = rest := by
  obtain ⟨_, written, unread, limit⟩ := before
  subst next
  let behindName : Progress := ⟨.opening .brace :: held ++ .closing .brace :: rest,
    .name name :: .name "struct" :: written, unread, limit⟩
  have word : take (.word "struct") ⟨.name "struct" :: .name name :: .opening .brace :: held ++
      .closing .brace :: rest, written, unread, limit⟩ =
      .ok ((), ⟨.name name :: behindName.rest, .name "struct" :: written, unread, limit⟩) := rfl
  rw [record, bind_apply word] at done
  obtain ⟨_, _, named, done⟩ := bind_ok done
  cases take_name_ok named
  change namedFields nested behindName = .ok ((), after) at done
  have behind : ClosesEach behindName.rest :=
    closes.of_suffix ⟨[.name "struct", .name name], rfl⟩
  obtain ⟨held', whole, matched', _⟩ := Step.brackets true
    (fun _ => .commaItemsInside (keeps_fieldItem inner true)) behind done
  obtain ⟨_, same⟩ := List.cons_eq_cons.mp whole
  exact (matched.inside_inj matched' same).2.2.symm

theorem Publication.record_rest {behind : Progress → Bool → Reader Unit} {here there : Progress}
    {documentation : Option String} {held : List Token} (inner : NestedKeeps nested)
    (items : BehindItems nested behind) (matched : Matched true held)
    (publication : Publication nested behind documentation (.name "struct" :: .name name ::
      .opening .brace :: held ++ .closing .brace :: rest) here there after) :
    after.rest = rest := by
  obtain ⟨_, step, next, _, read⟩ := publication
  have closes := step.closes_rest
  obtain ⟨_, written, unread, limit⟩ := there
  subst next
  have seen : visibility ⟨.name "pub" :: (.name "struct" :: .name name :: .opening .brace :: held ++
      .closing .brace :: rest), written, unread, limit⟩ =
      .ok ((), ⟨.name "struct" :: .name name :: .opening .brace :: held ++ .closing .brace :: rest,
        .name "pub" :: written, unread, limit⟩) := rfl
  rw [bind_apply seen, items.record _ _ _ _ rfl] at read
  exact record_ok inner (closes.of_suffix ⟨[.name "pub"], rfl⟩) matched rfl read

/-! ## 3. Implementations -/

/-- The reader comes to `core`, and behind that it goes nowhere. -/
def Passes (core : Reader Unit) (origin : Progress) {α : Type} (reader : Reader α) : Prop :=
  ∀ before result after, ClosesEach before.rest → reader before = .ok (result, after) →
    ∃ between behind, Step true before between ∧ core between = .ok ((), behind) ∧
      (after = behind ∨ copySince origin behind = .ok ((), after))

namespace Passes

variable {core : Reader Unit} {α β : Type} {reader first second : Reader α} {next : α → Reader β}

theorem bind (keeps : ∀ here, Keeps (Step true here) reader)
    (later : ∀ value, Passes core origin (next value)) : Passes core origin (reader >>= next) := by
  intro before result after closes done
  obtain ⟨value, middle, one, two⟩ := bind_ok done
  have step := keeps before before value middle one (Step.refl closes)
  obtain ⟨between, behind, more, read, ended⟩ :=
    later value middle result after step.closes_rest two
  exact ⟨between, behind, step.trans more, read, ended⟩

theorem ite {condition : Prop} [Decidable condition] (yes : Passes core origin first)
    (no : Passes core origin second) :
    Passes core origin (if condition then first else second) := by
  split
  · exact yes
  · exact no

/-- A part that is read on a condition only. -/
theorem optional {condition : Prop} [Decidable condition] {part : Reader Unit}
    {next : Unit → Reader β} (keeps : ∀ here, Keeps (Step true here) part)
    (later : ∀ value, Passes core origin (next value)) :
    Passes core origin (if condition then part >>= next else next ()) :=
  ite (bind keeps later) (later ())

theorem forbidFirst (restriction : Restriction) {next : α → Reader β} :
    Passes core origin (forbid restriction >>= next) := by
  intro before result after _ done
  obtain ⟨_, _, fails, _⟩ := bind_ok done
  cases fails

theorem ended (copied : Bool) : Passes core origin (do core; if copied then copySince origin) := by
  intro before result after closes done
  obtain ⟨_, behind, read, done⟩ := bind_ok done
  refine ⟨before, behind, Step.refl closes, read, ?_⟩
  split at done
  · exact .inr done
  · cases done
    exact .inl rfl

end Passes

/-- An implementation comes to its members. -/
theorem passes_implementation (inner : NestedKeeps nested) :
    Passes (membersInside nested (implementationMember nested)) origin
      (implementation nested origin) := by
  have held (form : Form) (special ofTrait : Bool) :
      Passes (membersInside nested (implementationMember nested)) origin (do
        requirements nested
        membersInside nested (implementationMember nested)
        let named := form = .nameType || form = .pathType
        if special || ofTrait && !named then copySince origin) :=
    .bind (fun _ => keeps_requirements inner) fun _ => .ended _
  exact .bind (fun _ => .discard (.accept rfl)) fun _ => .bind (fun _ => .discard (.accept rfl))
    fun _ => .bind (fun _ => .take rfl) fun _ => .bind (fun _ => keeps_comesParameters) fun _ =>
    .optional (fun _ => keeps_parameters inner) fun _ => .bind (fun _ => .comes _) fun _ =>
    .bind (fun _ => .comesSecond _) fun _ => .bind (fun _ => .comes _) fun _ =>
    .optional (fun _ => .take rfl) fun _ => .optional (fun _ => .take rfl) fun _ =>
    .bind (fun _ => .comes _) fun _ => .bind (fun _ => .comesSecond _) fun _ =>
    .optional (fun _ => .take rfl) fun _ => .bind (fun _ => inner.type) fun form =>
    .bind (fun _ => .accept rfl) fun _ =>
    .ite (.bind (fun _ => inner.type.discard) fun _ => held _ _ _) <|
    .ite (.forbidFirst _) (held _ _ _)

/-- Members are read up to the end of their braces. -/
theorem membersInside_rest {held : List Token} (inner : NestedKeeps nested)
    (closes : ClosesEach before.rest) (matched : Matched true held)
    (next : before.rest = enclose .brace held)
    (done : membersInside nested (implementationMember nested) before = .ok ((), after)) :
    after.rest = [] := by
  have members {here : Progress} : Keeps (Step true here) (do
      innerAttributes nested
      repeatWhile (untilEnd (implementationMember nested))) :=
    .bind (keeps_innerAttributes inner) fun _ =>
      .repeatWhile (.untilEnd (keeps_implementationMember inner))
  obtain ⟨held', opens, matched', _⟩ := Step.brackets true (fun _ => members) closes done
  obtain ⟨_, tokens⟩ := List.cons_eq_cons.mp (next.symm.trans opens)
  exact (matched.inside_inj matched' tokens).2.2.symm

/-- The members of an implementation of a type's name are in the braces behind that name, if nothing
follows them. -/
theorem implementation_ok {held : List Token} (inner : NestedKeeps nested)
    (closes : ClosesEach before.rest) (matched : Matched true held)
    (next : before.rest = .name "impl" :: .name name :: enclose .brace held)
    (done : implementation nested origin before = .ok ((), after)) :
    ∃ between behind, Step true before between ∧ between.rest = enclose .brace held ∧
      membersInside nested (implementationMember nested) between = .ok ((), behind) ∧
      (after = behind ∨ copySince origin behind = .ok ((), after)) := by
  obtain ⟨between, behind, step, read, ended⟩ :=
    passes_implementation inner before () after closes done
  refine ⟨between, behind, step, ?_, read, ended⟩
  obtain ⟨inside, _, opens, _, _⟩ := brackets_ok read
  obtain ⟨taken, tame, same⟩ := step.taken
  have head : Matched true [.name "impl", .name name] :=
    .cons rfl (.single (Token.isTame_name name))
  cases tame.splits head (same.symm.trans next) with
  | within others inHead rest =>
    cases others with
    | nil => exact rest
    | cons token others =>
      rw [opens] at rest
      obtain ⟨rfl, _⟩ := List.cons_eq_cons.mp rest
      have member : Token.opening .brace ∈ [.name "impl", .name name] :=
        inHead ▸ List.mem_append_right _ List.mem_cons_self
      simp at member
  | beyond more _ rest nonempty matchedMore =>
    cases more with
    | nil => exact absurd rfl nonempty
    | cons token more =>
      obtain ⟨rfl, inside⟩ := List.cons_eq_cons.mp rest
      have whole : Whole [.name "impl", .name name] := by simp [Whole, List.suffix_cons_iff]
      obtain ⟨held', others, rfl, matched', _⟩ := (matchedMore whole).of_opening
      simp only [List.append_eq, List.append_assoc, List.cons_append] at inside
      have none := (matched.inside_inj matched' inside).2.2
      rw [opens] at none
      simp at none

theorem implementation_rest {held : List Token} (inner : NestedKeeps nested)
    (closes : ClosesEach before.rest) (matched : Matched true held)
    (next : before.rest = .name "impl" :: .name name :: enclose .brace held)
    (done : implementation nested origin before = .ok ((), after)) : after.rest = [] := by
  obtain ⟨between, behind, step, opens, read, ended⟩ :=
    implementation_ok inner closes matched next done
  have rest := membersInside_rest inner step.closes_rest matched opens read
  rcases ended with rfl | copied
  · exact rest
  · cases copied
    exact rest

theorem not_starts_hash_of_head? {spelling : String} {tokens others : List Token}
    (begins : tokens.head? = some (.name spelling)) :
    (Sign.mark "#").starts (tokens ++ others) = false := by
  obtain ⟨rest, rfl⟩ := List.head?_eq_some_iff.mp begins
  rfl

section

variable {held front back : List Token} {content method : String} (inner : NestedKeeps nested)
  (texts : ReadsTexts nested) (first : Matched true front) (whole : Whole front)
  (begins : held.head? = some (.name "pub"))
  (inside : held = front ++ documentedMethod content method ++ back) (matched : Matched true held)

include inner texts first whole begins inside matched

omit matched in
/-- Every documented method of an implementation is written with its documentation, if nothing is
left over inside the braces. -/
theorem membersInside_documents (closes : ClosesEach before.rest)
    (enough : before.rest.length < before.limit) (next : before.rest = enclose .brace held)
    (done : membersInside nested (implementationMember nested) before = .ok ((), after))
    (complete : after.unread = none) :
    documentedMethod content method <:+: after.written.reverse := by
  obtain ⟨behind, members⟩ := exists_behindMembers inner
  obtain ⟨opened, final, opens, read, rfl⟩ := brackets_ok done
  obtain ⟨_, rfl⟩ := List.cons_eq_cons.mp (opens.symm.trans next)
  obtain ⟨_, start, attributes, read⟩ := bind_ok read
  have unmarked : (Sign.mark "#").starts (held ++ [.closing .brace]) = false :=
    not_starts_hash_of_head? begins
  cases (innerAttributes_none (Bool.and_eq_false_imp.mpr fun marked =>
    absurd marked (Bool.eq_false_iff.mp unmarked))).symm.trans attributes
  obtain ⟨_, _, looked, run⟩ := bind_ok read
  cases looked
  have closesInside := Step.opened closes next
  have enoughInside : (held ++ [Token.closing .brace]).length < before.limit := by
    rw [opens, List.length_cons] at enough
    exact Nat.lt_of_succ_lt enough
  have ended : atEnd final.rest = true := by
    by_contra noEnd
    simp [Progress.closed, noEnd] at complete
  have reached : (before.opened .brace (held ++ [.closing .brace])).rest =
      front ++ publicFrom (some content)
        (.name "fn" :: .name method :: (back ++ [.closing .brace])) := by
    show held ++ _ = _
    rw [inside, List.append_assoc, List.append_assoc]
    rfl
  rw [members.member] at run
  obtain ⟨here, there, after, remaining, step, publication, rest⟩ :=
    exists_publication inner texts members.keeps
      (fun _ => members.member ▸ finishes_implementationMember inner) closesInside enoughInside
      first whole reached run ended
  have later : Step true after final :=
    Keeps.repeatUpTo (.untilEnd (keeps_publishable inner members.keeps)) remaining after () final
      rest (Step.refl (publication.reads members.keeps).closes_rest)
  have documented := (publication.method_infix inner members).trans later.written_prefix.isInfix
  show documentedMethod content method <:+: (.closing .brace :: final.written).reverse
  rw [List.reverse_cons]
  exact documented.trans (List.prefix_append _ _).isInfix

/-- So is every documented method of an implementation that is written as it is spelled. -/
theorem implementation_documents (closes : ClosesEach before.rest)
    (enough : before.rest.length < before.limit) (suffix : before.rest <:+ origin.rest)
    (next : before.rest = .name "impl" :: .name name :: enclose .brace held)
    (done : implementation nested origin before = .ok ((), after))
    (complete : after.unread = none) :
    documentedMethod content method <:+: after.written.reverse := by
  obtain ⟨between, behind, step, opens, read, ended⟩ :=
    implementation_ok inner closes matched next done
  have documented (complete : behind.unread = none) :=
    membersInside_documents inner texts first whole begins inside step.closes_rest
      (step.length_lt_limit enough) opens read complete
  rcases ended with rfl | copied
  · exact documented complete
  · cases copied
    have none := membersInside_rest inner step.closes_rest matched opens read
    show documentedMethod content method <:+:
      ((origin.rest.take (origin.rest.length - behind.rest.length)).reverse ++
        origin.written).reverse
    rw [none, List.length_nil, Nat.sub_zero, List.take_length, List.reverse_append,
      List.reverse_reverse]
    have inHeld : documentedMethod content method <:+: held := inside ▸ List.infix_append _ _ _
    have inBefore : held <:+: before.rest := by
      rw [next]
      exact List.infix_append [.name "impl", .name name, .opening .brace] held [.closing .brace]
    exact ((inHeld.trans inBefore).trans suffix.isInfix).trans (List.suffix_append _ _).isInfix

end

/-- One attribute is read if something else is behind it. -/
theorem outerAttributes_single {held : List Token} {found joint : Bool} (inner : NestedKeeps nested)
    (closes : ClosesEach before.rest) (enough : 1 < before.limit) (matched : Matched true held)
    (other : (Sign.mark "#").starts rest = false)
    (next : before.rest = .mark '#' joint :: enclose .bracket held ++ rest)
    (done : outerAttributes nested before = .ok (found, after)) : after.rest = rest := by
  have run := outerAttributes_ok done
  obtain ⟨limit, same⟩ : ∃ limit, before.limit = limit + 2 := ⟨before.limit - 2, by omega⟩
  rw [same] at run
  rcases repeatUpTo_ok run with stopped | ⟨between, again, run⟩
  · rcases nextAttribute_ok inner closes stopped with ⟨_, none, _⟩ | ⟨_, _, no, _⟩
    · rw [next] at none
      cases none
    · cases no
  · rcases nextAttribute_ok inner closes again with ⟨no, _⟩ | ⟨_, held', _, matched', step, opens⟩
    · cases no
    have behind : between.rest = rest := by
      have tokens := next.symm.trans opens
      simp only [enclose, List.append_assoc, List.cons_append, List.cons.injEq, List.nil_append]
        at tokens
      exact (matched.inside_inj matched' tokens.2.2).2.2.symm
    rcases repeatUpTo_ok run with stopped | ⟨_, again, _⟩
    · rcases nextAttribute_ok inner step.closes_rest stopped with ⟨_, _, same⟩ | ⟨_, _, no, _⟩
      · rw [same, behind]
      · cases no
    · rcases nextAttribute_ok inner step.closes_rest again with ⟨no, _⟩ | ⟨_, _, _, _, _, opens⟩
      · cases no
      · rw [← behind, opens] at other
        cases other

/-- An implementation with one attribute is read as an implementation. -/
theorem item_implementation {behind : Progress → Bool → Reader Unit} {allowed : List Token}
    {joint : Bool} (inner : NestedKeeps nested) (items : BehindItems nested behind)
    (closes : ClosesEach before.rest) (enough : 1 < before.limit) (matched : Matched true allowed)
    (next : before.rest = .mark '#' joint :: enclose .bracket allowed ++ .name "impl" :: rest)
    (done : item nested before = .ok ((), after)) :
    ∃ there, Step true before there ∧ there.rest = .name "impl" :: rest ∧
      implementation nested before there = .ok ((), after) := by
  rw [items.item] at done
  obtain ⟨_, _, looked, read⟩ := bind_ok done
  cases looked
  obtain ⟨_, there, attributes, read⟩ := bind_ok read
  obtain ⟨found, attributes⟩ := discard_ok attributes
  have step : Step true before there :=
    keeps_outerAttributes inner before found there attributes (Step.refl closes)
  have starts := outerAttributes_single inner closes enough matched rfl next attributes
  obtain ⟨_, _, looked, read⟩ := bind_ok read
  cases looked
  obtain ⟨_, between, seen, read⟩ := bind_ok read
  have unseen : between = there := by
    rcases visibility_ok step.closes_rest seen with same | ⟨_, visible, _⟩
    · exact same
    · rw [starts] at visible
      simp at visible
  subst unseen
  rw [starts, items.implementation _ _ _ _ starts] at read
  obtain ⟨_, behind, read, same⟩ := bind_ok read
  cases same
  exact ⟨between, step, starts, read⟩

theorem repeat_untilEnd_atEnd {member : Reader Unit} {bound : Nat}
    (ended : atEnd before.rest = true)
    (done : repeatUpTo bound (untilEnd member) before = .ok ((), after)) : after = before := by
  cases bound with
  | zero =>
    cases done
    rfl
  | succ bound =>
    rcases repeatUpTo_ok done with stopped | ⟨_, again, _⟩
    · rcases untilEnd_ok stopped with ⟨_, _, same⟩ | ⟨no, _⟩
      · exact same
      · cases no
    · rcases untilEnd_ok again with ⟨no, _⟩ | ⟨_, goesOn, _⟩
      · cases no
      · rw [ended] at goesOn
        cases goesOn

/-! ## 4. Modules -/

theorem discard_item (depth : Nat) :
    discard (nestedUpTo (depth + 1) .item) = item (nestedUpTo depth) := by
  have same : discard (nestedUpTo (depth + 1) .item) =
      (item (nestedUpTo depth) >>= fun _ => pure Form.plain) >>= fun _ => pure () := rfl
  rw [same, bind_assoc]
  simp only [pure_bind, bind_pure_unit]

/-- A module is read as attributes and then as items, up to its end. -/
theorem readModule_ok {tokens wrote : List Token} (done : readModule tokens = .ok wrote) :
    ∃ depth inside final, innerAttributes (nestedUpTo (depth + 5)) (start (spellDocs tokens)) =
        .ok ((), inside) ∧
      repeatUpTo inside.limit (untilEnd (item (nestedUpTo (depth + 4)))) inside = .ok ((), final) ∧
      final.unread = none ∧ final.rest = [] ∧ wrote = final.written.reverse := by
  obtain ⟨⟨_, _⟩, all, same⟩ := Outcome.bind_eq_ok_iff.mp done
  cases same
  obtain ⟨final, read, unread, rest, rfl⟩ := readAll_ok all
  obtain ⟨_, inside, attributes, read⟩ := bind_ok read
  obtain ⟨_, _, looked, run⟩ := bind_ok read
  cases looked
  refine ⟨8 * (spellDocs tokens).length + 3, inside, final, attributes, ?_, unread, rest, rfl⟩
  rw [← discard_item]
  exact run

/-- What is read and written again has matching brackets. -/
theorem matched_of_readModule {tokens wrote : List Token} (done : readModule tokens = .ok wrote)
    (all : Matched true (spellDocs tokens)) : Matched true wrote := by
  obtain ⟨depth, inside, final, attributes, run, _, _, rfl⟩ := readModule_ok done
  have step : Step true (start (spellDocs tokens)) inside :=
    keeps_innerAttributes (nestedKeeps_nestedUpTo (depth + 5)) _ _ _ attributes
      (Step.refl all.closes)
  obtain ⟨wrote, matched, same⟩ := (Keeps.repeatUpTo (.untilEnd (keeps_item
    (nestedKeeps_nestedUpTo (depth + 4)))) _ inside () final run step).wrote
  rw [same, List.reverse_append, List.reverse_reverse]
  exact matched

section

variable {tokens wrote front back : List Token} (done : readModule tokens = .ok wrote)
  (all : Matched true (spellDocs tokens)) (first : Matched true front) (whole : Whole front)

include done all first whole

/-- Whatever is public in a module and not inside brackets is read as an item of its own. -/
theorem exists_publication_of_readModule (next : spellDocs tokens = front ++ .name "pub" :: back) :
    ∃ depth behind here there after remaining final,
      BehindItems (nestedUpTo (depth + 4)) behind ∧ Step true (start (spellDocs tokens)) here ∧
      Publication (nestedUpTo (depth + 4)) behind none back here there after ∧
      repeatUpTo remaining (untilEnd (item (nestedUpTo (depth + 4)))) after = .ok ((), final) ∧
      final.unread = none ∧ final.rest = [] ∧ wrote = final.written.reverse := by
  obtain ⟨depth, inside, final, attributes, run, unread, rest, written⟩ := readModule_ok done
  have inner := nestedKeeps_nestedUpTo (depth + 4)
  obtain ⟨behind, items⟩ := exists_behindItems inner
  have step : Step false (start (spellDocs tokens)) inside :=
    keeps_innerAttributes (nestedKeeps_nestedUpTo (depth + 5)) _ _ _ attributes
      (Step.refl all.closes)
  obtain ⟨taken, tame, same⟩ := step.taken
  have enough : (start (spellDocs tokens)).rest.length < (start (spellDocs tokens)).limit :=
    Nat.lt_succ_self _
  have next : spellDocs tokens = front ++ publicFrom none back := next
  cases tame.splits first (same.symm.trans next) with
  | within others suffix ahead matched =>
    have finishes : (none : Option String).isSome = true →
        Finishes (publishable (nestedUpTo (depth + 4)) behind) := nofun
    rw [items.item] at run
    obtain ⟨here, there, after, remaining, later, publication, run⟩ :=
      exists_publication inner (readsTexts_nestedUpTo depth) items.keeps finishes
        step.closes_rest (step.length_lt_limit enough) matched
        (whole.of_suffix (suffix ▸ List.suffix_append _ _)) ahead run (by rw [rest]; rfl)
    rw [← items.item] at run
    exact ⟨depth, behind, here, there, after, remaining, final, items, step.weaken.trans later,
      publication, run, unread, rest, written⟩
  | beyond more _ behindFront nonempty matched =>
    exact (not_passed (matched whole) nonempty behindFront nofun).elim

/-- A public constant of a module that holds a text is written as it is. -/
theorem constant_infix_of_readModule {content : String} (free : isReserved name = false)
    (next : spellDocs tokens = front ++ .name "pub" :: (textConstant name content ++ back)) :
    .name "pub" :: textConstant name content <:+: wrote := by
  obtain ⟨depth, behind, here, there, after, remaining, final, items, step, publication, run, _, _,
    rfl⟩ := exists_publication_of_readModule done all first whole next
  have more : 0 < there.limit := by
    rw [publication.step.limit, step.limit]
    exact Nat.succ_pos _
  have later : Step true after final := Keeps.repeatUpTo (.untilEnd (keeps_item
    (nestedKeeps_nestedUpTo _))) remaining after () final run
      (Step.refl (publication.reads items.keeps).closes_rest)
  exact (publication.constant_infix items (readsTexts_nestedUpTo depth) free more).trans
    later.written_prefix.isInfix

/-- Every documented method is written with its documentation, if a module consists of some items,
of a record, and of an implementation with one attribute. -/
theorem method_infix_of_readModule {fields allowed held frontMethods backMethods : List Token}
    {other content method : String} {joint : Bool}
    (matchedFields : Matched true fields) (matchedAttribute : Matched true allowed)
    (matchedHeld : Matched true held) (matchedFront : Matched true frontMethods)
    (wholeFront : Whole frontMethods) (begins : held.head? = some (.name "pub"))
    (inside : held = frontMethods ++ documentedMethod content method ++ backMethods)
    (next : spellDocs tokens = front ++ .name "pub" :: (.name "struct" :: .name name ::
      .opening .brace :: fields ++ .closing .brace ::
        (.mark '#' joint :: enclose .bracket allowed ++ .name "impl" :: .name other ::
          enclose .brace held))) :
    documentedMethod content method <:+: wrote := by
  obtain ⟨depth, behind, here, there, after, remaining, final, items, step, publication, run,
    unread, rest, rfl⟩ := exists_publication_of_readModule done all first whole next
  have inner := nestedKeeps_nestedUpTo (depth + 4)
  have reads := publication.reads items.keeps
  have behindRecord := publication.record_rest inner items matchedFields
  cases remaining with
  | zero =>
    cases run
    rw [rest] at behindRecord
    cases behindRecord
  | succ remaining =>
    rcases repeatUpTo_ok run with stopped | ⟨between, again, run⟩
    · rcases untilEnd_ok stopped with ⟨_, ended, _⟩ | ⟨no, _⟩
      · rw [behindRecord] at ended
        cases ended
      · cases no
    rcases untilEnd_ok again with ⟨no, _⟩ | ⟨_, _, read⟩
    · cases no
    have reached := step.trans reads
    have enough : 1 < after.limit := by
      rw [reached.limit]
      show 1 < (spellDocs tokens).length + 1
      rw [next, List.length_append, List.length_cons]
      omega
    obtain ⟨opened, attributes, opens, read⟩ :=
      item_implementation inner items reads.closes_rest enough matchedAttribute behindRecord read
    have ended := implementation_rest inner attributes.closes_rest matchedHeld opens read
    cases repeat_untilEnd_atEnd (by rw [ended]; rfl) run
    obtain ⟨taken, _, suffix⟩ := attributes.taken
    exact implementation_documents inner (readsTexts_nestedUpTo depth) matchedFront wholeFront
      begins inside matchedHeld attributes.closes_rest
      ((reached.trans attributes).length_lt_limit (Nat.lt_succ_self _)) ⟨taken, suffix.symm⟩ opens
      read unread

end

end ContractBinder.Code
