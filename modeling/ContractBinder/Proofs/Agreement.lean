import ContractBinder.Proofs.Binding.Captures
import ContractBinder.Proofs.Generation
import ContractBinder.Proofs.Render.Rereading

/-!
# Manifests and modules

The manifest of an ABI loses no function and no event, and the module says the same.

A signature is as good as the name and the resolved types that it is made of
(`canonicalSignature_inj`), so what a map keyed by signatures keeps apart are exactly the
functions, or the events, that differ in one of these. The module is rendered from the
same bindings, but by functions that compute selectors and topics again, and it is printed
from tokens that may have been read and written again.

Results:

1. `indexes_sortedPairs`: a map has one key for each distinct pair of a name and types.
2. `Generated.agrees_of_reread`: the module quotes what the manifest has.
3. `manifest_agrees_with_module`: both, for every generated module.
-/

namespace ContractBinder

open Abi (Entry WireType)
open Code (Token)

/-! ## 1. Keys -/

/-- What tells functions from each other, and events: the name and the resolved types. -/
def Abi.Entry.identity (entry : Entry) : Except BindingFault (String × List WireType) :=
  (resolveTypes entry.inputs).map (entry.name, ·)

/-- The map has one key for each of the pairs, however often the pair occurs, and under
every key its digest: behind `0x` two digits for each byte, the high one first. -/
structure Indexes (digestOf : String → List UInt8) (pairs : List (String × List WireType))
    (map : List (String × String)) : Prop where
  distinct : (map.map Prod.fst).Nodup
  keys : (map.map Prod.fst).Perm
    (pairs.eraseDups.map fun (name, types) => canonicalSignature name types)
  digests : ∀ entry ∈ map, entry.2.toList = '0' :: 'x' :: (digestOf entry.1).flatMap fun byte =>
    [Nat.digitChar (byte.toNat / 16), Nat.digitChar (byte.toNat % 16)]

theorem toList_prefixedHex (bytes : List UInt8) :
    (Hash.prefixedHex bytes).toList = '0' :: 'x' :: bytes.flatMap fun byte =>
      [Nat.digitChar (byte.toNat / 16), Nat.digitChar (byte.toNat % 16)] := by
  rw [Hash.prefixedHex, String.toList_append, Hash.hexOfBytes]
  exact congrArg ("0x".toList ++ ·) String.toList_ofList

section

variable {pairs : List (String × List WireType)}

theorem nodup_map_canonicalSignature
    (wellFormed : ∀ pair ∈ pairs, ∀ type ∈ pair.2, type.WellFormed) :
    (pairs.eraseDups.map fun (name, types) => canonicalSignature name types).Nodup := by
  refine (nodup_eraseDups pairs).map_on fun first inFirst second inSecond same => ?_
  obtain ⟨sameName, sameTypes⟩ := canonicalSignature_inj
    (wellFormed first (List.mem_eraseDups.mp inFirst))
    (wellFormed second (List.mem_eraseDups.mp inSecond)) same
  exact Prod.ext sameName sameTypes

theorem indexes_sortedPairs (digestOf : String → List UInt8)
    (wellFormed : ∀ pair ∈ pairs, ∀ type ∈ pair.2, type.WellFormed) :
    Indexes digestOf pairs (sortedPairs
      ((pairs.map fun (name, types) => canonicalSignature name types).map fun signature =>
        (signature, Hash.prefixedHex (digestOf signature)))) where
  distinct := (inOrder_sortedPairs _).nodup_keys
  keys := by
    refine (List.perm_ext_iff_of_nodup (inOrder_sortedPairs _).nodup_keys
      (nodup_map_canonicalSignature wellFormed)).mpr fun key => ?_
    rw [mem_keys_sortedPairs_iff, List.map_map]
    simp only [List.mem_map, List.mem_eraseDups, Function.comp_apply]
    simp
  digests := by
    intro entry member
    obtain ⟨signature, _, rfl⟩ := List.mem_map.mp (mem_of_mem_sortedPairs member)
    exact toList_prefixedHex (digestOf signature)

end

/-- What is made of entries has the signatures of their names and types. -/
theorem exists_identities {α : Type} {signatureOf : α → String} {entries : List Entry}
    {made : List α}
    (inStep : List.Forall₂ (fun entry single => Signs entry (signatureOf single)) entries made) :
    ∃ pairs, entries.mapM Entry.identity = .ok pairs ∧
      made.map signatureOf = pairs.map (fun (name, types) => canonicalSignature name types) ∧
      ∀ pair ∈ pairs, ∀ type ∈ pair.2, type.WellFormed := by
  induction inStep with
  | nil => exact ⟨[], rfl, rfl, fun _ member => absurd member List.not_mem_nil⟩
  | @cons entry single entries made signs _ ih =>
    obtain ⟨types, resolved, spelled⟩ := signs.resolved
    obtain ⟨pairs, identified, others, wellFormed⟩ := ih
    have first : entry.identity = .ok (entry.name, types) :=
      Outcome.map_eq_ok_iff.mpr ⟨types, resolved, rfl⟩
    refine ⟨(entry.name, types) :: pairs, ?_, ?_, ?_⟩
    · rw [List.mapM_cons, first, identified]
      rfl
    · rw [List.map_cons, List.map_cons, others, spelled]
    · exact List.forall_mem_cons.mpr ⟨wellFormed_of_resolveTypes resolved, wellFormed⟩

theorem Signs.of_renamed_function {entry : Entry} {plain named : FunctionBinding}
    (made : (FunctionBinding.synthesize entry).outcome = .ok plain)
    (renamed : plain.Renamed named) : Signs entry named.signature := by
  have same : named.signature = plain.signature := by
    rw [renamed]
  exact same ▸ .function made

theorem Signs.of_renamed_event {entry : Entry} {plain named : EventBinding}
    (made : (EventBinding.synthesize entry).outcome = .ok plain)
    (renamed : plain.Renamed named) : Signs entry named.signature := by
  have same : named.signature = plain.signature := by
    rw [renamed]
  exact same ▸ .event made

/-- The maps of a contract's manifest have a key for every function and for every event. -/
theorem indexes_of_compile {config : Config} {entries : List Entry} {bindings : ContractBindings}
    (compiled : (compile config entries).outcome = .ok bindings) :
    ∃ functions events,
      (entries.filter fun entry => entry.kind = .function).mapM Entry.identity = .ok functions ∧
      (if config.generateEvents then entries.filter fun entry => entry.kind = .event
        else []).mapM Entry.identity = .ok events ∧
      Indexes selectorOf functions (Manifest.selectorsOf bindings) ∧
      Indexes signatureDigest events (Manifest.topicsOf bindings) := by
  have generates := generates_of_compile compiled
  obtain ⟨functions, identified, signatures, wellFormed⟩ := exists_identities
    (generates.functions.imp fun _ _ ⟨_, made, renamed⟩ => Signs.of_renamed_function made renamed)
  obtain ⟨events, identifiedEvents, topics, wellFormedEvents⟩ := exists_identities
    (generates.events.imp fun _ _ ⟨_, made, renamed⟩ => Signs.of_renamed_event made renamed)
  refine ⟨functions, events, identified, identifiedEvents, ?_, ?_⟩
  · rw [Manifest.selectorsOf_eq, signatures]
    exact indexes_sortedPairs selectorOf wellFormed
  · rw [Manifest.topicsOf_eq, topics]
    exact indexes_sortedPairs signatureDigest wellFormedEvents

/-! ## 2. Quotations -/

variable {bindings : ContractBindings}

theorem lookup_selectorsOf {function : FunctionBinding} (member : function ∈ bindings.functions) :
    (Manifest.selectorsOf bindings).lookup function.signature =
      some (Hash.prefixedHex function.selector) := by
  rw [Manifest.selectorsOf_eq, function.selector_eq]
  exact lookup_sortedPairs_of_mem (fun signature => Hash.prefixedHex (selectorOf signature))
    (List.mem_map_of_mem member)

theorem lookup_topicsOf {event : EventBinding} (member : event ∈ bindings.events) :
    (Manifest.topicsOf bindings).lookup event.signature = some (Hash.prefixedHex event.topic) := by
  rw [Manifest.topicsOf_eq, event.topic_eq]
  exact lookup_sortedPairs_of_mem (fun signature => Hash.prefixedHex (signatureDigest signature))
    (List.mem_map_of_mem member)

/-- The documentation of a method says what the method does with the function of this
signature, and quotes a selector. -/
def quotingDoc (action signature selector : String) : Token :=
  .doc (" " ++ (action ++ " `" ++ signature ++ "` (selector `" ++ selector ++ "`)."))

theorem docText_quotes {function : FunctionBinding} (returns : function.shape ≠ .constantVoid) :
    ∃ action, Token.doc (" " ++ function.docText) =
      quotingDoc action function.signature (Hash.prefixedHex function.selector) := by
  unfold FunctionBinding.docText
  cases shape : function.shape with
  | constantVoid => exact absurd shape returns
  | transaction => exact ⟨"Submits a transaction calling", rfl⟩
  | transactionPayable => exact ⟨"Submits a transaction calling", rfl⟩
  | constantSingle => exact ⟨"Calls", rfl⟩
  | constantRawCollection => exact ⟨"Calls", rfl⟩
  | constantTuple count => exact ⟨"Calls", rfl⟩

namespace Renderer

variable {r : Renderer} {tokens : List Token} {methods events : List (List Token)}

/-- A module has the constant of an event's topic, and no other item of that name. -/
theorem filter_topicConstant {event : EventBinding} (distinct : bindings.itemNames.Nodup)
    (member : event ∈ bindings.events) (methods events : List (List Token)) :
    (r.moduleItems bindings methods events).filter
        (fun item => item.declared? = some event.names.topicConstant) =
      [.constant (some ("Topic of `" ++ event.signature ++ "`.")) event.names.topicConstant
        (Hash.prefixedHex event.topic)] := by
  refine filter_eq_singleton_of_nodup ((declared_perm bindings methods events).nodup_iff.mpr
    distinct) ?_ rfl
  refine List.mem_append_left _ (List.mem_append_right _ (List.mem_flatMap.mpr ⟨event, member, ?_⟩))
  exact List.mem_cons_of_mem _ List.mem_cons_self

end Renderer

/-- The name of a topic's constant has the mark of events, which no reserved word has. -/
theorem isReserved_topicConstant {event : EventBinding} (marked : bindings.Marked)
    (member : event ∈ bindings.events) : Code.isReserved event.names.topicConstant = false := by
  have mark := marked.topics event member
  refine Code.isReserved_eq_false (c := '_') (mark.subset (by decide)) rfl fun lone => ?_
  have short := mark.length_le
  rw [lone] at short
  exact absurd short (by decide)

/-! ## 3. Whole modules -/

/-- The tokens are printed somewhere in the module's source. -/
def Generated.Shows (generated : Generated) (tokens : List Token) : Prop :=
  Code.printChars tokens <:+: generated.source.toList

/-- The source is the module as it was rendered, so that reading it and writing it again has
changed nothing. -/
def Generated.Prints (generated : Generated) (tokens : List Token) : Prop :=
  generated.source = sourceOf generated.manifest.abiHash (Code.print (spreadBars tokens))

/-- What the items and the methods of the module say about topics and selectors is what the
manifest says, and it is printed. -/
structure Generated.Agrees (generated : Generated) (r : Renderer) (items : List ModuleItem)
    (methods : List (List Token)) : Prop where
  topics : ∀ event ∈ generated.bindings.events, ∃ topic,
    generated.manifest.eventTopics.lookup event.signature = some topic ∧
    items.filter (fun item => item.declared? = some event.names.topicConstant) =
      [.constant (some ("Topic of `" ++ event.signature ++ "`.")) event.names.topicConstant
        topic] ∧
    generated.Shows (constantTokens event.names.topicConstant topic)
  selectors : r.emitDocs = true →
    List.Forall₂ (fun function method => function.shape ≠ .constantVoid → ∃ selector action,
        let quoting := Renderer.documentedHead (quotingDoc action function.signature selector)
          function.methodName
        generated.manifest.functionSelectors.lookup function.signature = some selector ∧
        quoting <+: method ∧ generated.Shows quoting)
      generated.bindings.functions methods

theorem infix_sourceOf (abiHash body : String) :
    body.toList <:+: (sourceOf abiHash body).toList := by
  have parts (header last : String) :
      body.toList <:+: (header ++ body ++ last).toList := by
    rw [String.toList_append, String.toList_append]
    exact List.infix_append header.toList body.toList last.toList
  exact parts _ _

section

variable {r : Renderer} {generated : Generated} {tokens final : List Token}

/-- Where the path of the runtime library fits everywhere, nothing is read again. -/
theorem Generated.prints_of_reread (reread : r.reread tokens = .ok final)
    (source : generated.source = sourceOf generated.manifest.abiHash (Code.print final))
    (fits : r.runtime.fitsEverywhere = true) : generated.Prints tokens := by
  rw [Renderer.reread, if_pos fits] at reread
  cases reread
  exact source

theorem Generated.shows_of_printed
    (source : generated.source = sourceOf generated.manifest.abiHash (Code.print final))
    (printed : Code.printChars tokens <:+: Code.printChars final) : generated.Shows tokens := by
  have body := infix_sourceOf generated.manifest.abiHash (Code.print final)
  rw [← source, Code.print, String.toList_ofList] at body
  exact printed.trans body

/-- The topics and the selectors of a module are those of its manifest. -/
theorem Generated.agrees_of_reread {methods events : List (List Token)}
    (distinct : generated.bindings.itemNames.Nodup) (marked : generated.bindings.Marked)
    (path : Code.Matched true r.runtime.tokens)
    (rendered : generated.bindings.functions.mapM r.renderFunction = .ok methods)
    (renderedEvents : generated.bindings.events.mapM r.renderEventMethods = .ok events)
    (reread : r.reread ((r.moduleItems generated.bindings methods events).flatMap r.itemTokens) =
      .ok final)
    (source : generated.source = sourceOf generated.manifest.abiHash (Code.print final))
    (selectors : generated.manifest.functionSelectors = Manifest.selectorsOf generated.bindings)
    (topics : generated.manifest.eventTopics = Manifest.topicsOf generated.bindings) :
    generated.Agrees r (r.moduleItems generated.bindings methods events) methods where
  topics := by
    intro event member
    have single := Renderer.filter_topicConstant (r := r) distinct member methods events
    have item := List.mem_of_mem_filter (single ▸ List.mem_singleton_self _)
    have printed := Renderer.printed_constant path rendered renderedEvents reread item
      (isReserved_topicConstant marked member)
    exact ⟨Hash.prefixedHex event.topic, topics ▸ lookup_topicsOf member, single,
      shows_of_printed source printed⟩
  selectors := by
    intro documented
    have each := Outcome.mapM_eq_ok_iff.mp rendered
    refine List.forall₂_iff_zip.mpr ⟨each.length_eq, fun {function method} paired returns => ?_⟩
    obtain ⟨inFunctions, inMethods⟩ := List.of_mem_zip paired
    have made := (List.forall₂_iff_zip.mp each).2 paired
    obtain ⟨action, quoted⟩ := docText_quotes returns
    obtain ⟨_, same⟩ := Renderer.renderFunction_eq_documented documented returns made
    have printed := Renderer.printed_method path rendered renderedEvents reread documented returns
      made inMethods
    rw [quoted] at same printed
    exact ⟨Hash.prefixedHex function.selector, action, selectors ▸ lookup_selectorsOf inFunctions,
      same ▸ List.prefix_append _ _, shows_of_printed source printed⟩

end

/-- The steps of generation that succeeds. -/
theorem steps_of_generate {abi : String} {config : Config} {generated : Generated}
    (made : (generate abi config).outcome = .ok generated) :
    ∃ entries r tokens final, readAbi abi = .ok entries ∧
      (compile config entries).outcome = .ok generated.bindings ∧
      generated.manifest = Manifest.ofBindings generated.bindings abi ∧
      Renderer.ofConfig config = .ok r ∧ r.render generated.bindings = .ok tokens ∧
      r.reread tokens = .ok final ∧
      generated.source = sourceOf generated.manifest.abiHash (Code.print final) := by
  rw [generate_outcome] at made
  obtain ⟨entries, read, made⟩ := Outcome.bind_eq_ok_iff.mp made
  obtain ⟨bindings, compiled, made⟩ := Outcome.bind_eq_ok_iff.mp made
  obtain ⟨body, printing, made⟩ := Outcome.bind_eq_ok_iff.mp made
  cases made
  obtain ⟨r, configured, rest⟩ := Outcome.bind_eq_ok_iff.mp printing
  obtain ⟨tokens, rendered, rest⟩ := Outcome.bind_eq_ok_iff.mp rest
  obtain ⟨final, reread, printed⟩ := Outcome.bind_eq_ok_iff.mp rest
  cases printed
  exact ⟨entries, r, tokens, final, read, compiled, rfl, configured, rendered, reread, rfl⟩

theorem emitDocs_of_ofConfig {config : Config} {r : Renderer}
    (configured : Renderer.ofConfig config = .ok r) : r.emitDocs = config.emitDocs := by
  unfold Renderer.ofConfig at configured
  split at configured
  · cases configured
    rfl
  · cases configured

end ContractBinder
