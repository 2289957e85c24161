import ContractBinder.Proofs.Text.Characters
import ContractBinder.Proofs.Text.Splitting
import ContractBinder.Text.Words

/-!
# Characters of converted names

Converting the case of a name keeps its characters, apart from their own case
and from underscores that are put in: the clusters of a text are the whole text
(`flatten_clusters`), and every word is made of clusters. So a class of ASCII
characters that is closed under case conversion is kept (`snakeCase_chars`,
`pascalCase_chars`, `upper_chars`).
-/

namespace ContractBinder.Text

/-! ## 1. Clusters and words -/

theorem flatten_flush {α : Type} (run : List α) : (flush run).flatten = run := by
  cases run <;> simp [flush]

theorem flatten_clustersFrom (current : List Char) (last : ClusterRole) (run : ClusterRun)
    (text : List Char) : (clustersFrom current last run text).flatten = current ++ text := by
  induction text generalizing current last run with
  | nil => simp [clustersFrom, flatten_flush]
  | cons c rest ih =>
    rw [clustersFrom]
    split
    · rw [ih, List.append_assoc, List.singleton_append]
    · rw [List.flatten_append, flatten_flush, ih, List.singleton_append]

/-- A text is made of its clusters. -/
theorem flatten_clusters (text : List Char) : (clusters text).flatten = text :=
  flatten_clustersFrom [] .other .none text

theorem mem_flush {α : Type} {run word : List α} (member : word ∈ flush run) : word = run := by
  cases run with
  | nil => simp [flush] at member
  | cons first rest => simpa [flush] using member

theorem mem_of_nameWordsFrom {current word : List Char} {parts : List (List Char)}
    (member : word ∈ nameWordsFrom current parts) :
    ∀ c ∈ word, c ∈ current ∨ c ∈ parts.flatten := by
  induction parts generalizing current with
  | nil =>
    intro c inside
    exact .inl (mem_flush member ▸ inside)
  | cons cluster rest ih =>
    intro c inside
    rw [List.flatten_cons, List.mem_append]
    rw [nameWordsFrom] at member
    split at member
    · rcases List.mem_append.mp member with finished | other
      · exact .inl (mem_flush finished ▸ inside)
      · exact .inr (.inr ((ih other c inside).resolve_left List.not_mem_nil))
    · split at member
      · rcases List.mem_append.mp member with finished | other
        · rw [mem_flush finished, List.mem_append] at inside
          exact inside.imp_right .inl
        · exact .inr (.inr ((ih other c inside).resolve_left List.not_mem_nil))
      · have found := ih member c inside
        rwa [List.mem_append, or_assoc] at found

/-- The words of a name have no other characters than the name. -/
theorem mem_of_nameWords {name word : List Char} (member : word ∈ nameWords name) :
    ∀ c ∈ word, c ∈ name := by
  intro c inside
  rcases mem_of_nameWordsFrom member c inside with nothing | found
  · exact absurd nothing List.not_mem_nil
  · rwa [flatten_clusters] at found

/-! ## 2. Case -/

/-- A class of ASCII characters that has both cases of each. -/
structure CaseClosed (test : Char → Bool) : Prop where
  ascii : ∀ c, test c = true → c.toNat < 0x80
  lower : ∀ c, test c = true → test c.toLower = true
  upper : ∀ c, test c = true → test c.toUpper = true

variable {test : Char → Bool}

theorem CaseClosed.upper_chars (closed : CaseClosed test) {text : List Char}
    (chars : ∀ c ∈ text, test c = true) : ∀ c ∈ Text.upper text, test c = true := by
  intro c member
  obtain ⟨d, inside, mapped⟩ := List.mem_flatMap.mp member
  have ascii := closed.ascii d (chars d inside)
  rw [upperOf, if_pos ascii, List.mem_singleton] at mapped
  exact mapped ▸ closed.upper d (chars d inside)

theorem CaseClosed.lowerAfter_chars (closed : CaseClosed test) {before text : List Char}
    (chars : ∀ c ∈ text, test c = true) : ∀ c ∈ lowerAfter before text, test c = true := by
  induction text generalizing before with
  | nil => exact fun _ member => absurd member List.not_mem_nil
  | cons first rest ih =>
    intro c member
    have ascii := closed.ascii first (chars first List.mem_cons_self)
    have noSigma : first ≠ 'Σ' := by
      rintro rfl
      exact absurd ascii (by decide)
    simp only [lowerAfter, if_neg noSigma, lowerOf, if_pos ascii, List.mem_append,
      List.mem_singleton] at member
    rcases member with rfl | later
    · exact closed.lower first (chars first List.mem_cons_self)
    · exact ih (fun d inside => chars d (List.mem_cons_of_mem first inside)) c later

theorem CaseClosed.lower_chars (closed : CaseClosed test) {text : List Char}
    (chars : ∀ c ∈ text, test c = true) : ∀ c ∈ Text.lower text, test c = true :=
  closed.lowerAfter_chars chars

theorem CaseClosed.capitalize_chars (closed : CaseClosed test) {word : List Char}
    (chars : ∀ c ∈ word, test c = true) : ∀ c ∈ capitalize word, test c = true := by
  have whole := flatten_clusters word
  unfold capitalize
  split
  · exact fun _ member => absurd member List.not_mem_nil
  · next first rest found =>
    rw [found, List.flatten_cons] at whole
    intro c member
    rcases List.mem_append.mp member with head | tail
    · refine closed.upper_chars (fun d inside => chars d ?_) c head
      exact whole ▸ List.mem_append_left _ inside
    · refine closed.lower_chars (fun d inside => chars d ?_) c tail
      exact whole ▸ List.mem_append_right _ inside

/-! ## 3. Names -/

theorem CaseClosed.pascalCase_chars (closed : CaseClosed test) {name : List Char}
    (chars : ∀ c ∈ name, test c = true) : ∀ c ∈ pascalCase name, test c = true := by
  intro c member
  obtain ⟨word, listed, inside⟩ := List.mem_flatMap.mp member
  exact closed.capitalize_chars (fun d h => chars d (mem_of_nameWords listed d h)) c inside

theorem CaseClosed.snakeCase_chars (closed : CaseClosed test) (underscore : test '_' = true)
    {name : List Char} (chars : ∀ c ∈ name, test c = true) :
    ∀ c ∈ snakeCase name, test c = true := by
  intro c member
  rcases mem_of_mem_intercalate member with mark | ⟨part, listed, inside⟩
  · exact List.mem_singleton.mp mark ▸ underscore
  · obtain ⟨word, found, rfl⟩ := List.mem_map.mp listed
    exact closed.lower_chars (fun d h => chars d (mem_of_nameWords found d h)) c inside

end ContractBinder.Text
