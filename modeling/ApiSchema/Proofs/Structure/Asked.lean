import ApiSchema.Generator
import ApiSchema.Proofs.Structure.Gathering

/-!
A run depends on its source for nothing but the structures that it asks for. Sources that agree on
these give the same run, and a run with answers of any kind, even to infinitely many ids, is one with
a source, since a run asks for finitely many.
-/

set_option autoImplicit false

namespace ApiSchema

open ApiSchema.Json

namespace Gathered

variable {α : Type} {idOf : α → Option String}
  {answer other : String → Except Failure (List (Tree α))} {queue requested : List String}
  {known : Members α} {result : Except Failure (Members α)}

theorem congr (run : Gathered idOf answer queue known requested result)
    (agree : ∀ id ∈ requested, other id = answer id) :
    Gathered idOf other queue known requested result := by
  induction run with
  | done known => exact .done known
  | passed old _ ih => exact .passed old (ih agree)
  | failed new refused =>
      rw [List.forall_mem_singleton] at agree
      exact .failed new (agree.trans refused)
  | answered new given _ ih =>
      rw [List.forall_mem_cons] at agree
      exact .answered new (agree.1.trans given) (ih agree.2)

theorem unique (run : Gathered idOf answer queue known requested result)
    {requestedToo : List String} {resultToo : Except Failure (Members α)}
    (again : Gathered idOf answer queue known requestedToo resultToo) :
    requestedToo = requested ∧ resultToo = result := by
  induction run generalizing requestedToo with
  | done known =>
      cases again
      exact ⟨rfl, rfl⟩
  | passed old _ ih =>
      cases again with
      | passed _ later => exact ih later
      | failed new _ => exact absurd new old
      | answered new _ _ => exact absurd new old
  | failed new refused =>
      cases again with
      | passed old _ => exact absurd new old
      | failed _ refusedToo =>
          rw [refused] at refusedToo
          cases refusedToo
          exact ⟨rfl, rfl⟩
      | answered _ given _ =>
          rw [refused] at given
          cases given
  | answered new given _ ih =>
      cases again with
      | passed old _ => exact absurd new old
      | failed _ refused =>
          rw [given] at refused
          cases refused
      | answered _ givenToo later =>
          rw [given] at givenToo
          cases givenToo
          obtain ⟨rfl, rfl⟩ := ih later
          exact ⟨rfl, rfl⟩

/-- A source that answers what is asked for makes the run. -/
theorem gather_eq {structures : Structures α} {source : Source} {platform : String}
    (run : Gathered structures.idOf answer queue known requested result)
    (agree : ∀ id ∈ requested, source.answer platform structures id = answer id) :
    gather source platform structures queue known = ⟨requested, result⟩ := by
  have ran := gathered source platform structures queue known
  obtain ⟨sameRequested, sameResult⟩ := (run.congr agree).unique ran
  rw [← sameRequested, ← sameResult]

end Gathered

/-- The documents of some structures, as they are given. -/
def Source.limited (fetch : String → String → Except Failure Value) (platform : String)
    (ids : List String) : Source where
  supports _ := true
  fetch asked id :=
    if asked = platform ∧ id ∈ ids then fetch asked id else .error (.lookup id "not captured")
  documents := ids.filterMap fun id => (fetch platform id).toOption
  mem_documents := by
    intro asked id payload success
    split at success
    · rename_i here
      obtain ⟨rfl, member⟩ := here
      exact List.mem_filterMap.mpr ⟨id, member, by rw [success]; rfl⟩
    · cases success

/-- Whatever documents there are, a run that ends is one of a source. -/
theorem Gathered.exists_source {α : Type} {structures : Structures α}
    (fetch : String → String → Except Failure Value) (platform : String)
    {queue requested : List String} {known : Members α} {result : Except Failure (Members α)}
    (run : Gathered structures.idOf
      (fun id => (fetch platform id).bind (structures.members id)) queue known requested result) :
    ∃ source : Source, (∀ id ∈ requested, source.fetch platform id = fetch platform id) ∧
      gather source platform structures queue known = ⟨requested, result⟩ := by
  have fetched : ∀ id ∈ requested,
      (Source.limited fetch platform requested).fetch platform id = fetch platform id :=
    fun id member => if_pos ⟨rfl, member⟩
  refine ⟨.limited fetch platform requested, fetched, run.gather_eq fun id member => ?_⟩
  rw [Source.answer, fetched id member]
  cases fetch platform id <;> rfl

/-- Two sources say the same of a platform and of some of its structures. -/
structure Source.Agrees (source other : Source) (platform : String) (ids : List String) :
    Prop where
  supports : other.supports platform = source.supports platform
  fetch : ∀ id ∈ ids, other.fetch platform id = source.fetch platform id

/-- Sources that agree on what is asked for are not told apart. -/
def Determined {α : Type} (platform : String) (computation : Source → Lookup α) : Prop :=
  ∀ source other : Source, source.Agrees other platform (computation source).requested →
    computation other = computation source

theorem expand_congr {α : Type} {source other : Source} {platform : String}
    {structures : Structures α} {forest : List (Tree α)}
    (agrees : source.Agrees other platform
      (expand source platform structures forest).requested) :
    expand other platform structures forest = expand source platform structures forest := by
  unfold expand at agrees ⊢
  dsimp only at agrees ⊢
  split
  · rfl
  · rename_i filled
    rw [if_neg filled] at agrees
    rw [agrees.supports]
    split
    · rfl
    · rename_i supported
      rw [if_neg supported] at agrees
      generalize forestPending structures.idOf forest = pending at agrees ⊢
      have asked : source.Agrees other platform
          (gather source platform structures pending []).requested := by
        split at agrees <;> exact agrees
      have run := gathered source platform structures pending []
      have same : gather other platform structures pending [] =
          gather source platform structures pending [] :=
        run.gather_eq fun id member => by rw [Source.answer, Source.answer, asked.fetch id member]
      rw [same]

namespace Determined

variable {α β : Type} {platform : String}

theorem of_eq {computation : Source → Lookup α}
    (same : ∀ source other, computation other = computation source) :
    Determined platform computation := fun source other _ => same source other

theorem bind {first : Source → Lookup α} {next : Source → α → Lookup β}
    (determined : Determined platform first)
    (later : ∀ value, Determined platform fun source => next source value) :
    Determined platform fun source => first source >>= next source := by
  intro source other agrees
  change (first other).bind (next other) = (first source).bind (next source)
  change source.Agrees other platform ((first source).bind (next source)).requested at agrees
  unfold Lookup.bind at agrees ⊢
  have sameFirst : first other = first source := by
    refine determined source other ⟨agrees.supports, fun id member => agrees.fetch id ?_⟩
    split
    · exact member
    · exact List.mem_append_left _ member
  rw [sameFirst]
  split
  · rfl
  · rename_i value found
    have sameNext : next other value = next source value := by
      refine later value source other ⟨agrees.supports, fun id member => agrees.fetch id ?_⟩
      rw [found]
      exact List.mem_append_right _ member
    rw [sameNext]

theorem ite {condition : Prop} [Decidable condition] {first second : Source → Lookup α}
    (determined : Determined platform first) (otherwise : Determined platform second) :
    Determined platform fun source => if condition then first source else second source := by
  by_cases holds : condition
  · simpa only [if_pos holds] using determined
  · simpa only [if_neg holds] using otherwise

theorem expand (structures : Structures α) (forest : List (Tree α)) :
    Determined platform fun source =>
      (ApiSchema.expand source platform structures forest).lookup := by
  intro source other agrees
  have same : ApiSchema.expand other platform structures forest =
      ApiSchema.expand source platform structures forest := expand_congr agrees
  simp only [same]

end Determined

namespace Structured

theorem Outline.determined_method (outline : Outline) (platform : String) (dialect : Dialect Entry)
    (structures : Structures Entry) (sourceUrl : Option String) :
    Determined platform fun source =>
      outline.method platform dialect structures ⟨sourceUrl, source⟩ := by
  unfold Outline.method
  cases Naming.apiName? outline.name with
  | none => exact .of_eq fun _ _ => rfl
  | some names =>
      refine .bind (.expand structures outline.params) fun first => ?_
      refine .bind (.expand structures outline.responses) fun second => ?_
      exact .of_eq fun _ _ => rfl

theorem determined_parse {σ : Type} (envelope : Record (Envelope σ)) (succeeds : σ → Bool)
    (keys : Keys) (platform : String) (dialect : Dialect Entry) (sourceUrl : Option String)
    (payload : String) :
    Determined platform fun source =>
      parse envelope succeeds keys platform dialect ⟨sourceUrl, source⟩ payload := by
  refine .bind (.of_eq fun _ _ => rfl) fun opened => ?_
  refine .ite (.of_eq fun _ _ => rfl) (.ite (.of_eq fun _ _ => rfl) ?_)
  exact .bind (.of_eq fun _ _ => rfl) fun outline => outline.determined_method _ _ _ sourceUrl

end Structured

namespace Generator

/-- Of the platforms of the library, two look structures up. -/
theorem determined_read (settings : Settings) {platform : Platform}
    (known : platform ∈ builtinPlatforms) (documentation : Documentation)
    (sourceUrl : Option String) :
    Determined platform.id fun source =>
      (⟨settings, source⟩ : Generator).read platform documentation sourceUrl := by
  unfold builtinPlatforms at known
  simp only [List.mem_cons, List.not_mem_nil, or_false] at known
  cases documentation with
  | payload text =>
      rcases known with rfl | rfl | rfl | rfl | rfl | rfl
      · exact .of_eq fun _ _ => rfl
      · exact .of_eq fun _ _ => rfl
      · exact .of_eq fun _ _ => rfl
      · exact .of_eq fun _ _ => rfl
      · change Determined _ fun source => Kuaishou.parse ⟨sourceUrl, source⟩ text
        exact Structured.determined_parse _ _ _ _ _ sourceUrl text
      · change Determined _ fun source => Taobao.parse ⟨sourceUrl, source⟩ text
        exact Structured.determined_parse _ _ _ _ _ sourceUrl text
  | page page =>
      rcases known with rfl | rfl | rfl | rfl | rfl | rfl
      all_goals exact .of_eq fun _ _ => rfl

/-- What is parsed does not change with a source that says the same of the structures that are asked
for. -/
theorem parse_congr (generator : Generator) {platform : Platform}
    (known : platform ∈ builtinPlatforms) (documentation : Documentation)
    (sourceUrl : Option String) {other : Source}
    (agrees : generator.source.Agrees other platform.id
      (generator.parse platform documentation sourceUrl).requested) :
    { generator with source := other }.parse platform documentation sourceUrl =
      generator.parse platform documentation sourceUrl := by
  have determined : Determined platform.id fun source =>
      (⟨generator.settings, source⟩ : Generator).parse platform documentation sourceUrl :=
    .bind (determined_read generator.settings known documentation sourceUrl)
      fun _ => .of_eq fun _ _ => rfl
  exact determined generator.source other agrees

end Generator

end ApiSchema
