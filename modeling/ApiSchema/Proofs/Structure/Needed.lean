import ApiSchema.Platform.Taobao
import ApiSchema.Proofs.Structure.Gathering

set_option autoImplicit false

namespace ApiSchema

open ApiSchema.Json

variable {α : Type}

section

variable (captured : List (String × Value)) (structures : Structures α)

/-- A structure was captured, its documentation has members, and these can be read. -/
def Described (id : String) (members : List (Tree α)) : Prop :=
  ∃ payload raw, captured.lookup id = some payload ∧ structures.locate payload = some raw ∧
    decodeValue structures.decode raw = .ok members

/-- Why a structure is not described. -/
inductive Undescribed (id : String) : Failure → Prop
  | missing (absent : captured.lookup id = none) : Undescribed id (.lookup id "not captured")
  | memberless {payload : Value} (found : captured.lookup id = some payload)
      (bare : structures.locate payload = none) :
      Undescribed id (.lookup id "payload carries no structure members")
  | unreadable {payload raw : Value} {error : Json.Error}
      (found : captured.lookup id = some payload) (located : structures.locate payload = some raw)
      (refused : decodeValue structures.decode raw = .error error) : Undescribed id (.json error)

/-- The structures that the forest lacks, and those that members of needed structures lack. -/
inductive Needed (forest : List (Tree α)) : String → Prop
  | lacked {id : String} (lacks : Lacks structures.idOf forest id) : Needed forest id
  | member {id other : String} {members : List (Tree α)} (needed : Needed forest id)
      (described : Described captured structures id members)
      (lacks : Lacks structures.idOf members other) : Needed forest other

end

section

variable {captured : List (String × Value)} {structures : Structures α} {supported : Bool}
  {platform id : String} {members : List (Tree α)} {forest : List (Tree α)}

theorem answer_memory_of_described (supported : Bool) (platform : String)
    (described : Described captured structures id members) :
    (Source.memory supported captured).answer platform structures id = .ok members := by
  obtain ⟨payload, raw, found, located, decoded⟩ := described
  have fetched : (Source.memory supported captured).fetch platform id = .ok payload := by
    simp only [Source.memory, capturedStructure, found]
  simp only [Source.answer, fetched, Structures.members, located, decoded]
  rfl

theorem answer_memory_of_undescribed (supported : Bool) (platform : String) {failure : Failure}
    (undescribed : Undescribed captured structures id failure) :
    (Source.memory supported captured).answer platform structures id = .error failure := by
  have fetch : (Source.memory supported captured).fetch platform id =
      capturedStructure captured id := rfl
  cases undescribed with
  | missing absent => simp only [Source.answer, fetch, capturedStructure, absent]
  | memberless found bare =>
      simp only [Source.answer, fetch, capturedStructure, found, Structures.members, bare]
  | unreadable found located refused =>
      simp only [Source.answer, fetch, capturedStructure, found, Structures.members, located,
        refused]
      rfl

variable (captured structures id) in
theorem described_or_undescribed :
    (∃ members, Described captured structures id members) ∨
      ∃ failure, Undescribed captured structures id failure := by
  cases found : captured.lookup id with
  | none => exact .inr ⟨_, .missing found⟩
  | some payload =>
      cases located : structures.locate payload with
      | none => exact .inr ⟨_, .memberless found located⟩
      | some raw =>
          cases decoded : decodeValue structures.decode raw with
          | error error => exact .inr ⟨_, .unreadable found located decoded⟩
          | ok members => exact .inl ⟨members, payload, raw, found, located, decoded⟩

theorem answer_memory_eq_ok :
    (Source.memory supported captured).answer platform structures id = .ok members ↔
      Described captured structures id members := by
  constructor
  · intro given
    rcases described_or_undescribed captured structures id with ⟨read, described⟩ | ⟨_, undescribed⟩
    · have same := answer_memory_of_described supported platform described
      rw [given] at same
      cases same
      exact described
    · have refused := answer_memory_of_undescribed supported platform undescribed
      rw [given] at refused
      cases refused
  · exact answer_memory_of_described supported platform

theorem answer_memory_eq_error {failure : Failure} :
    (Source.memory supported captured).answer platform structures id = .error failure ↔
      Undescribed captured structures id failure := by
  constructor
  · intro refused
    rcases described_or_undescribed captured structures id with ⟨_, described⟩ | ⟨_, undescribed⟩
    · have given := answer_memory_of_described supported platform described
      rw [refused] at given
      cases given
    · have same := answer_memory_of_undescribed supported platform undescribed
      rw [refused] at same
      cases same
      exact undescribed
  · exact answer_memory_of_undescribed supported platform

/-- A structure that is described is not undescribed. -/
theorem Described.not_undescribed (described : Described captured structures id members)
    {failure : Failure} : ¬ Undescribed captured structures id failure := by
  intro undescribed
  have given := answer_memory_of_described true "" described
  rw [answer_memory_of_undescribed true "" undescribed] at given
  cases given

/-- The members of a structure are determined by what was captured. -/
theorem Described.unique {others : List (Tree α)}
    (described : Described captured structures id members)
    (again : Described captured structures id others) : members = others := by
  have given := answer_memory_of_described true "" described
  rw [answer_memory_of_described true "" again] at given
  cases given
  rfl

/-- An id is asked for only if its structure is needed. -/
theorem needed_of_gathered {queue requested : List String} {known : Members α}
    {result : Except Failure (Members α)}
    (run : Gathered structures.idOf ((Source.memory supported captured).answer platform structures)
      queue known requested result)
    (queued : ∀ id ∈ queue, Lacks structures.idOf forest id) :
    ∀ id ∈ requested, Needed captured structures forest id := by
  apply run.forall_requested (P := Needed captured structures forest)
  · exact fun id member => .lacked (queued id member)
  · intro id members needed given other lacks
    exact .member needed (answer_memory_eq_ok.mp given) lacks

/-- Where nothing fails, all needed structures are known in the end. -/
theorem Needed.known {requested : List String} {final : Members α}
    (completes : Completes structures.idOf
      ((Source.memory supported captured).answer platform structures)
      (forestPending structures.idOf forest) [] requested final)
    (needed : Needed captured structures forest id) : final.lookup id ≠ none := by
  induction needed with
  | lacked lacks => exact completes.queued _ (mem_forestPending.mpr lacks)
  | @member id other members _ described lacks ih =>
      obtain ⟨held, found⟩ := Option.ne_none_iff_exists'.mp ih
      rcases completes.origin id held found with before | ⟨given, covered⟩
      · cases before
      · have same := answer_memory_of_described supported platform described
        rw [given] at same
        cases same
        exact covered other lacks

theorem not_needed (nothing : ∀ id, ¬ Lacks structures.idOf forest id) (id : String) :
    ¬ Needed captured structures forest id := by
  intro needed
  induction needed with
  | lacked lacks => exact nothing _ lacks
  | member _ _ _ ih => exact ih

end

/-- An expansion that found everything that was needed. -/
structure ExpansionRun.Finds (run : ExpansionRun α) (needed : Set String) : Prop where
  requested : ∀ id, id ∈ run.requested ↔ id ∈ needed
  nothing : needed = ∅ → run.outcome = .ok .notNeeded
  something : needed.Nonempty → run.outcome = .ok (.expanded needed.ncard)

/-- An expansion of a forest that broke off at the structure asked for last. -/
structure ExpansionRun.BreaksOff (run : ExpansionRun α) (captured : List (String × Value))
    (structures : Structures α) (forest : List (Tree α)) : Prop where
  last : ∃ earlier last failure, run.requested = earlier ++ [last] ∧
    (∀ id ∈ earlier, ∃ members, Described captured structures id members) ∧
    Undescribed captured structures last failure ∧ run.outcome = .error failure
  untouched : run.forest = forest

section

variable {captured : List (String × Value)} {structures : Structures α} {platform : String}
  {forest : List (Tree α)} {requested : List String}

theorem breaksOff_of_gathered {failure : Failure}
    (run : Gathered structures.idOf ((Source.memory true captured).answer platform structures)
      (forestPending structures.idOf forest) [] requested (.error failure)) :
    ExpansionRun.BreaksOff ⟨requested, .error failure, forest⟩ captured structures forest ∧
      ∃ id, Needed captured structures forest id ∧
        ∀ members, ¬ Described captured structures id members := by
  obtain ⟨earlier, last, split, refused, before⟩ := run.fails
  have undescribed := answer_memory_eq_error.mp refused
  have described : ∀ id ∈ earlier, ∃ members, Described captured structures id members := by
    intro id member
    obtain ⟨members, given⟩ := before id member
    exact ⟨members, answer_memory_eq_ok.mp given⟩
  have needed : Needed captured structures forest last :=
    needed_of_gathered run (fun id member => mem_forestPending.mp member) last (by simp [split])
  refine ⟨⟨⟨earlier, last, failure, split, described, undescribed, rfl⟩, rfl⟩, last, needed, ?_⟩
  exact fun members described => described.not_undescribed undescribed

theorem finds_of_gathered {final : Members α} {id : String}
    (lacks : Lacks structures.idOf forest id)
    (run : Gathered structures.idOf ((Source.memory true captured).answer platform structures)
      (forestPending structures.idOf forest) [] requested (.ok final)) :
    ExpansionRun.Finds
        ⟨requested, .ok (.expanded final.length), graftForest structures.idOf final [] forest⟩
        { id | Needed captured structures forest id } ∧
      ∀ id, Needed captured structures forest id →
        ∃ members, Described captured structures id members := by
  have completes := run.completes
  have asked : ∀ id, id ∈ requested ↔ Needed captured structures forest id := by
    intro id
    constructor
    · exact needed_of_gathered run (fun id member => mem_forestPending.mp member) id
    · intro needed
      rcases completes.added id (needed.known completes) with before | asked
      · exact absurd rfl before
      · exact asked
  have count : { id | Needed captured structures forest id }.ncard = final.length := by
    have same : { id | Needed captured structures forest id } = ↑requested.toFinset := by
      ext id
      simp [asked id]
    rw [same, Set.ncard_coe_finset, List.toFinset_card_of_nodup run.nodup.1, completes.length]
    simp
  refine ⟨⟨asked, ?_, ?_⟩, ?_⟩
  · intro nothing
    have needed : id ∈ { id | Needed captured structures forest id } := .lacked lacks
    rw [nothing] at needed
    cases needed
  · rw [count]
    exact fun _ => rfl
  · intro id needed
    obtain ⟨members, found⟩ := Option.ne_none_iff_exists'.mp (needed.known completes)
    rcases completes.origin id members found with before | ⟨given, _⟩
    · cases before
    · exact ⟨members, answer_memory_eq_ok.mp given⟩

end

/-- What an expansion with captured structures asks for, and how it ends. -/
theorem expand_memory (captured : List (String × Value)) (platform : String)
    (structures : Structures α) (forest : List (Tree α)) :
    let run := expand (.memory true captured) platform structures forest
    let needed : Set String := { id | Needed captured structures forest id }
    run.requested.Nodup ∧ (∀ id ∈ run.requested, id ∈ needed) ∧
      ((∀ id ∈ needed, ∃ members, Described captured structures id members) → run.Finds needed) ∧
      ((∃ id ∈ needed, ∀ members, ¬ Described captured structures id members) →
        run.BreaksOff captured structures forest) := by
  intro run needed
  have derived : Expanded (.memory true captured) platform structures forest run := expanded ..
  revert derived
  generalize run = run
  intro derived
  cases derived with
  | complete nothing =>
      have none : ∀ id, id ∉ needed := not_needed nothing
      have empty : needed = ∅ := Set.eq_empty_iff_forall_notMem.mpr none
      refine ⟨List.nodup_nil, by simp, fun _ => ⟨by simp [none], fun _ => rfl, ?_⟩, ?_⟩
      · exact fun some => absurd empty some.ne_empty
      · rintro ⟨id, member, _⟩
        exact absurd member (none id)
  | unavailable _ unsupported => cases unsupported
  | failed lacks run =>
      obtain ⟨breaksOff, id, member, undescribed⟩ := breaksOff_of_gathered run
      refine ⟨run.nodup.1, ?_, ?_, fun _ => breaksOff⟩
      · exact needed_of_gathered run fun id member => mem_forestPending.mp member
      · intro described
        obtain ⟨members, held⟩ := described id member
        exact absurd held (undescribed members)
  | grafted lacks run =>
      obtain ⟨finds, described⟩ := finds_of_gathered lacks run
      refine ⟨run.nodup.1, fun id member => (finds.requested id).mp member, fun _ => finds, ?_⟩
      rintro ⟨id, member, undescribed⟩
      obtain ⟨members, held⟩ := described id member
      exact absurd held (undescribed members)

namespace Structured

def reference (name : String) (id : Int) (members : List (Tree Entry)) : Tree Entry :=
  .node ⟨name, "", "", "", false, some (.number (.integer id))⟩ members

def documentation (members : List (String × Int)) : Value :=
  .object [("data", .array (members.map fun member =>
    .object [("name", .string member.1), ("structureId", .number (.integer member.2))]))]

def orders : List (String × Value) :=
  [("1", documentation [("parent", 1), ("buyer", 2)]), ("2", documentation [("last", 1)])]

theorem described_orders :
    Described orders (structures Taobao.keys) "1"
        [reference "parent" 1 [], reference "buyer" 2 []] ∧
      Described orders (structures Taobao.keys) "2" [reference "last" 1 []] :=
  ⟨⟨_, _, rfl, rfl, rfl⟩, ⟨_, _, rfl, rfl, rfl⟩⟩

theorem needed_orders (id : String) :
    Needed orders (structures Taobao.keys) [reference "order" 1 []] id ↔ id = "1" ∨ id = "2" := by
  obtain ⟨order, buyer⟩ := described_orders
  have first : Needed orders (structures Taobao.keys) [reference "order" 1 []] "1" :=
    .lacked (mem_forestPending.mp (by decide))
  constructor
  · intro needed
    induction needed with
    | @lacked id lacks =>
        have pending : id ∈ ["1"] := mem_forestPending.mpr lacks
        exact .inl (List.mem_singleton.mp pending)
    | @member id other members _ described lacks ih =>
        rcases ih with rfl | rfl
        · rw [described.unique order] at lacks
          have pending : other ∈ ["1", "2"] := mem_forestPending.mpr lacks
          simpa using pending
        · rw [described.unique buyer] at lacks
          have pending : other ∈ ["1"] := mem_forestPending.mpr lacks
          exact .inl (List.mem_singleton.mp pending)
  · rintro (rfl | rfl)
    · exact first
    · exact .member first order (mem_forestPending.mp (by decide))

end Structured

/-- Orders that name one another are each asked for once. -/
theorem expand_memory_orders :
    let run := expand (.memory true Structured.orders) "taobao"
      (Structured.structures Taobao.keys) [Structured.reference "order" 1 []]
    run.requested.Nodup ∧ (∀ id, id ∈ run.requested ↔ id = "1" ∨ id = "2") ∧
      run.outcome = .ok (.expanded 2) := by
  obtain ⟨order, buyer⟩ := Structured.described_orders
  obtain ⟨distinct, _, finds, _⟩ := expand_memory Structured.orders "taobao"
    (Structured.structures Taobao.keys) [Structured.reference "order" 1 []]
  have pair : { id | Needed Structured.orders (Structured.structures Taobao.keys)
      [Structured.reference "order" 1 []] id } = {"1", "2"} :=
    Set.ext Structured.needed_orders
  rw [pair] at finds
  have found := finds (by
    rintro id (rfl | rfl)
    · exact ⟨_, order⟩
    · exact ⟨_, buyer⟩)
  refine ⟨distinct, found.requested, ?_⟩
  rw [found.something (Set.insert_nonempty _ _), Set.ncard_pair (by decide)]

end ApiSchema
