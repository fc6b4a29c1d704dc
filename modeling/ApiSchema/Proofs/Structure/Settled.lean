import ApiSchema.Proofs.Structure.Grafting

/-!
Expanding what was expanded. A forest is settled if no known members can be attached to it;
attaching members settles a forest, and a settled forest stays as it is. What an expanded forest
still lacks was looked up before, so a second expansion asks for nothing new and attaches nothing.
-/

set_option autoImplicit false

namespace ApiSchema

variable {α : Type}

/-- Nothing can be attached to the forest, below fields that name the structures of the chain: each
field that names a structure repeats one of them, or has members, or its structure has none. -/
inductive Settled (idOf : α → Option String) (known : Members α) :
    List String → List (Tree α) → Prop
  | nil (chain : List String) : Settled idOf known chain []
  | plain {chain : List String} {label : α} {children rest : List (Tree α)}
      (unnamed : idOf label = none) (within : Settled idOf known chain children)
      (after : Settled idOf known chain rest) :
      Settled idOf known chain (.node label children :: rest)
  | repeated {chain : List String} {label : α} {id : String} {children rest : List (Tree α)}
      (named : idOf label = some id) (above : id ∈ chain)
      (after : Settled idOf known chain rest) :
      Settled idOf known chain (.node label children :: rest)
  | named {chain : List String} {label : α} {id : String} {children rest : List (Tree α)}
      (named : idOf label = some id) (new : id ∉ chain)
      (bare : children = [] → (known.lookup id).getD [] = [])
      (within : Settled idOf known (id :: chain) children)
      (after : Settled idOf known chain rest) :
      Settled idOf known chain (.node label children :: rest)

section

variable {idOf : α → Option String} {known : Members α} {chain : List String}
  {forest result : List (Tree α)}

/-- Attaching members settles a forest. -/
theorem Grafted.settled (run : Grafted idOf known chain forest result) :
    Settled idOf known chain result := by
  induction run with
  | nil chain => exact .nil chain
  | plain unnamed _ _ within after => exact .plain unnamed within after
  | repeated named above _ after => exact .repeated named above after
  | attached named new found run _ within after =>
      refine .named named new (fun bare => ?_) within after
      rw [found, Option.getD_some, run.eq_nil_iff.mp bare]
  | unknown named new absent _ after =>
      refine .named named new (fun _ => ?_) (.nil _) after
      rw [absent, Option.getD_none]
  | given named new filled run _ within after =>
      exact .named named new (fun bare => absurd (run.eq_nil_iff.mp bare) filled) within after

namespace Settled

/-- A forest that is settled stays so when fewer structures are known. -/
theorem of_fewer (settled : Settled idOf known chain forest) {fewer : Members α}
    (held : ∀ id members, fewer.lookup id = some members → known.lookup id = some members) :
    Settled idOf fewer chain forest := by
  induction settled with
  | nil chain => exact .nil chain
  | plain unnamed _ _ within after => exact .plain unnamed within after
  | repeated named above _ after => exact .repeated named above after
  | @named chain label id children rest named new bare _ _ within after =>
      refine .named named new (fun none => ?_) within after
      cases found : fewer.lookup id with
      | none => rfl
      | some members =>
          have before := bare none
          rwa [held id members found] at before

/-- Nothing is attached to a settled forest. -/
theorem graftForest_eq (settled : Settled idOf known chain forest) :
    graftForest idOf known chain forest = forest := by
  induction settled with
  | nil chain => rw [graftForest]
  | plain unnamed _ _ within after => rw [graftForest, graft_plain unnamed, within, after]
  | repeated named above _ after => rw [graftForest, graft_repeated named above, after]
  | @named chain label id children rest named new bare _ _ within after =>
      rw [graftForest, after]
      cases children with
      | nil => rw [graft_empty named new, bare rfl, graftForest]
      | cons first others => rw [graft_given named new, within]

end Settled

/-- What a forest lacks after members were attached, it lacked before, or known members lack it. -/
theorem Grafted.lacks (run : Grafted idOf known chain forest result) {id : String}
    (lacks : Lacks idOf result id) :
    Lacks idOf forest id ∨ ∃ other members, known.lookup other = some members ∧
      Lacks idOf members id := by
  induction run with
  | nil chain => exact .inl lacks
  | plain unnamed _ _ within after =>
      rw [lacks_cons] at lacks ⊢
      rcases lacks with ⟨_, named⟩ | inside | later
      · rw [unnamed] at named
        cases named
      · exact (within inside).imp_left fun lacks => .inr (.inl lacks)
      · exact (after later).imp_left fun lacks => .inr (.inr lacks)
  | repeated named above _ after =>
      rw [lacks_cons] at lacks ⊢
      rcases lacks with here | inside | later
      · exact .inl (.inl here)
      · exact .inl (.inr (.inl inside))
      · exact (after later).imp_left fun lacks => .inr (.inr lacks)
  | attached named new found run _ within after =>
      rw [lacks_cons] at lacks ⊢
      rcases lacks with ⟨_, same⟩ | inside | later
      · exact .inl (.inl ⟨rfl, same⟩)
      · exact .inr ((within inside).elim (fun lacks => ⟨_, _, found, lacks⟩) fun known => known)
      · exact (after later).imp_left fun lacks => .inr (.inr lacks)
  | unknown named new absent _ after =>
      rw [lacks_cons] at lacks ⊢
      rcases lacks with here | inside | later
      · exact .inl (.inl here)
      · exact absurd inside lacks_nil
      · exact (after later).imp_left fun lacks => .inr (.inr lacks)
  | given named new filled run _ within after =>
      rw [lacks_cons] at lacks ⊢
      rcases lacks with ⟨bare, _⟩ | inside | later
      · exact absurd (run.eq_nil_iff.mp bare) filled
      · exact (within inside).imp_left fun lacks => .inr (.inl lacks)
      · exact (after later).imp_left fun lacks => .inr (.inr lacks)

end

section

variable {idOf : α → Option String} {answer : String → Except Failure (List (Tree α))}
  {queue asked requested : List String} {known : Members α} {forest : List (Tree α)}

/-- What an expanded forest lacks was asked for. -/
theorem Completes.asked_of_lacks
    (completes : Completes idOf answer (forestPending idOf forest) [] asked known) {id : String}
    (lacks : Lacks idOf (graftForest idOf known [] forest) id) : id ∈ asked := by
  have isKnown : known.lookup id ≠ none := by
    rcases (grafted idOf known [] forest).lacks lacks with before | ⟨other, members, found, inside⟩
    · exact completes.queued id (mem_forestPending.mpr before)
    · rcases completes.origin other members found with nothing | ⟨_, covered⟩
      · cases nothing
      · exact covered id inside
  exact (completes.added id isKnown).resolve_left (by simp)

/-- A queue of ids that were all asked for is worked off without a failure and asks for no others;
what is known in the end was known. -/
theorem Completes.again (completes : Completes idOf answer queue [] asked known)
    {later : List String} (old : ∀ id ∈ later, id ∈ asked) {result : Except Failure (Members α)}
    (run : Gathered idOf answer later [] requested result) :
    (∀ id ∈ requested, id ∈ asked) ∧ ∃ final, result = .ok final ∧
      ∀ id members, final.lookup id = some members → known.lookup id = some members := by
  have given : ∀ id ∈ asked, ∃ members, known.lookup id = some members ∧
      answer id = .ok members ∧ Covers idOf known members := by
    intro id member
    obtain ⟨members, found⟩ := Option.ne_none_iff_exists'.mp (completes.asked id member)
    exact ⟨members, found, (completes.origin id members found).resolve_left (by simp)⟩
  have inside : ∀ id ∈ requested, id ∈ asked := by
    apply run.forall_requested (P := (· ∈ asked)) old
    intro id members member answered other lacks
    obtain ⟨held, _, same, covered⟩ := given id member
    rw [answered] at same
    cases same
    exact (completes.added other (covered other lacks)).resolve_left (by simp)
  refine ⟨inside, ?_⟩
  cases result with
  | error failure =>
      obtain ⟨earlier, last, split, refused, _⟩ := run.fails
      obtain ⟨members, _, answered, _⟩ := given last (inside last (by simp [split]))
      rw [refused] at answered
      cases answered
  | ok final =>
      refine ⟨final, rfl, fun id members found => ?_⟩
      have isFinal : final.lookup id ≠ none := by simp [found]
      have member := inside id ((run.completes.added id isFinal).resolve_left (by simp))
      obtain ⟨held, isHeld, same, _⟩ := given id member
      obtain ⟨answered, _⟩ := (run.completes.origin id members found).resolve_left (by simp)
      rw [answered] at same
      cases same
      exact isHeld

end

/-- A second expansion that finds nothing new: the forest stays as it is, only ids are asked for
that were asked for before, and no more structures are found than before. -/
structure ExpansionRun.Repeats (second first : ExpansionRun α) : Prop where
  forest : second.forest = first.forest
  requested : ∀ id ∈ second.requested, id ∈ first.requested
  outcome : second.outcome = .ok .notNeeded ∨
    (second.outcome = .ok .unavailable ∧ first.outcome = .ok .unavailable) ∨
    ∃ count found, second.outcome = .ok (.expanded count) ∧
      first.outcome = .ok (.expanded found) ∧ count ≤ found

section

variable {source : Source} {platform : String} {structures : Structures α}
  {forest : List (Tree α)} {asked : List String} {known : Members α}

/-- Expanding a forest to which members were attached. -/
theorem repeats_grafted (supported : source.supports platform = true)
    (run : Gathered structures.idOf (source.answer platform structures)
      (forestPending structures.idOf forest) [] asked (.ok known)) :
    (expand source platform structures (graftForest structures.idOf known [] forest)).Repeats
      ⟨asked, .ok (.expanded known.length), graftForest structures.idOf known [] forest⟩ := by
  have completes := run.completes
  have settled : Settled structures.idOf known [] (graftForest structures.idOf known [] forest) :=
    (grafted structures.idOf known [] forest).settled
  have lacked : ∀ id ∈ forestPending structures.idOf (graftForest structures.idOf known [] forest),
      id ∈ asked :=
    fun id member => completes.asked_of_lacks (mem_forestPending.mp member)
  have derived := expanded source platform structures (graftForest structures.idOf known [] forest)
  generalize expand source platform structures (graftForest structures.idOf known [] forest) =
    second at derived ⊢
  cases derived with
  | complete _ => exact ⟨rfl, by simp, .inl rfl⟩
  | unavailable _ unsupported =>
      rw [supported] at unsupported
      cases unsupported
  | failed _ again =>
      obtain ⟨_, final, success, _⟩ := completes.again lacked again
      cases success
  | @grafted _ requested final _ again =>
      obtain ⟨inside, _, success, held⟩ := completes.again lacked again
      cases success
      refine ⟨(settled.of_fewer held).graftForest_eq, inside, .inr (.inr ⟨_, _, rfl, rfl, ?_⟩)⟩
      have fewer := (again.nodup.1.subperm inside).length_le
      rw [completes.length, again.completes.length]
      simpa using fewer

/-- Members are attached only where structures can be looked up. -/
theorem supports_of_expanded {count : Nat}
    (success : (expand source platform structures forest).outcome = .ok (.expanded count)) :
    source.supports platform = true := by
  by_contra unsupported
  rw [Bool.not_eq_true] at unsupported
  unfold expand at success
  dsimp only at success
  rw [unsupported] at success
  split at success
  · cases success
  · cases success

/-- Expansion is idempotent: where it succeeds, a second expansion with the same source succeeds,
leaves the forest as it is and finds nothing new. Structures that were cut short may be looked up
again. -/
theorem expand_again {outcome : Expansion}
    (success : (expand source platform structures forest).outcome = .ok outcome) :
    (expand source platform structures (expand source platform structures forest).forest).Repeats
      (expand source platform structures forest) := by
  have derived := expanded source platform structures forest
  have supported : ∀ count, (expand source platform structures forest).outcome =
      .ok (.expanded count) → source.supports platform = true := fun _ => supports_of_expanded
  generalize first : expand source platform structures forest = run at derived success supported ⊢
  cases derived with
  | complete _ =>
      change (expand source platform structures forest).Repeats _
      rw [first]
      exact ⟨rfl, by simp, .inl rfl⟩
  | unavailable _ _ =>
      change (expand source platform structures forest).Repeats _
      rw [first]
      exact ⟨rfl, by simp, .inr (.inl ⟨rfl, rfl⟩)⟩
  | failed _ _ => cases success
  | grafted _ run => exact repeats_grafted (supported _ rfl) run

end

/-- An order within an order is looked up again, and again left without members. -/
theorem expand_again_order :
    let first := expand (.memory true Structured.recursiveOrders) "taobao"
      (Structured.structures Taobao.keys) [Structured.order []]
    let second := expand (.memory true Structured.recursiveOrders) "taobao"
      (Structured.structures Taobao.keys) first.forest
    first.outcome = .ok (.expanded 1) ∧ second.requested = ["1"] ∧ second.Repeats first := by
  intro first second
  have success : first.outcome = .ok (.expanded 1) :=
    congrArg ExpansionRun.outcome Structured.expand_order
  have described : Described Structured.recursiveOrders (Structured.structures Taobao.keys) "1"
      [Structured.parentOrder []] := ⟨_, _, rfl, rfl, rfl⟩
  have forest : first.forest = [Structured.order [Structured.parentOrder []]] :=
    congrArg ExpansionRun.forest Structured.expand_order
  have requested : second.requested = ["1"] := by
    unfold second
    rw [forest, expand_one rfl described (by decide)]
  exact ⟨success, requested, expand_again success⟩

end ApiSchema
