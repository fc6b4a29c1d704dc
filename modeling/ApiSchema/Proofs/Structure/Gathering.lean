import ApiSchema.Proofs.Flatten.Derivation
import ApiSchema.Structure.Expansion

/-!
Looking structures up one after another. An id of the queue is passed over if its structure is known;
otherwise it is asked for, and what its members lack joins the queue. Whatever the answers are, no id
is asked for twice, and a failure is that of the id asked for last.
-/

set_option autoImplicit false

namespace ApiSchema

open ApiSchema.Json

variable {α : Type}

/-- Whether a field of the forest, at any depth, names the structure and has no members. -/
def Lacks (idOf : α → Option String) (forest : List (Tree α)) (id : String) : Prop :=
  ∃ tree ∈ forestNodes forest, tree.children = [] ∧ idOf tree.label = some id

theorem lacks_nil {idOf : α → Option String} {id : String} : ¬ Lacks idOf [] id := by
  simp [Lacks, forestNodes]

theorem lacks_cons {idOf : α → Option String} {label : α} {children rest : List (Tree α)}
    {id : String} :
    Lacks idOf (.node label children :: rest) id ↔
      (children = [] ∧ idOf label = some id) ∨ Lacks idOf children id ∨ Lacks idOf rest id := by
  simp only [Lacks, forestNodes_cons, List.mem_cons, List.mem_append, or_and_right, exists_or,
    exists_eq_left, Tree.children, Tree.label]

/-- The ids that a forest lacks are those of its fields without members. -/
theorem mem_forestPending {idOf : α → Option String} {forest : List (Tree α)} {id : String} :
    id ∈ forestPending idOf forest ↔ Lacks idOf forest id := by
  match forest with
  | [] => simp [forestPending, lacks_nil]
  | .node label children :: rest =>
      have below : id ∈ forestPending idOf children ↔ Lacks idOf children id := mem_forestPending
      have later : id ∈ forestPending idOf rest ↔ Lacks idOf rest id := mem_forestPending
      have here : id ∈ (if children.isEmpty then (idOf label).toList else []) ↔
          children = [] ∧ idOf label = some id := by
        cases children <;> simp
      rw [forestPending, Tree.pending, List.append_assoc, List.mem_append, List.mem_append, here,
        below, later, lacks_cons]
termination_by sizeOf forest

/-- The members of a structure, or why there are none. -/
def Source.answer (source : Source) (platform : String) (structures : Structures α) (id : String) :
    Except Failure (List (Tree α)) :=
  match source.fetch platform id with
  | .error failure => .error failure
  | .ok payload => structures.members id payload

/-- How a queue is worked off, given the answers: the ids asked for, and the structures known in the
end or the failure. -/
inductive Gathered (idOf : α → Option String) (answer : String → Except Failure (List (Tree α))) :
    List String → Members α → List String → Except Failure (Members α) → Prop
  | done (known : Members α) : Gathered idOf answer [] known [] (.ok known)
  | passed {id : String} {rest requested : List String} {known : Members α}
      {result : Except Failure (Members α)} (old : known.lookup id ≠ none)
      (later : Gathered idOf answer rest known requested result) :
      Gathered idOf answer (id :: rest) known requested result
  | failed {id : String} {rest : List String} {known : Members α} {failure : Failure}
      (new : known.lookup id = none) (refused : answer id = .error failure) :
      Gathered idOf answer (id :: rest) known [id] (.error failure)
  | answered {id : String} {rest requested : List String} {known : Members α}
      {members : List (Tree α)} {result : Except Failure (Members α)}
      (new : known.lookup id = none) (given : answer id = .ok members)
      (later : Gathered idOf answer (rest ++ forestPending idOf members) ((id, members) :: known)
        requested result) :
      Gathered idOf answer (id :: rest) known (id :: requested) result

section

variable {source : Source} {platform : String} {structures : Structures α} {id : String}
  {rest : List String} {known : Members α}

theorem gather_passed (old : known.lookup id ≠ none) :
    gather source platform structures (id :: rest) known =
      gather source platform structures rest known := by
  have isOld : ¬ (known.lookup id).isNone = true := by simpa using old
  rw [gather, dif_neg isOld]

theorem gather_known {queue : List String} (old : ∀ id ∈ queue, known.lookup id ≠ none) :
    gather source platform structures queue known = .ok known := by
  induction queue with
  | nil => rw [gather]
  | cons id rest ih =>
      rw [List.forall_mem_cons] at old
      rw [gather_passed old.1, ih old.2]

theorem gather_failed (new : known.lookup id = none) {failure : Failure}
    (refused : source.answer platform structures id = .error failure) :
    gather source platform structures (id :: rest) known = .asking id (.fail failure) := by
  have isNew : (known.lookup id).isNone = true := by simp [new]
  unfold Source.answer at refused
  rw [gather, dif_pos isNew]
  split
  · rename_i fetched
    rw [fetched] at refused
    cases refused
    rfl
  · rename_i payload fetched
    rw [fetched] at refused
    dsimp only at refused
    rw [refused]

theorem gather_answered (new : known.lookup id = none) {members : List (Tree α)}
    (given : source.answer platform structures id = .ok members) :
    gather source platform structures (id :: rest) known =
      .asking id (gather source platform structures
        (rest ++ forestPending structures.idOf members) ((id, members) :: known)) := by
  have isNew : (known.lookup id).isNone = true := by simp [new]
  unfold Source.answer at given
  rw [gather, dif_pos isNew]
  split
  · rename_i fetched
    rw [fetched] at given
    cases given
  · rename_i payload fetched
    rw [fetched] at given
    dsimp only at given
    rw [given]

end

/-- What is gathered is derived by these rules. -/
theorem gathered (source : Source) (platform : String) (structures : Structures α)
    (queue : List String) (known : Members α) :
    Gathered structures.idOf (source.answer platform structures) queue known
      (gather source platform structures queue known).requested
      (gather source platform structures queue known).result := by
  induction queue, known using gather.induct source platform structures with
  | case1 known =>
      rw [gather]
      exact .done known
  | case2 known id rest new failure refused =>
      have unknown : known.lookup id = none := by simpa using new
      have answered : source.answer platform structures id = .error failure := by
        simp only [Source.answer, refused]
      rw [gather_failed unknown answered]
      exact .failed unknown answered
  | case3 known id rest new payload fetched failure refused =>
      have unknown : known.lookup id = none := by simpa using new
      have answered : source.answer platform structures id = .error failure := by
        simp only [Source.answer, fetched, refused]
      rw [gather_failed unknown answered]
      exact .failed unknown answered
  | case4 known id rest new payload fetched members given ih =>
      have unknown : known.lookup id = none := by simpa using new
      have answered : source.answer platform structures id = .ok members := by
        simp only [Source.answer, fetched, given]
      rw [gather_answered unknown answered]
      exact .answered unknown answered ih
  | case5 known id rest old ih =>
      have isKnown : known.lookup id ≠ none := by simpa using old
      rw [gather_passed isKnown]
      exact .passed isKnown ih

theorem lookup_cons_eq_none {id other : String} {members : List (Tree α)} {known : Members α} :
    List.lookup other ((id, members) :: known) = none ↔ other ≠ id ∧ known.lookup other = none := by
  rw [lookup_cons]
  split <;> simp [*]

/-- Whether every structure that the forest lacks is known. -/
def Covers (idOf : α → Option String) (known : Members α) (forest : List (Tree α)) : Prop :=
  ∀ id, Lacks idOf forest id → known.lookup id ≠ none

/-- What is known in the end: what was known before, and the answers to what was asked for. The
structures of the queue are known, and so are those that the answers lack. -/
structure Completes (idOf : α → Option String) (answer : String → Except Failure (List (Tree α)))
    (queue : List String) (known : Members α) (requested : List String) (final : Members α) :
    Prop where
  kept : ∀ id members, known.lookup id = some members → final.lookup id = some members
  origin : ∀ id members, final.lookup id = some members → known.lookup id = some members ∨
    (answer id = .ok members ∧ Covers idOf final members)
  queued : ∀ id ∈ queue, final.lookup id ≠ none
  asked : ∀ id ∈ requested, final.lookup id ≠ none
  added : ∀ id, final.lookup id ≠ none → known.lookup id ≠ none ∨ id ∈ requested
  length : final.length = known.length + requested.length

namespace Gathered

variable {idOf : α → Option String} {answer : String → Except Failure (List (Tree α))}
  {queue requested : List String} {known final : Members α} {result : Except Failure (Members α)}

/-- No id is asked for twice, and none that is known. -/
theorem nodup (run : Gathered idOf answer queue known requested result) :
    requested.Nodup ∧ ∀ id ∈ requested, known.lookup id = none := by
  induction run with
  | done known => simp
  | passed _ _ ih => exact ih
  | @failed id rest known failure new _ =>
      rw [List.forall_mem_singleton]
      exact ⟨List.nodup_singleton id, new⟩
  | @answered id rest requested known members result new _ _ ih =>
      obtain ⟨distinct, fresh⟩ := ih
      have other : ∀ name ∈ requested, name ≠ id ∧ known.lookup name = none :=
        fun name member => lookup_cons_eq_none.mp (fresh name member)
      have absent : id ∉ requested := fun member => (other id member).1 rfl
      rw [List.nodup_cons, List.forall_mem_cons]
      exact ⟨⟨absent, distinct⟩, new, fun name member => (other name member).2⟩

/-- What holds of the queue, and of what the members of a structure lack if it holds of the
structure, holds of everything that is asked for. -/
theorem forall_requested {P : String → Prop}
    (run : Gathered idOf answer queue known requested result) (queued : ∀ id ∈ queue, P id)
    (closed : ∀ id members, P id → answer id = .ok members → ∀ other, Lacks idOf members other →
      P other) : ∀ id ∈ requested, P id := by
  induction run with
  | done known => simp
  | passed _ _ ih =>
      rw [List.forall_mem_cons] at queued
      exact ih queued.2
  | failed _ _ =>
      rw [List.forall_mem_cons] at queued
      simpa using queued.1
  | @answered id rest requested known members result _ given _ ih =>
      rw [List.forall_mem_cons] at queued
      have lacked : ∀ other ∈ forestPending idOf members, P other := fun other member =>
        closed id members queued.1 given other (mem_forestPending.mp member)
      rw [List.forall_mem_cons]
      exact ⟨queued.1, ih (List.forall_mem_append.mpr ⟨queued.2, lacked⟩)⟩

/-- Where nothing fails, everything that is needed is known in the end. -/
theorem completes (run : Gathered idOf answer queue known requested (.ok final)) :
    Completes idOf answer queue known requested final := by
  generalize outcome : Except.ok final = result at run
  induction run with
  | done known =>
      cases outcome
      exact ⟨fun _ _ held => held, fun _ _ held => .inl held, by simp, by simp,
        fun _ held => .inl held, rfl⟩
  | @passed id rest requested known result old _ ih =>
      have later := ih outcome
      have here : final.lookup id ≠ none := by
        obtain ⟨members, held⟩ := Option.ne_none_iff_exists'.mp old
        simp [later.kept id members held]
      exact ⟨later.kept, later.origin, List.forall_mem_cons.mpr ⟨here, later.queued⟩, later.asked,
        later.added, later.length⟩
  | failed _ _ => cases outcome
  | @answered id rest requested known members result new given _ ih =>
      have later := ih outcome
      have here : final.lookup id = some members := later.kept id members List.lookup_cons_self
      have covered : Covers idOf final members := fun other lacked =>
        later.queued other (List.mem_append_right _ (mem_forestPending.mpr lacked))
      refine ⟨?_, ?_, ?_, ?_, ?_, ?_⟩
      · intro other held found
        have different : other ≠ id := by
          rintro rfl
          rw [new] at found
          cases found
        exact later.kept other held (by rw [lookup_cons, if_neg different, found])
      · intro other held found
        by_cases same : other = id
        · subst same
          rw [here] at found
          cases found
          exact .inr ⟨given, covered⟩
        · have before := later.origin other held found
          rw [lookup_cons, if_neg same] at before
          exact before
      · rw [List.forall_mem_cons]
        refine ⟨by simp [here], fun other member => ?_⟩
        exact later.queued other (List.mem_append_left _ member)
      · rw [List.forall_mem_cons]
        exact ⟨by simp [here], later.asked⟩
      · intro other found
        rcases later.added other found with before | asked
        · by_cases same : other = id
          · exact .inr (by simp [same])
          · exact .inl (by rwa [lookup_cons, if_neg same] at before)
        · exact .inr (List.mem_cons_of_mem _ asked)
      · rw [later.length, List.length_cons, List.length_cons]
        omega

/-- A failure is that of the id asked for last; those before were answered. -/
theorem fails {failure : Failure}
    (run : Gathered idOf answer queue known requested (.error failure)) :
    ∃ earlier last, requested = earlier ++ [last] ∧ answer last = .error failure ∧
      ∀ id ∈ earlier, ∃ members, answer id = .ok members := by
  generalize outcome : Except.error failure = result at run
  induction run with
  | done known => cases outcome
  | passed _ _ ih => exact ih outcome
  | @failed id rest known refusal _ refused =>
      cases outcome
      exact ⟨[], id, rfl, refused, by simp⟩
  | @answered id rest requested known members result _ given _ ih =>
      obtain ⟨earlier, last, split, refused, before⟩ := ih outcome
      refine ⟨id :: earlier, last, by rw [split, List.cons_append], refused, ?_⟩
      rw [List.forall_mem_cons]
      exact ⟨⟨members, given⟩, before⟩

end Gathered

/-- How a forest is expanded: nothing is lacking, or nothing can be looked up, or looking up fails, or
the members that were looked up are attached. -/
inductive Expanded (source : Source) (platform : String) (structures : Structures α)
    (forest : List (Tree α)) : ExpansionRun α → Prop
  | complete (nothing : ∀ id, ¬ Lacks structures.idOf forest id) :
      Expanded source platform structures forest ⟨[], .ok .notNeeded, forest⟩
  | unavailable {id : String} (lacks : Lacks structures.idOf forest id)
      (unsupported : source.supports platform = false) :
      Expanded source platform structures forest ⟨[], .ok .unavailable, forest⟩
  | failed {id : String} {requested : List String} {failure : Failure}
      (lacks : Lacks structures.idOf forest id)
      (run : Gathered structures.idOf (source.answer platform structures)
        (forestPending structures.idOf forest) [] requested (.error failure)) :
      Expanded source platform structures forest ⟨requested, .error failure, forest⟩
  | grafted {id : String} {requested : List String} {known : Members α}
      (lacks : Lacks structures.idOf forest id)
      (run : Gathered structures.idOf (source.answer platform structures)
        (forestPending structures.idOf forest) [] requested (.ok known)) :
      Expanded source platform structures forest
        ⟨requested, .ok (.expanded known.length), graftForest structures.idOf known [] forest⟩

/-- An expansion is derived by these rules. -/
theorem expanded (source : Source) (platform : String) (structures : Structures α)
    (forest : List (Tree α)) :
    Expanded source platform structures forest (expand source platform structures forest) := by
  have run := gathered source platform structures (forestPending structures.idOf forest) []
  unfold expand
  dsimp only
  split
  · rename_i empty
    rw [List.isEmpty_iff] at empty
    refine .complete fun id lacks => ?_
    rw [← mem_forestPending, empty] at lacks
    cases lacks
  · rename_i filled
    obtain ⟨id, member⟩ := List.exists_mem_of_ne_nil _ (by simpa using filled)
    have lacks : Lacks structures.idOf forest id := mem_forestPending.mp member
    split
    · rename_i unsupported
      exact .unavailable lacks (by simpa using unsupported)
    · split
      · rename_i failure failed
        rw [failed] at run
        exact .failed lacks run
      · rename_i known success
        rw [success] at run
        exact .grafted lacks run

end ApiSchema
