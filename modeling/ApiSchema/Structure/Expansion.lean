import ApiSchema.Structure.Source
import ApiSchema.Tree

/-!
Expansion of structures. Each field that names a structure and has no members is given the members
of that structure. Structures are looked up in the order in which fields name them, each once; a
structure within itself stays as it is.
-/

set_option autoImplicit false

namespace ApiSchema

open ApiSchema.Json

/-- The id of a structure as payloads carry it: a number other than zero, or a text that is neither
empty nor `0`. -/
def structureId? : Option Value → Option String
  | some (.number value) => if value.isZero then none else some value.text
  | some (.string text) => if text.isEmpty || text == "0" then none else some text
  | _ => none

inductive Expansion where
  | notNeeded
  | expanded (count : Nat)
  | unavailable
  deriving DecidableEq

/-- What expansion needs to know of a platform: the structure that a field names, where a payload
has the members of its structure, and how members are read. -/
structure Structures (α : Type) where
  idOf : α → Option String
  locate : Value → Option Value
  decode : Decoder (List (Tree α))

abbrev Members (α : Type) := List (String × List (Tree α))

section

variable {α : Type}

mutual

/-- The ids of the structures that a tree lacks, in reading order. -/
def Tree.pending (idOf : α → Option String) : Tree α → List String
  | .node label children =>
      (if children.isEmpty then (idOf label).toList else []) ++ forestPending idOf children

/-- The ids of the structures that a forest lacks, in reading order. -/
def forestPending (idOf : α → Option String) : List (Tree α) → List String
  | [] => []
  | tree :: rest => tree.pending idOf ++ forestPending idOf rest

end

def Structures.members (structures : Structures α) (id : String) (payload : Value) :
    Except Failure (List (Tree α)) :=
  match structures.locate payload with
  | none => .error (.lookup id "payload carries no structure members")
  | some raw => Failure.ofJson (decodeValue structures.decode raw)

/-- The ids of the structures that the members in a document lack. -/
def Structures.lacking (structures : Structures α) (payload : Value) : List String :=
  match (structures.locate payload).map (decodeValue structures.decode) with
  | some (.ok members) => forestPending structures.idOf members
  | _ => []

theorem Structures.lacking_of_members {structures : Structures α} {id : String} {payload : Value}
    {members : List (Tree α)} (read : structures.members id payload = .ok members) :
    structures.lacking payload = forestPending structures.idOf members := by
  unfold Structures.members at read
  unfold lacking
  cases located : structures.locate payload with
  | none =>
      rw [located] at read
      cases read
  | some raw =>
      rw [located] at read
      cases decoded : decodeValue structures.decode raw with
      | error error =>
          simp only [decoded] at read
          cases read
      | ok found =>
          simp only [decoded] at read
          cases read
          simp only [Option.map_some, decoded]

def Source.lacking (source : Source) (structures : Structures α) : List String :=
  source.documents.flatMap structures.lacking

/-- The ids that may still be asked for: those of a queue, and those that documents lack. -/
def Source.unasked (source : Source) (structures : Structures α) (queue : List String)
    (known : Members α) : List String :=
  (queue.filter (fun id => !(source.lacking structures).contains id) ++
    source.lacking structures).filter fun id => (known.lookup id).isNone

/-- One more structure is known, and is no longer among those that are not. -/
theorem filter_unknown_cons (known : Members α) (id : String) (members : List (Tree α))
    (ids : List String) :
    ids.filter (fun other => (List.lookup other ((id, members) :: known)).isNone) =
      (ids.filter fun other => (known.lookup other).isNone).filter fun other => other != id := by
  rw [List.filter_filter]
  apply List.filter_congr
  intro other _
  rw [List.lookup_cons]
  by_cases same : other == id <;> simp [same, bne]

section

variable (source : Source) (structures : Structures α) {id : String} {rest : List String}
  {known : Members α}

theorem Source.unasked_known (old : ¬ (known.lookup id).isNone = true) :
    source.unasked structures (id :: rest) known = source.unasked structures rest known := by
  unfold unasked
  rw [List.filter_append, List.filter_append, List.filter_cons]
  split
  · rw [List.filter_cons_of_neg (by exact old)]
  · rfl

/-- Once an id is answered it is not asked for again, and what the answer lacks was expected. -/
theorem Source.unasked_answered {members : List (Tree α)}
    (expected : ∀ other ∈ forestPending structures.idOf members,
      other ∈ source.lacking structures) :
    source.unasked structures (rest ++ forestPending structures.idOf members)
        ((id, members) :: known) =
      (source.unasked structures (id :: rest) known).filter fun other => other != id := by
  have noneLeft : (forestPending structures.idOf members).filter (fun other =>
      !(source.lacking structures).contains other) = [] := by
    rw [List.filter_eq_nil_iff]
    intro other member
    simpa using expected other member
  have dropped (ids : List String) :
      ((id :: ids).filter fun other => (known.lookup other).isNone).filter (fun other =>
          other != id) =
        (ids.filter fun other => (known.lookup other).isNone).filter fun other => other != id := by
    rw [List.filter_cons]
    split
    · rw [List.filter_cons_of_neg (by simp)]
    · rfl
  unfold unasked
  rw [filter_unknown_cons, List.filter_append rest, noneLeft, List.append_nil, List.filter_cons]
  split
  · rw [List.cons_append, dropped]
  · rfl

theorem Source.unasked_length_lt (new : (known.lookup id).isNone = true) {payload : Value}
    {members : List (Tree α)} (held : payload ∈ source.documents)
    (read : structures.members id payload = .ok members) :
    (source.unasked structures (rest ++ forestPending structures.idOf members)
      ((id, members) :: known)).length < (source.unasked structures (id :: rest) known).length := by
  have expected : ∀ other ∈ forestPending structures.idOf members,
      other ∈ source.lacking structures := by
    intro other lacked
    rw [← Structures.lacking_of_members read] at lacked
    exact List.mem_flatMap.2 ⟨payload, held, lacked⟩
  have asked : id ∈ source.unasked structures (id :: rest) known := by
    refine List.mem_filter.2 ⟨List.mem_append.2 ?_, new⟩
    by_cases lacked : id ∈ source.lacking structures
    · exact .inr lacked
    · exact .inl (List.mem_filter.2 ⟨List.mem_cons_self, by simpa using lacked⟩)
  rw [source.unasked_answered structures expected]
  exact List.length_filter_lt_length_iff_exists.2 ⟨id, asked, by simp⟩

end

/-- Looks up the structures of a queue that are not known, and those that their members lack. -/
def gather (source : Source) (platform : String) (structures : Structures α)
    (queue : List String) (known : Members α) : Lookup (Members α) :=
  match queue with
  | [] => .ok known
  | id :: rest =>
      if _ : (known.lookup id).isNone then
        match _ : source.fetch platform id with
        | .error failure => .asking id (.fail failure)
        | .ok payload =>
            match _ : structures.members id payload with
            | .error failure => .asking id (.fail failure)
            | .ok members =>
                .asking id (gather source platform structures
                  (rest ++ forestPending structures.idOf members) ((id, members) :: known))
      else gather source platform structures rest known
termination_by ((source.unasked structures queue known).length, queue.length)
decreasing_by
  · exact Prod.Lex.left _ _ (source.unasked_length_lt structures (by assumption)
      (source.mem_documents platform id payload (by assumption)) (by assumption))
  · rw [source.unasked_known structures (by assumption)]
    exact Prod.Lex.right _ (by simp)

/-- The structures whose members may still be attached below a chain of ids. -/
def unattached (known : Members α) (chain : List String) : Members α :=
  known.filter fun entry => !chain.contains entry.1

theorem unattached_cons (known : Members α) (chain : List String) (id : String) :
    unattached known (id :: chain) =
      (unattached known chain).filter fun entry => entry.1 != id := by
  unfold unattached
  rw [List.filter_filter]
  apply List.filter_congr
  intro entry _
  rw [List.contains_cons, Bool.not_or]
  rfl

theorem unattached_cons_le (known : Members α) (chain : List String) (id : String) :
    (unattached known (id :: chain)).length ≤ (unattached known chain).length := by
  rw [unattached_cons]
  exact List.length_filter_le _ _

theorem unattached_cons_lt (known : Members α) (chain : List String) (id : String)
    (members : List (Tree α)) (found : known.lookup id = some members)
    (fresh : chain.contains id = false) :
    (unattached known (id :: chain)).length < (unattached known chain).length := by
  rw [unattached_cons]
  apply List.length_filter_lt_length_iff_exists.2
  exact ⟨(id, members), List.mem_filter.2 ⟨mem_of_lookup found, by rw [fresh]; rfl⟩, by simp⟩

mutual

/-- The tree with members attached, below fields that name the structures of the chain. -/
def Tree.graft (idOf : α → Option String) (known : Members α) (chain : List String)
    (tree : Tree α) : Tree α :=
  match tree with
  | .node label children =>
      match idOf label with
      | none => .node label (graftForest idOf known chain children)
      | some id =>
          if _ : chain.contains id then .node label children
          else
            match children with
            | [] =>
                match _ : known.lookup id with
                | some members => .node label (graftForest idOf known (id :: chain) members)
                | none => .node label []
            | first :: rest =>
                .node label (graftForest idOf known (id :: chain) (first :: rest))
termination_by ((unattached known chain).length, sizeOf tree)
decreasing_by
  · exact Prod.Lex.right _ (by simp only [Tree.node.sizeOf_spec]; omega)
  · exact Prod.Lex.left _ _
      (unattached_cons_lt known chain id members (by assumption) (by simp_all))
  · rcases Nat.lt_or_eq_of_le (unattached_cons_le known chain id) with less | same
    · exact Prod.Lex.left _ _ less
    · rw [same]
      exact Prod.Lex.right _ (by simp only [Tree.node.sizeOf_spec]; omega)

def graftForest (idOf : α → Option String) (known : Members α) (chain : List String)
    (forest : List (Tree α)) : List (Tree α) :=
  match forest with
  | [] => []
  | tree :: rest => tree.graft idOf known chain :: graftForest idOf known chain rest
termination_by ((unattached known chain).length, sizeOf forest)
decreasing_by
  · exact Prod.Lex.right _ (by simp only [List.cons.sizeOf_spec]; omega)
  · exact Prod.Lex.right _ (by simp only [List.cons.sizeOf_spec]; omega)

end

/-- An expansion: the ids asked for, how it ended, and the forest, which a failure leaves as it
was. -/
structure ExpansionRun (α : Type) where
  requested : List String
  outcome : Except Failure Expansion
  forest : List (Tree α)

def expand (source : Source) (platform : String) (structures : Structures α)
    (forest : List (Tree α)) : ExpansionRun α :=
  let queue := forestPending structures.idOf forest
  if queue.isEmpty then ⟨[], .ok .notNeeded, forest⟩
  else if !source.supports platform then ⟨[], .ok .unavailable, forest⟩
  else
    let gathered := gather source platform structures queue []
    match gathered.result with
    | .error failure => ⟨gathered.requested, .error failure, forest⟩
    | .ok known =>
        ⟨gathered.requested, .ok (.expanded known.length),
          graftForest structures.idOf known [] forest⟩

/-- The outcome and the forest of an expansion, as a step of a longer computation. -/
def ExpansionRun.lookup (run : ExpansionRun α) : Lookup (Expansion × List (Tree α)) :=
  ⟨run.requested, run.outcome.map fun outcome => (outcome, run.forest)⟩

end

end ApiSchema
