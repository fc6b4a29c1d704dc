import ApiSchema.Proofs.Structure.Needed
import ApiSchema.Proofs.Tree

/-!
What an expansion leaves without members. Members are attached along each way down from the root, but
not at a field that names the structure of a field above it, nor anywhere below such a field: fields
that were given there stay as they are, although their structures were looked up.
-/

set_option autoImplicit false

namespace ApiSchema

open ApiSchema.Json

variable {α : Type}

/-- How known members are attached to a forest, below fields that name the structures of the chain. -/
inductive Grafted (idOf : α → Option String) (known : Members α) :
    List String → List (Tree α) → List (Tree α) → Prop
  | nil (chain : List String) : Grafted idOf known chain [] []
  | plain {chain : List String} {label : α} {children rest inside later : List (Tree α)}
      (unnamed : idOf label = none) (within : Grafted idOf known chain children inside)
      (after : Grafted idOf known chain rest later) :
      Grafted idOf known chain (.node label children :: rest) (.node label inside :: later)
  | repeated {chain : List String} {label : α} {id : String} {children rest later : List (Tree α)}
      (named : idOf label = some id) (above : id ∈ chain)
      (after : Grafted idOf known chain rest later) :
      Grafted idOf known chain (.node label children :: rest) (.node label children :: later)
  | attached {chain : List String} {label : α} {id : String}
      {members rest inside later : List (Tree α)}
      (named : idOf label = some id) (new : id ∉ chain) (found : known.lookup id = some members)
      (within : Grafted idOf known (id :: chain) members inside)
      (after : Grafted idOf known chain rest later) :
      Grafted idOf known chain (.node label [] :: rest) (.node label inside :: later)
  | unknown {chain : List String} {label : α} {id : String} {rest later : List (Tree α)}
      (named : idOf label = some id) (new : id ∉ chain) (absent : known.lookup id = none)
      (after : Grafted idOf known chain rest later) :
      Grafted idOf known chain (.node label [] :: rest) (.node label [] :: later)
  | given {chain : List String} {label : α} {id : String}
      {children rest inside later : List (Tree α)}
      (named : idOf label = some id) (new : id ∉ chain) (filled : children ≠ [])
      (within : Grafted idOf known (id :: chain) children inside)
      (after : Grafted idOf known chain rest later) :
      Grafted idOf known chain (.node label children :: rest) (.node label inside :: later)

section

variable {idOf : α → Option String} {known : Members α} {chain : List String} {label : α}
  {id : String}

theorem graft_plain (unnamed : idOf label = none) (children : List (Tree α)) :
    (Tree.node label children).graft idOf known chain =
      .node label (graftForest idOf known chain children) := by
  rw [Tree.graft]
  split
  · rfl
  · rename_i named
    cases unnamed.symm.trans named

theorem graft_repeated (named : idOf label = some id) (above : id ∈ chain)
    (children : List (Tree α)) :
    (Tree.node label children).graft idOf known chain = .node label children := by
  rw [Tree.graft]
  split
  · rename_i unnamed
    cases unnamed.symm.trans named
  · rename_i other same
    cases same.symm.trans named
    rw [dif_pos (List.contains_iff_mem.mpr above)]

theorem graft_empty (named : idOf label = some id) (new : id ∉ chain) :
    (Tree.node label []).graft idOf known chain =
      .node label (graftForest idOf known (id :: chain) ((known.lookup id).getD [])) := by
  have outside : ¬ chain.contains id = true := mt List.contains_iff_mem.mp new
  rw [Tree.graft]
  split
  · rename_i unnamed
    cases unnamed.symm.trans named
  · rename_i other same
    cases same.symm.trans named
    rw [dif_neg outside]
    dsimp only
    split
    · rename_i members found
      rw [found, Option.getD_some]
    · rename_i absent
      rw [absent, Option.getD_none, graftForest]

theorem graft_given (named : idOf label = some id) (new : id ∉ chain) (first : Tree α)
    (rest : List (Tree α)) :
    (Tree.node label (first :: rest)).graft idOf known chain =
      .node label (graftForest idOf known (id :: chain) (first :: rest)) := by
  have outside : ¬ chain.contains id = true := mt List.contains_iff_mem.mp new
  rw [Tree.graft]
  split
  · rename_i unnamed
    cases unnamed.symm.trans named
  · rename_i other same
    cases same.symm.trans named
    rw [dif_neg outside]

end

/-- What is attached is derived by these rules. -/
theorem grafted (idOf : α → Option String) (known : Members α) (chain : List String)
    (forest : List (Tree α)) :
    Grafted idOf known chain forest (graftForest idOf known chain forest) := by
  match forest with
  | [] =>
      rw [graftForest]
      exact .nil chain
  | .node label children :: rest =>
      have after := grafted idOf known chain rest
      rw [graftForest]
      cases named : idOf label with
      | none =>
          rw [graft_plain named]
          exact .plain named (grafted idOf known chain children) after
      | some id =>
          by_cases above : id ∈ chain
          · rw [graft_repeated named above]
            exact .repeated named above after
          · cases children with
            | nil =>
                rw [graft_empty named above]
                cases found : known.lookup id with
                | some members =>
                    exact .attached named above found (grafted idOf known (id :: chain) members)
                      after
                | none =>
                    rw [Option.getD_none, graftForest]
                    exact .unknown named above found after
            | cons first others =>
                rw [graft_given named above]
                exact .given named above (List.cons_ne_nil first others)
                  (grafted idOf known (id :: chain) (first :: others)) after
termination_by ((unattached known chain).length, sizeOf forest)
decreasing_by
  · exact .right _ (by simp only [List.cons.sizeOf_spec]; omega)
  · exact .right _ (by simp only [List.cons.sizeOf_spec, Tree.node.sizeOf_spec]; omega)
  · exact .left _ _ (unattached_cons_lt known chain id members found (by simpa using above))
  · rcases Nat.lt_or_eq_of_le (unattached_cons_le known chain id) with less | same
    · exact .left _ _ less
    · rw [same]
      exact .right _ (by simp only [List.cons.sizeOf_spec, Tree.node.sizeOf_spec]; omega)

theorem Grafted.eq_nil_iff {idOf : α → Option String} {known : Members α} {chain : List String}
    {forest result : List (Tree α)} (run : Grafted idOf known chain forest result) :
    result = [] ↔ forest = [] := by
  cases run <;> simp

section

variable {idOf : α → Option String} {known : Members α}

theorem covers_cons {label : α} {children rest : List (Tree α)} :
    Covers idOf known (.node label children :: rest) ↔
      (∀ id, children = [] → idOf label = some id → known.lookup id ≠ none) ∧
        Covers idOf known children ∧ Covers idOf known rest := by
  simp only [Covers, lacks_cons, or_imp, forall_and, and_imp]

/-- A field that is left without members repeats a structure above it, or its structure has none,
unless a field above it is a repetition already. -/
theorem Grafted.resolved {chain : List String} {forest result : List (Tree α)}
    (run : Grafted idOf known chain forest result)
    (closed : ∀ id members, known.lookup id = some members → Covers idOf known members)
    (covered : Covers idOf known forest) {above : List α} {tree : Tree α} {id : String}
    (below : Below result above tree) (named : idOf tree.label = some id)
    (bare : tree.children = []) (distinct : (above.filterMap idOf ++ chain).Nodup) :
    id ∈ above.filterMap idOf ++ chain ∨ known.lookup id = some [] := by
  induction run generalizing above with
  | nil chain => exact absurd below not_below_nil
  | @plain chain label children rest inside later unnamed _ _ within after =>
      obtain ⟨_, coveredInside, coveredRest⟩ := covers_cons.mp covered
      rcases below_cons.mp below with ⟨_, rfl⟩ | ⟨others, rfl, inner⟩ | beside
      · rw [Tree.label, unnamed] at named
        cases named
      · rw [List.filterMap_cons_none unnamed] at distinct ⊢
        exact within coveredInside inner distinct
      · exact after coveredRest beside distinct
  | @repeated chain label other children rest later named' outer _ after =>
      obtain ⟨_, _, coveredRest⟩ := covers_cons.mp covered
      rcases below_cons.mp below with ⟨rfl, rfl⟩ | ⟨others, rfl, inner⟩ | beside
      · rw [Tree.label, named'] at named
        cases named
        exact .inl outer
      · rw [List.filterMap_cons_some named', List.cons_append, List.nodup_cons] at distinct
        exact absurd (List.mem_append_right _ outer) distinct.1
      · exact after coveredRest beside distinct
  | @attached chain label other members rest inside later named' new found run _ within after =>
      obtain ⟨_, _, coveredRest⟩ := covers_cons.mp covered
      rcases below_cons.mp below with ⟨rfl, rfl⟩ | ⟨others, rfl, inner⟩ | beside
      · rw [Tree.label, named'] at named
        cases named
        rw [run.eq_nil_iff.mp bare] at found
        exact .inr found
      · rw [List.filterMap_cons_some named', List.cons_append] at distinct ⊢
        rw [← List.perm_middle.nodup_iff] at distinct
        rw [← List.perm_middle.mem_iff]
        exact within (closed _ _ found) inner distinct
      · exact after coveredRest beside distinct
  | @unknown chain label other rest later named' new absent _ after =>
      have known' := (covers_cons.mp covered).1 other rfl named'
      exact absurd absent known'
  | @given chain label other children rest inside later named' new filled run _ within after =>
      obtain ⟨_, coveredInside, coveredRest⟩ := covers_cons.mp covered
      rcases below_cons.mp below with ⟨rfl, rfl⟩ | ⟨others, rfl, inner⟩ | beside
      · exact absurd (run.eq_nil_iff.mp bare) filled
      · rw [List.filterMap_cons_some named', List.cons_append] at distinct ⊢
        rw [← List.perm_middle.nodup_iff] at distinct
        rw [← List.perm_middle.mem_iff]
        exact within coveredInside inner distinct
      · exact after coveredRest beside distinct

end

section

variable {supported : Bool} {captured : List (String × Value)} {platform : String}
  {structures : Structures α} {forest : List (Tree α)}

/-- A field that an expansion leaves without members names the structure of a field above it, or one
that was looked up and has no members, if the fields above it name different structures. -/
theorem resolved_expand {count : Nat}
    (success : (expand (.memory supported captured) platform structures forest).outcome =
      .ok (.expanded count))
    {above : List α} {tree : Tree α} {id : String}
    (below : Below (expand (.memory supported captured) platform structures forest).forest above
      tree)
    (named : structures.idOf tree.label = some id) (bare : tree.children = [])
    (distinct : (above.filterMap structures.idOf).Nodup) :
    id ∈ above.filterMap structures.idOf ∨
      (id ∈ (expand (.memory supported captured) platform structures forest).requested ∧
        Described captured structures id []) := by
  have derived := expanded (.memory supported captured) platform structures forest
  revert success below derived
  generalize expand (.memory supported captured) platform structures forest = run
  intro success below derived
  cases derived with
  | complete _ => cases success
  | unavailable _ _ => cases success
  | failed _ _ => cases success
  | @grafted _ requested known _ run =>
      have completes := run.completes
      have closed : ∀ id members, known.lookup id = some members →
          Covers structures.idOf known members := by
        intro id members found
        rcases completes.origin id members found with before | ⟨_, covered⟩
        · cases before
        · exact covered
      have covered : Covers structures.idOf known forest := fun id lacks =>
        completes.queued id (mem_forestPending.mpr lacks)
      have resolved := (grafted structures.idOf known [] forest).resolved closed covered below named
        bare (by rwa [List.append_nil])
      rw [List.append_nil] at resolved
      refine resolved.imp_right fun found => ?_
      have isKnown : known.lookup id ≠ none := by simp [found]
      have asked : id ∈ requested := (completes.added id isKnown).resolve_left (by simp)
      rcases completes.origin id [] found with before | ⟨given, _⟩
      · cases before
      · exact ⟨asked, answer_memory_eq_ok.mp given⟩

/-- A forest that lacks one structure, whose members lack no other, is expanded in one step. -/
theorem expand_one {id : String} {members : List (Tree α)}
    (pending : forestPending structures.idOf forest = [id])
    (described : Described captured structures id members)
    (closed : ∀ other ∈ forestPending structures.idOf members, other = id) :
    expand (.memory true captured) platform structures forest =
      ⟨[id], .ok (.expanded 1), graftForest structures.idOf [(id, members)] [] forest⟩ := by
  have answer := answer_memory_of_described true platform described
  have gathers : gather (.memory true captured) platform structures [id] [] =
      ⟨[id], .ok [(id, members)]⟩ := by
    have rest : gather (.memory true captured) platform structures
        ([] ++ forestPending structures.idOf members) [(id, members)] = .ok [(id, members)] := by
      apply gather_known
      intro other member
      rw [closed other member, List.lookup_cons_self]
      exact Option.some_ne_none members
    rw [gather_answered rfl answer, rest]
    rfl
  simp only [expand, pending, gathers]
  rfl

end

namespace Structured

def parentOrder (members : List (Tree Entry)) : Tree Entry := reference "parent" 1 members

def order (members : List (Tree Entry)) : Tree Entry := reference "order" 1 members

/-- Within an order, an order is left as it is. -/
theorem graftForest_parentOrder (known : Members Entry) (members : List (Tree Entry)) :
    graftForest (structures Taobao.keys).idOf known ["1"] [parentOrder members] =
      [parentOrder members] := by
  have named : (structures Taobao.keys).idOf (parentOrder members).label = some "1" := rfl
  have repeated : (parentOrder members).graft (structures Taobao.keys).idOf known ["1"] =
      parentOrder members := graft_repeated named (List.mem_singleton_self "1") members
  rw [graftForest, graftForest]
  exact congrArg (· :: []) repeated

def recursiveOrders : List (String × Value) := [("1", documentation [("parent", 1)])]

theorem expand_order :
    expand (.memory true recursiveOrders) "taobao" (structures Taobao.keys) [order []] =
      ⟨["1"], .ok (.expanded 1), [order [parentOrder []]]⟩ := by
  have described : Described recursiveOrders (structures Taobao.keys) "1" [parentOrder []] :=
    ⟨_, _, rfl, rfl, rfl⟩
  have attaches : (order []).graft (structures Taobao.keys).idOf [("1", [parentOrder []])] [] =
      order [parentOrder []] := by
    have named : (structures Taobao.keys).idOf (order []).label = some "1" := rfl
    refine (graft_empty named List.not_mem_nil).trans ?_
    rw [List.lookup_cons_self, Option.getD_some, graftForest_parentOrder]
    rfl
  rw [expand_one rfl described (by decide), graftForest, graftForest, attaches]

def buyers : List (String × Value) := [("2", documentation [("name", 0)])]

theorem described_buyers :
    Described buyers (structures Taobao.keys) "2" [reference "name" 0 []] :=
  ⟨_, _, rfl, rfl, rfl⟩

def nestedOrder : Tree Entry := order [parentOrder [reference "buyer" 2 []]]

/-- The buyer is looked up, but not given a name. -/
theorem expand_nestedOrder :
    expand (.memory true buyers) "taobao" (structures Taobao.keys) [nestedOrder] =
      ⟨["2"], .ok (.expanded 1), [nestedOrder]⟩ := by
  have unchanged (known : Members Entry) :
      nestedOrder.graft (structures Taobao.keys).idOf known [] = nestedOrder := by
    have named : (structures Taobao.keys).idOf nestedOrder.label = some "1" := rfl
    refine (graft_given named List.not_mem_nil _ []).trans ?_
    rw [graftForest_parentOrder]
    rfl
  rw [expand_one rfl described_buyers (by decide), graftForest, graftForest, unchanged]

end Structured

/-- The order in an order is left without members. -/
theorem resolved_expand_order :
    let run := expand (.memory true Structured.recursiveOrders) "taobao"
      (Structured.structures Taobao.keys) [Structured.order []]
    run.outcome = .ok (.expanded 1) ∧
      Below run.forest [(Structured.order []).label] (Structured.parentOrder []) ∧
      ("1" ∈ [(Structured.order []).label].filterMap Structured.Entry.structure? ∨
        ("1" ∈ run.requested ∧
          Described Structured.recursiveOrders (Structured.structures Taobao.keys) "1" [])) := by
  have outcome := congrArg ExpansionRun.outcome Structured.expand_order
  have below : Below (expand (.memory true Structured.recursiveOrders) "taobao"
      (Structured.structures Taobao.keys) [Structured.order []]).forest
      [(Structured.order []).label] (Structured.parentOrder []) := by
    rw [Structured.expand_order]
    exact .inside List.mem_cons_self (.root List.mem_cons_self)
  exact ⟨outcome, below, resolved_expand outcome below rfl rfl (by decide)⟩

/-- A structure that was looked up, has members and is not within itself can be left out below a
field that repeats the structure of a field above it. -/
theorem expand_nestedOrder_unresolved :
    let run := expand (.memory true Structured.buyers) "taobao"
      (Structured.structures Taobao.keys) [Structured.nestedOrder]
    let above := [(Structured.order []).label, (Structured.parentOrder []).label]
    let buyer := Structured.reference "buyer" 2 []
    run.outcome = .ok (.expanded 1) ∧ Below run.forest above buyer ∧
      Structured.Entry.structure? buyer.label = some "2" ∧ buyer.children = [] ∧
      "2" ∉ above.filterMap Structured.Entry.structure? ∧
      ¬ Described Structured.buyers (Structured.structures Taobao.keys) "2" [] := by
  intro run above buyer
  have evaluated : run = _ := Structured.expand_nestedOrder
  have inside : Below [Structured.nestedOrder] above buyer :=
    .inside List.mem_cons_self (.inside List.mem_cons_self (.root List.mem_cons_self))
  refine ⟨by rw [evaluated], by rw [evaluated]; exact inside, rfl, rfl, by decide, ?_⟩
  intro described
  cases described.unique Structured.described_buyers

end ApiSchema
