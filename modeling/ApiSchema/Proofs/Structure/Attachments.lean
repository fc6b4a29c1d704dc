import ApiSchema.Proofs.Structure.Grafting

/-!
What an expansion adds to a forest. Each field of the result is marked with the structure whose
members it was given, if it was given any. Without these members the result is the forest from
before; the members are those that were looked up, and no structure is attached within itself. A way
down the result meets each structure at most once, so its length is bounded.
-/

set_option autoImplicit false

namespace ApiSchema

/-- A field of an expanded forest, and the structure whose members were attached to it. -/
structure Marked (α : Type) where
  label : α
  attached : Option String

section

variable {α : Type}

mutual

/-- The tree without the members that were attached. -/
def Tree.cut : Tree (Marked α) → Tree α
  | .node mark children =>
      .node mark.label (if mark.attached.isSome then [] else cutForest children)

def cutForest : List (Tree (Marked α)) → List (Tree α)
  | [] => []
  | tree :: rest => tree.cut :: cutForest rest

end

mutual

/-- The tree with the members that were attached, without marks. -/
def Tree.unmark : Tree (Marked α) → Tree α
  | .node mark children => .node mark.label (unmarkForest children)

def unmarkForest : List (Tree (Marked α)) → List (Tree α)
  | [] => []
  | tree :: rest => tree.unmark :: unmarkForest rest

end

mutual

/-- The tree as one to which nothing was attached. -/
def Tree.untouched : Tree α → Tree (Marked α)
  | .node label children => .node ⟨label, none⟩ (untouchedForest children)

def untouchedForest : List (Tree α) → List (Tree (Marked α))
  | [] => []
  | tree :: rest => tree.untouched :: untouchedForest rest

end

mutual

def Tree.height : Tree α → Nat
  | .node _ children => forestHeight children + 1

def forestHeight : List (Tree α) → Nat
  | [] => 0
  | tree :: rest => max tree.height (forestHeight rest)

end

theorem cutForest_untouched (forest : List (Tree α)) :
    cutForest (untouchedForest forest) = forest := by
  match forest with
  | [] => rfl
  | .node label children :: rest =>
      rw [untouchedForest, cutForest, Tree.untouched, Tree.cut, cutForest_untouched rest,
        cutForest_untouched children]
      rfl
termination_by sizeOf forest

theorem unmarkForest_untouched (forest : List (Tree α)) :
    unmarkForest (untouchedForest forest) = forest := by
  match forest with
  | [] => rfl
  | .node label children :: rest =>
      rw [untouchedForest, unmarkForest, Tree.untouched, Tree.unmark,
        unmarkForest_untouched rest, unmarkForest_untouched children]
termination_by sizeOf forest

theorem attached_untouchedForest {forest : List (Tree α)} {above : List (Marked α)}
    {tree : Tree (Marked α)} (below : Below (untouchedForest forest) above tree) :
    tree.label.attached = none := by
  match forest with
  | [] => exact absurd below not_below_nil
  | .node label children :: rest =>
      rw [untouchedForest, Tree.untouched] at below
      rcases below_cons.mp below with ⟨_, rfl⟩ | ⟨others, _, inner⟩ | beside
      · rfl
      · exact attached_untouchedForest inner
      · exact attached_untouchedForest beside
termination_by sizeOf forest

/-- The structures that fields name, that of the last field first. -/
def namedBy (idOf : α → Option String) (above : List (Marked α)) : List String :=
  (above.filterMap fun mark => idOf mark.label).reverse

theorem namedBy_cons_append (idOf : α → Option String) (mark : Marked α)
    (above : List (Marked α)) (chain : List String) :
    namedBy idOf (mark :: above) ++ chain =
      namedBy idOf above ++ ((idOf mark.label).toList ++ chain) := by
  unfold namedBy
  cases named : idOf mark.label with
  | none => simp [named]
  | some id => simp [named]

end

section

variable {α : Type} (idOf : α → Option String) (known : Members α) (chain : List String)

/-- A field below these fields, to which the members of a structure were attached: it names that
structure, the fields above it do not, and its members are those of the structure with what is
attached to them in turn. The chain is what is named above the forest. -/
structure AttachedAt (above : List (Marked α)) (tree : Tree (Marked α)) (id : String) : Prop where
  named : idOf tree.label.label = some id
  new : id ∉ namedBy idOf above ++ chain
  fetched : known.lookup id = some (cutForest tree.children)
  grafted : unmarkForest tree.children =
    graftForest idOf known (id :: (namedBy idOf above ++ chain)) (cutForest tree.children)

/-- The marks of a forest to which known members were attached. -/
structure Marks (forest result : List (Tree α)) (marked : List (Tree (Marked α))) : Prop where
  given : cutForest marked = forest
  result : unmarkForest marked = result
  attached : ∀ above tree id, Below marked above tree → tree.label.attached = some id →
    AttachedAt idOf known chain above tree id

end

section

variable {α : Type} {idOf : α → Option String} {known : Members α} {chain : List String}
  {forest result : List (Tree α)}

theorem Grafted.eq_graftForest (run : Grafted idOf known chain forest result) :
    result = graftForest idOf known chain forest := by
  induction run with
  | nil chain => rw [graftForest]
  | plain unnamed _ _ within after => rw [graftForest, graft_plain unnamed, ← within, ← after]
  | repeated named above _ after => rw [graftForest, graft_repeated named above, ← after]
  | attached named new found _ _ within after =>
      rw [graftForest, graft_empty named new, found, Option.getD_some, ← within, ← after]
  | unknown named new absent _ after =>
      rw [graftForest, graft_empty named new, absent, Option.getD_none, graftForest, ← after]
  | @given _ _ _ children _ _ _ named new filled _ _ within after =>
      obtain ⟨first, others, rfl⟩ := List.exists_cons_of_ne_nil filled
      rw [graftForest, graft_given named new, ← within, ← after]

/-- What was attached below a field was attached below the fields above it. -/
theorem AttachedAt.inside {mark : Marked α} {above : List (Marked α)} {tree : Tree (Marked α)}
    {id : String} (inner : AttachedAt idOf known ((idOf mark.label).toList ++ chain) above tree id) :
    AttachedAt idOf known chain (mark :: above) tree id := by
  have same := namedBy_cons_append idOf mark above chain
  refine ⟨inner.named, ?_, inner.fetched, ?_⟩
  · rw [same]
    exact inner.new
  · rw [same]
    exact inner.grafted

/-- The marks of a field whose members were given, and of the fields behind it. -/
theorem Marks.keep {label : α} {children rest inside later : List (Tree α)}
    {inner outer : List (Tree (Marked α))}
    (within : Marks idOf known ((idOf label).toList ++ chain) children inside inner)
    (after : Marks idOf known chain rest later outer) :
    Marks idOf known chain (.node label children :: rest) (.node label inside :: later)
      (.node ⟨label, none⟩ inner :: outer) := by
  refine ⟨?_, ?_, ?_⟩
  · rw [cutForest, Tree.cut, after.given, ← within.given]
    rfl
  · rw [unmarkForest, Tree.unmark, within.result, after.result]
  · intro above tree id below marked
    rcases below_cons.mp below with ⟨_, rfl⟩ | ⟨others, rfl, lower⟩ | beside
    · cases marked
    · exact (within.attached others tree id lower marked).inside
    · exact after.attached above tree id beside marked

/-- Members that stay as they are have no marks. -/
theorem marks_untouchedForest (forest : List (Tree α)) :
    Marks idOf known chain forest forest (untouchedForest forest) := by
  refine ⟨cutForest_untouched forest, unmarkForest_untouched forest, ?_⟩
  intro above tree id below marked
  rw [attached_untouchedForest below] at marked
  cases marked

/-- The marks of a field to which members were attached, and of the fields behind it. -/
theorem Marks.attach {label : α} {id : String} {members rest inside later : List (Tree α)}
    {inner outer : List (Tree (Marked α))} (named : idOf label = some id) (new : id ∉ chain)
    (found : known.lookup id = some members)
    (run : Grafted idOf known (id :: chain) members inside)
    (within : Marks idOf known (id :: chain) members inside inner)
    (after : Marks idOf known chain rest later outer) :
    Marks idOf known chain (.node label [] :: rest) (.node label inside :: later)
      (.node ⟨label, some id⟩ inner :: outer) := by
  have here : AttachedAt idOf known chain [] (.node ⟨label, some id⟩ inner) id := by
    refine ⟨named, new, found.trans (congrArg some within.given.symm), ?_⟩
    change unmarkForest inner = graftForest idOf known (id :: chain) (cutForest inner)
    rw [within.result, within.given]
    exact run.eq_graftForest
  have lowerChain : (idOf label).toList ++ chain = id :: chain := by rw [named]; rfl
  refine ⟨?_, ?_, ?_⟩
  · rw [cutForest, Tree.cut, after.given]
    rfl
  · rw [unmarkForest, Tree.unmark, within.result, after.result]
  · intro above tree other below marked
    rcases below_cons.mp below with ⟨rfl, rfl⟩ | ⟨others, rfl, lower⟩ | beside
    · cases marked
      exact here
    · refine AttachedAt.inside ?_
      rw [lowerChain]
      exact within.attached others tree other lower marked
    · exact after.attached above tree other beside marked

/-- What is attached can be marked. -/
theorem Grafted.marks (run : Grafted idOf known chain forest result) :
    ∃ marked, Marks idOf known chain forest result marked := by
  induction run with
  | nil chain => exact ⟨[], marks_untouchedForest []⟩
  | @plain chain label children rest inside later unnamed _ _ within after =>
      obtain ⟨inner, within⟩ := within
      obtain ⟨outer, after⟩ := after
      have sameChain : (idOf label).toList ++ chain = chain := by rw [unnamed]; rfl
      rw [← sameChain] at within
      exact ⟨_, within.keep after⟩
  | @repeated chain label id children rest later named above _ after =>
      obtain ⟨outer, after⟩ := after
      exact ⟨_, (marks_untouchedForest children).keep after⟩
  | attached named new found run _ within after =>
      obtain ⟨inner, within⟩ := within
      obtain ⟨outer, after⟩ := after
      exact ⟨_, within.attach named new found run after⟩
  | unknown named new absent _ after =>
      obtain ⟨outer, after⟩ := after
      exact ⟨_, (marks_untouchedForest []).keep after⟩
  | @given chain label id children rest inside later named new filled _ _ within after =>
      obtain ⟨inner, within⟩ := within
      obtain ⟨outer, after⟩ := after
      have lowerChain : (idOf label).toList ++ chain = id :: chain := by rw [named]; rfl
      rw [← lowerChain] at within
      exact ⟨_, within.keep after⟩

/-- No structure is attached twice on a way down, nor one of the chain. -/
theorem nodup_attached {marked : List (Tree (Marked α))} {above : List (Marked α)}
    {tree : Tree (Marked α)}
    (attached : ∀ above tree id, Below marked above tree → tree.label.attached = some id →
      idOf tree.label.label = some id ∧ id ∉ namedBy idOf above ++ chain)
    (below : Below marked above tree) :
    ((above ++ [tree.label]).filterMap Marked.attached).Nodup ∧
      ∀ id ∈ (above ++ [tree.label]).filterMap Marked.attached, id ∉ chain := by
  induction below generalizing chain with
  | @root forest tree member =>
      rw [List.nil_append]
      cases mark : tree.label.attached with
      | none => simp [mark]
      | some id =>
          have new := (attached [] tree id (.root member) mark).2
          simpa [mark, namedBy] using new
  | @inside forest children label above tree member below ih =>
      have lower := @ih ((idOf label.label).toList ++ chain) fun above tree id below marked => by
        rw [← namedBy_cons_append]
        exact attached (label :: above) tree id (.inside member below) marked
      obtain ⟨distinct, fresh⟩ := lower
      simp only [List.mem_append, not_or] at fresh
      rw [List.cons_append]
      cases mark : label.attached with
      | none =>
          rw [List.filterMap_cons_none mark]
          exact ⟨distinct, fun id held => (fresh id held).2⟩
      | some id =>
          obtain ⟨named, new⟩ := attached [] _ id (.root member) mark
          have named : idOf label.label = some id := named
          rw [List.filterMap_cons_some mark, List.nodup_cons, List.forall_mem_cons]
          refine ⟨⟨fun held => ?_, distinct⟩, by simpa [namedBy] using new,
            fun other held => (fresh other held).2⟩
          exact (fresh id held).1 (by simp [named])

/-- Each structure that is attached on a way down is one fewer that can be attached below. -/
theorem Grafted.height_le (run : Grafted idOf known chain forest result) {limit : Nat}
    (bounded : ∀ id members, known.lookup id = some members → forestHeight members ≤ limit) :
    forestHeight result ≤ forestHeight forest + (unattached known chain).length * limit := by
  induction run with
  | nil chain => simp [forestHeight]
  | plain unnamed _ _ within after =>
      simp only [forestHeight, Tree.height]
      omega
  | repeated named above _ after =>
      simp only [forestHeight, Tree.height]
      omega
  | @attached chain label id members rest inside later named new found _ _ within after =>
      have fewer := unattached_cons_lt known chain id members found (by simpa using new)
      have shrinks : ((unattached known (id :: chain)).length + 1) * limit ≤
          (unattached known chain).length * limit := Nat.mul_le_mul_right limit fewer
      rw [Nat.add_mul, Nat.one_mul] at shrinks
      have membersBound := bounded id members found
      simp only [forestHeight, Tree.height]
      omega
  | unknown named new absent _ after =>
      simp only [forestHeight, Tree.height]
      omega
  | @given chain label id children rest inside later named new filled _ _ within after =>
      have fewer := unattached_cons_le known chain id
      have shrinks : (unattached known (id :: chain)).length * limit ≤
          (unattached known chain).length * limit := Nat.mul_le_mul_right limit fewer
      simp only [forestHeight, Tree.height]
      omega

end

/-- What an expansion adds to a forest. `known` are the structures that were looked up, and `marked`
is the result with marks: what has no mark was there before. -/
structure ExpansionRun.FillsIn {α : Type} (run : ExpansionRun α) (source : Source)
    (platform : String) (structures : Structures α) (forest : List (Tree α)) (count : Nat)
    (known : Members α) (marked : List (Tree (Marked α))) : Prop where
  fetched : ∀ id members, known.lookup id = some members ↔
    id ∈ run.requested ∧ source.answer platform structures id = .ok members
  given : cutForest marked = forest
  result : unmarkForest marked = run.forest
  attached : ∀ above tree id, Below marked above tree → tree.label.attached = some id →
    AttachedAt structures.idOf known [] above tree id
  once : ∀ above tree, Below marked above tree →
    ((above ++ [tree.label]).filterMap Marked.attached).Nodup
  height : ∀ limit, forestHeight forest ≤ limit →
    (∀ id members, known.lookup id = some members → forestHeight members ≤ limit) →
    forestHeight run.forest ≤ (count + 1) * limit

/-- An expansion only fills in: it attaches members to fields that name a structure and have none,
each structure at most once on a way down, so the result has no more levels than the forest and the
members of each structure that was looked up have one above the other. -/
theorem expand_fillsIn {α : Type} {source : Source} {platform : String} {structures : Structures α}
    {forest : List (Tree α)} {count : Nat}
    (success : (expand source platform structures forest).outcome = .ok (.expanded count)) :
    ∃ known marked, (expand source platform structures forest).FillsIn source platform structures
      forest count known marked := by
  have derived := expanded source platform structures forest
  generalize expand source platform structures forest = run at derived success ⊢
  cases derived with
  | complete _ => cases success
  | unavailable _ _ => cases success
  | failed _ _ => cases success
  | @grafted _ requested known _ run =>
      cases success
      have completes := run.completes
      have grafting := grafted structures.idOf known [] forest
      obtain ⟨marked, marks⟩ := grafting.marks
      refine ⟨known, marked, ?_, marks.given, marks.result, marks.attached, ?_, ?_⟩
      · intro id members
        constructor
        · intro found
          have isKnown : known.lookup id ≠ none := by simp [found]
          have asked := (completes.added id isKnown).resolve_left (by simp)
          exact ⟨asked, ((completes.origin id members found).resolve_left (by simp)).1⟩
        · rintro ⟨asked, given⟩
          obtain ⟨held, found⟩ := Option.ne_none_iff_exists'.mp (completes.asked id asked)
          have same := ((completes.origin id held found).resolve_left (by simp)).1
          rw [given] at same
          cases same
          exact found
      · intro above tree below
        have placed : ∀ above tree id, Below marked above tree → tree.label.attached = some id →
            structures.idOf tree.label.label = some id ∧
              id ∉ namedBy structures.idOf above ++ [] := by
          intro above tree id below mark
          have here := marks.attached above tree id below mark
          exact ⟨here.named, here.new⟩
        exact (nodup_attached placed below).1
      · intro limit given bounded
        have all : unattached known [] = known := by simp [unattached]
        have height := grafting.height_le bounded
        rw [all] at height
        calc forestHeight (graftForest structures.idOf known [] forest)
            ≤ forestHeight forest + known.length * limit := height
          _ ≤ limit + known.length * limit := Nat.add_le_add_right given _
          _ = (known.length + 1) * limit := by rw [Nat.add_mul, Nat.one_mul, Nat.add_comm]

namespace Structured

def grownOrder : Tree Entry :=
  reference "order" 1 [reference "parent" 1 [], reference "buyer" 2 [reference "last" 1 []]]

theorem expand_orders :
    expand (.memory true orders) "taobao" (structures Taobao.keys) [reference "order" 1 []] =
      ⟨["1", "2"], .ok (.expanded 2), [grownOrder]⟩ := by
  cbv

end Structured

/-- Structures that name one another are attached once each, which reaches the bound on levels. -/
theorem expand_fillsIn_orders :
    let run := expand (.memory true Structured.orders) "taobao"
      (Structured.structures Taobao.keys) [Structured.reference "order" 1 []]
    run.outcome = .ok (.expanded 2) ∧
      (∃ known marked, run.FillsIn (.memory true Structured.orders) "taobao"
        (Structured.structures Taobao.keys) [Structured.reference "order" 1 []] 2 known marked) ∧
      forestHeight run.forest = (2 + 1) * forestHeight [Structured.reference "order" 1 []] := by
  intro run
  have evaluated : run = _ := Structured.expand_orders
  have success : run.outcome = .ok (.expanded 2) := by rw [evaluated]
  refine ⟨success, expand_fillsIn success, ?_⟩
  rw [evaluated]
  rfl

end ApiSchema
