import ApiSchema.Tree
import Mathlib

set_option autoImplicit false

namespace ApiSchema

variable {α : Type}

mutual

def Tree.nodes : Tree α → List (Tree α)
  | .node label children => .node label children :: forestNodes children

def forestNodes : List (Tree α) → List (Tree α)
  | [] => []
  | tree :: rest => tree.nodes ++ forestNodes rest

end

theorem forestNodes_cons (label : α) (children rest : List (Tree α)) :
    forestNodes (.node label children :: rest) =
      .node label children :: (forestNodes children ++ forestNodes rest) := by
  rw [forestNodes, Tree.nodes, List.cons_append]

theorem forestNodes_subset_below (label : α) (children rest : List (Tree α)) :
    forestNodes children ⊆ forestNodes (.node label children :: rest) := by
  rw [forestNodes_cons]
  exact fun _ member => List.mem_cons_of_mem _ (List.mem_append_left _ member)

theorem forestNodes_subset_later (label : α) (children rest : List (Tree α)) :
    forestNodes rest ⊆ forestNodes (.node label children :: rest) := by
  rw [forestNodes_cons]
  exact fun _ member => List.mem_cons_of_mem _ (List.mem_append_right _ member)

/-- What holds of all trees in a forest holds of its first tree, of the trees in that and of those in
the others. -/
theorem forall_forestNodes_cons {P : Tree α → Prop} {label : α} {children rest : List (Tree α)} :
    (∀ tree ∈ forestNodes (.node label children :: rest), P tree) ↔
      P (.node label children) ∧ (∀ tree ∈ forestNodes children, P tree) ∧
        ∀ tree ∈ forestNodes rest, P tree := by
  rw [forestNodes_cons, List.forall_mem_cons, List.forall_mem_append]

/-- A field of a forest, below these fields, the outermost first. -/
inductive Below : List (Tree α) → List α → Tree α → Prop
  | root {forest : List (Tree α)} {tree : Tree α} (member : tree ∈ forest) : Below forest [] tree
  | inside {forest children : List (Tree α)} {label : α} {above : List α} {tree : Tree α}
      (member : .node label children ∈ forest) (below : Below children above tree) :
      Below forest (label :: above) tree

theorem not_below_nil {above : List α} {tree : Tree α} : ¬ Below [] above tree := by
  rintro (member | member) <;> cases member

theorem below_cons {label : α} {children rest : List (Tree α)} {above : List α} {tree : Tree α} :
    Below (.node label children :: rest) above tree ↔
      (above = [] ∧ tree = .node label children) ∨
        (∃ others, above = label :: others ∧ Below children others tree) ∨
        Below rest above tree := by
  constructor
  · rintro (member | ⟨member, below⟩)
    · rcases List.mem_cons.mp member with rfl | member
      · exact .inl ⟨rfl, rfl⟩
      · exact .inr (.inr (.root member))
    · rcases List.mem_cons.mp member with same | member
      · cases same
        exact .inr (.inl ⟨_, rfl, below⟩)
      · exact .inr (.inr (.inside member below))
  · rintro (⟨rfl, rfl⟩ | ⟨others, rfl, below⟩ | below)
    · exact .root List.mem_cons_self
    · exact .inside List.mem_cons_self below
    · cases below with
      | root member => exact .root (List.mem_cons_of_mem _ member)
      | inside member below => exact .inside (List.mem_cons_of_mem _ member) below

end ApiSchema
