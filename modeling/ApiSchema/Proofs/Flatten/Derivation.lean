import ApiSchema.Flatten
import ApiSchema.Proofs.Tree
import ApiSchema.Proofs.Unify.References

set_option autoImplicit false

namespace ApiSchema

open ApiSchema.Naming

namespace Dialect

variable {α : Type} {dialect : Dialect α} {path : String} {seen : List String}
  {forest : List (Tree α)} {fields : List Field} {models : List Model}

def isNested (dialect : Dialect α) (tree : Tree α) : Bool :=
  dialect.isObjectList tree || dialect.isObject tree

def nestedModel (dialect : Dialect α) (path : String) (label : α) : String :=
  nestedName (dialect.modelName label) [path, dialect.name label]

/-- The fields and models of a forest in the model at a path, behind fields with the names seen. -/
inductive Flattened (dialect : Dialect α) :
    String → List String → List (Tree α) → List Field → List Model → Prop
  | nil (path : String) (seen : List String) : Flattened dialect path seen [] [] []
  | repeated {path : String} {seen : List String} {label : α} {children rest : List (Tree α)}
      {fields : List Field} {models : List Model} (known : dialect.name label ∈ seen)
      (later : Flattened dialect path seen rest fields models) :
      Flattened dialect path seen (.node label children :: rest) fields models
  | plain {path : String} {seen : List String} {label : α} {children rest : List (Tree α)}
      {fields : List Field} {models : List Model} (new : dialect.name label ∉ seen)
      (leaf : dialect.isNested (.node label children) = false)
      (later : Flattened dialect path (dialect.name label :: seen) rest fields models) :
      Flattened dialect path seen (.node label children :: rest) (dialect.field label :: fields)
        models
  | nested {path : String} {seen : List String} {label : α} {children rest : List (Tree α)}
      {members fields : List Field} {inner models : List Model}
      (new : dialect.name label ∉ seen) (branch : dialect.isNested (.node label children) = true)
      (below : Flattened dialect (dialect.nestedModel path label) [] children members inner)
      (later : Flattened dialect path (dialect.name label :: seen) rest fields models) :
      Flattened dialect path seen (.node label children :: rest)
        (reference (dialect.field label) (dialect.isObjectList (.node label children))
          (dialect.nestedModel path label) :: fields)
        (inner ++ ⟨dialect.nestedModel path label, .child, members⟩ :: models)

theorem flatten_plain (path : String) {label : α} {children : List (Tree α)}
    (leaf : dialect.isNested (.node label children) = false) :
    dialect.flatten path (.node label children) = (dialect.field label, []) := by
  obtain ⟨noList, noObject⟩ := Bool.or_eq_false_iff.mp leaf
  rw [flatten]
  simp [noList, noObject]

theorem flatten_nested (path : String) {label : α} {children : List (Tree α)}
    (branch : dialect.isNested (.node label children) = true) :
    dialect.flatten path (.node label children) =
      (reference (dialect.field label) (dialect.isObjectList (.node label children))
          (dialect.nestedModel path label),
        (dialect.flattenAll (dialect.nestedModel path label) [] children).2 ++
          [⟨dialect.nestedModel path label, .child,
            (dialect.flattenAll (dialect.nestedModel path label) [] children).1⟩]) := by
  have isComplex : (!dialect.isObjectList (.node label children) &&
      !dialect.isObject (.node label children)) = false := by
    rw [isNested] at branch
    rw [← Bool.not_or, branch]
    rfl
  rw [flatten]
  simp only [isComplex, Bool.false_eq_true, ↓reduceIte]
  rfl

/-- The result of flattening is derived by these rules. -/
theorem flattened (dialect : Dialect α) (path : String) (seen : List String)
    (forest : List (Tree α)) :
    Flattened dialect path seen forest (dialect.flattenAll path seen forest).1
      (dialect.flattenAll path seen forest).2 := by
  match forest with
  | [] =>
      rw [flattenAll]
      exact .nil path seen
  | .node label children :: rest =>
      rw [flattenAll]
      by_cases known : dialect.name label ∈ seen
      · have isKnown : seen.contains (dialect.name (Tree.node label children).label) = true := by
          simpa [Tree.label] using known
        simp only [isKnown, ↓reduceIte]
        exact .repeated known (flattened dialect path seen rest)
      · have isNew : seen.contains (dialect.name (Tree.node label children).label) = false := by
          simpa [Tree.label] using known
        have later := flattened dialect path (dialect.name label :: seen) rest
        simp only [isNew, Bool.false_eq_true, ↓reduceIte]
        cases branch : dialect.isNested (.node label children) with
        | false =>
            rw [flatten_plain path branch]
            exact .plain known branch later
        | true =>
            rw [flatten_nested path branch, List.append_assoc, List.singleton_append]
            exact .nested known branch (flattened dialect _ [] children) later
termination_by sizeOf forest

/-- Where names are distinct, no field is passed over. -/
theorem flattenAll_of_distinct (dialect : Dialect α)
    (distinct : (forest.map fun tree => dialect.name tree.label).Nodup)
    (new : ∀ tree ∈ forest, dialect.name tree.label ∉ seen) :
    dialect.flattenAll path seen forest =
      (forest.map fun tree => (dialect.flatten path tree).1,
        forest.flatMap fun tree => (dialect.flatten path tree).2) := by
  induction forest generalizing seen with
  | nil => rw [flattenAll, List.map_nil, List.flatMap_nil]
  | cons tree rest ih =>
      rw [List.map_cons, List.nodup_cons] at distinct
      rw [List.forall_mem_cons] at new
      have later : ∀ other ∈ rest, dialect.name other.label ∉ dialect.name tree.label :: seen := by
        intro other member
        rw [List.mem_cons, not_or]
        refine ⟨fun same => distinct.1 ?_, new.2 other member⟩
        exact List.mem_map.mpr ⟨other, member, same⟩
      have isNew : seen.contains (dialect.name tree.label) = false := by simpa using new.1
      rw [flattenAll]
      simp only [isNew, Bool.false_eq_true, ↓reduceIte]
      rw [ih distinct.2 later, List.map_cons, List.flatMap_cons]

theorem models_eq (dialect : Dialect α) (rootName : String) (kind : ModelKind)
    (forest : List (Tree α)) :
    dialect.models rootName kind forest = (dialect.flattenAll "" [] forest).2 ++
      [⟨rootName, kind, (dialect.flattenAll "" [] forest).1⟩] := rfl

end Dialect

end ApiSchema
