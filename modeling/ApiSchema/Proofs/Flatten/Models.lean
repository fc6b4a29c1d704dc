import ApiSchema.Proofs.Flatten.Derivation

set_option autoImplicit false

namespace ApiSchema.Dialect

variable {α : Type} {dialect : Dialect α}

theorem field_element (dialect : Dialect α) (label : α) :
    (dialect.field label).element =
      if (dialect.field label).type == Primitive.list.tag then
        (dialect.resolve label).element.filter fun element => !element.isEmpty
      else none := rfl

theorem field_type (dialect : Dialect α) (label : α) :
    (dialect.field label).type =
      if (dialect.resolve label).type = "" then Primitive.object.tag
      else (dialect.resolve label).type := by
  simp only [field, String.isEmpty_iff]

/-- A field by itself refers to its documented type, or to that of the elements of a list. -/
theorem of_mem_references_field {label : α} {name : String}
    (refers : name ∈ (dialect.field label).references) :
    Field.isReference name = true ∧ (name = (dialect.resolve label).type ∨
      ((dialect.resolve label).type = Primitive.list.tag ∧
        (dialect.resolve label).element = some name)) := by
  obtain ⟨held, reference⟩ := Field.mem_references.mp refers
  refine ⟨reference, ?_⟩
  rcases held with type | element
  · rw [field_type] at type
    split at type
    · have noReference : Field.isReference Primitive.object.tag = false := by decide
      rw [type, noReference] at reference
      cases reference
    · exact Or.inl type
  · rw [field_element] at element
    split at element
    · rename_i isList
      obtain ⟨held, _⟩ := Option.filter_eq_some_iff.mp element
      rw [beq_iff_eq, field_type] at isList
      split at isList
      · exact absurd isList (by decide)
      · exact Or.inr ⟨isList, held⟩
    · cases element

/-- Only a list has elements, and these have a type. -/
theorem element_field {label : α} {element : String}
    (held : (dialect.field label).element = some element) :
    (dialect.field label).type = Primitive.list.tag ∧ element ≠ "" := by
  rw [field_element] at held
  split at held
  · rename_i isList
    obtain ⟨_, named⟩ := Option.filter_eq_some_iff.mp held
    exact ⟨beq_iff_eq.mp isList, by simpa using named⟩
  · cases held

theorem listed_field {label : α} (elements : (dialect.field label).element ≠ none) :
    (dialect.field label).type = Primitive.list.tag := by
  obtain ⟨element, held⟩ := Option.ne_none_iff_exists'.mp elements
  exact (element_field held).1

theorem reference_name (field : Field) (isList : Bool) (model : String) :
    (reference field isList model).name = field.name := by
  cases isList <;> rfl

theorem element_reference {field : Field} {isList : Bool} {model element : String}
    (held : (reference field isList model).element = some element) :
    (reference field isList model).type = Primitive.list.tag ∧ element = model := by
  cases isList with
  | true => exact ⟨rfl, (Option.some.inj held).symm⟩
  | false => cases held

theorem listed_reference {field : Field} {isList : Bool} {model : String}
    (elements : (reference field isList model).element ≠ none) :
    (reference field isList model).type = Primitive.list.tag := by
  obtain ⟨element, held⟩ := Option.ne_none_iff_exists'.mp elements
  exact (element_reference held).1

/-- A field with members refers to their model alone. -/
theorem references_reference {field : Field} {isList : Bool} {model name : String}
    (refers : name ∈ (reference field isList model).references) : name = model := by
  obtain ⟨held, isReference⟩ := Field.mem_references.mp refers
  cases isList with
  | true =>
      rcases held with type | element
      · have noReference : Field.isReference Primitive.list.tag = false := by decide
        rw [type] at isReference
        exact absurd isReference (Bool.eq_false_iff.mp noReference)
      · exact (Option.some.inj element).symm
  | false =>
      rcases held with type | element
      · exact type
      · cases element

/-- A field with a new name, before fields with names that are neither that nor seen. -/
theorem distinct_cons {rest : List Field} {seen : List String} (field : Field)
    (new : field.name ∉ seen) (nodup : (rest.map Field.name).Nodup)
    (fresh : ∀ other ∈ rest, other.name ∉ field.name :: seen) :
    ((field :: rest).map Field.name).Nodup ∧ ∀ other ∈ field :: rest, other.name ∉ seen := by
  rw [List.map_cons, List.nodup_cons, List.forall_mem_cons]
  refine ⟨⟨?_, nodup⟩, new, ?_⟩
  · intro again
    obtain ⟨other, member, same⟩ := List.mem_map.mp again
    exact fresh other member (by rw [same]; exact List.mem_cons_self)
  · exact fun other member known => fresh other member (List.mem_cons_of_mem _ known)

namespace Flattened

variable {path : String} {seen : List String} {forest : List (Tree α)} {fields : List Field}
  {models : List Model}

theorem child (flattened : Flattened dialect path seen forest fields models) :
    ∀ model ∈ models, model.kind = .child := by
  induction flattened with
  | nil => simp
  | repeated _ _ ih => exact ih
  | plain _ _ _ ih => exact ih
  | nested _ _ _ _ ihBelow ihLater =>
      rw [List.forall_mem_append, List.forall_mem_cons]
      exact ⟨ihBelow, rfl, ihLater⟩

/-- Models are named by fields with members, each at some place. -/
theorem named (flattened : Flattened dialect path seen forest fields models) :
    ∀ model ∈ models, ∃ tree ∈ forestNodes forest, dialect.isNested tree = true ∧
      ∃ path, model.name = dialect.nestedModel path tree.label := by
  induction flattened with
  | nil => simp
  | repeated _ _ ih =>
      intro model member
      obtain ⟨tree, inside, facts⟩ := ih model member
      exact ⟨tree, by rw [forestNodes_cons]; simp [inside], facts⟩
  | plain _ _ _ ih =>
      intro model member
      obtain ⟨tree, inside, facts⟩ := ih model member
      exact ⟨tree, by rw [forestNodes_cons]; simp [inside], facts⟩
  | nested _ branch _ _ ihBelow ihLater =>
      intro model member
      rw [forestNodes_cons]
      rcases List.mem_append.mp member with below | later
      · obtain ⟨tree, inside, facts⟩ := ihBelow model below
        exact ⟨tree, by simp [inside], facts⟩
      · rcases List.mem_cons.mp later with rfl | later
        · exact ⟨_, List.mem_cons_self, branch, _, rfl⟩
        · obtain ⟨tree, inside, facts⟩ := ihLater model later
          exact ⟨tree, by simp [inside], facts⟩

/-- Fields have different names, and none that was seen. -/
theorem distinct (flattened : Flattened dialect path seen forest fields models) :
    (fields.map Field.name).Nodup ∧ (∀ field ∈ fields, field.name ∉ seen) ∧
      ∀ model ∈ models, (model.fields.map Field.name).Nodup := by
  induction flattened with
  | nil => simp
  | repeated _ _ ih => exact ih
  | plain new _ _ ih =>
      obtain ⟨nodup, fresh, inner⟩ := ih
      obtain ⟨nodup, fresh⟩ := distinct_cons (dialect.field _) new nodup fresh
      exact ⟨nodup, fresh, inner⟩
  | @nested path seen label children _ _ _ _ _ new _ _ _ ihBelow ihLater =>
      obtain ⟨nodupBelow, _, innerBelow⟩ := ihBelow
      obtain ⟨nodup, fresh, inner⟩ := ihLater
      obtain ⟨nodup, fresh⟩ := distinct_cons
        (reference (dialect.field label) (dialect.isObjectList (.node label children))
          (dialect.nestedModel path label))
        (by rw [reference_name]; exact new) nodup (by rw [reference_name]; exact fresh)
      refine ⟨nodup, fresh, ?_⟩
      rw [List.forall_mem_append, List.forall_mem_cons]
      exact ⟨innerBelow, nodupBelow, inner⟩

/-- What holds of every field, whether it is kept or becomes a reference, holds in every model. -/
theorem forall_fields {P : Field → Prop} (flattened : Flattened dialect path seen forest fields models)
    (plain : ∀ tree ∈ forestNodes forest, dialect.isNested tree = false →
      P (dialect.field tree.label))
    (nested : ∀ tree ∈ forestNodes forest, dialect.isNested tree = true → ∀ isList path,
      P (reference (dialect.field tree.label) isList (dialect.nestedModel path tree.label))) :
    (∀ field ∈ fields, P field) ∧ ∀ model ∈ models, ∀ field ∈ model.fields, P field := by
  induction flattened with
  | nil => simp
  | repeated _ _ ih =>
      rw [forall_forestNodes_cons] at plain nested
      exact ih plain.2.2 nested.2.2
  | plain new leaf _ ih =>
      rw [forall_forestNodes_cons] at plain nested
      obtain ⟨holds, inner⟩ := ih plain.2.2 nested.2.2
      rw [List.forall_mem_cons]
      exact ⟨⟨plain.1 leaf, holds⟩, inner⟩
  | nested new branch _ _ ihBelow ihLater =>
      rw [forall_forestNodes_cons] at plain nested
      obtain ⟨below, innerBelow⟩ := ihBelow plain.2.1 nested.2.1
      obtain ⟨holds, inner⟩ := ihLater plain.2.2 nested.2.2
      rw [List.forall_mem_cons, List.forall_mem_append, List.forall_mem_cons]
      exact ⟨⟨nested.1 branch _ _, holds⟩, innerBelow, below, inner⟩

/-- The models refer back, but for references of plain fields. -/
theorem refersBack {loose : String → Prop}
    (flattened : Flattened dialect path seen forest fields models)
    (leaves : ∀ tree ∈ forestNodes forest, dialect.isNested tree = false →
      ∀ name ∈ (dialect.field tree.label).references, loose name)
    {before : List Model} (back : RefersBackExcept loose before) :
    RefersBackExcept loose (before ++ models) ∧
      ∀ field ∈ fields, ∀ name ∈ field.references, HasChild (before ++ models) name ∨ loose name := by
  induction flattened generalizing before with
  | nil => exact ⟨by simpa using back, by simp⟩
  | repeated _ _ ih =>
      rw [forall_forestNodes_cons] at leaves
      exact ih leaves.2.2 back
  | plain new leaf _ ih =>
      rw [forall_forestNodes_cons] at leaves
      obtain ⟨here, _, there⟩ := leaves
      obtain ⟨laterBack, laterFields⟩ := ih there back
      refine ⟨laterBack, ?_⟩
      rw [List.forall_mem_cons]
      exact ⟨fun name refers => Or.inr (here leaf name refers), laterFields⟩
  | @nested path seen label children rest members fields inner models _ branch _ _ ihBelow ihLater =>
      rw [forall_forestNodes_cons] at leaves
      obtain ⟨_, below, there⟩ := leaves
      obtain ⟨innerBack, innerFields⟩ := ihBelow below back
      have modelBack : RefersBackExcept loose
          ((before ++ inner) ++ [⟨dialect.nestedModel path label, .child, members⟩]) :=
        innerBack.snoc innerFields
      obtain ⟨laterBack, laterFields⟩ := ihLater there modelBack
      simp only [List.append_assoc, List.singleton_append] at laterBack laterFields
      refine ⟨laterBack, ?_⟩
      rw [List.forall_mem_cons]
      refine ⟨?_, laterFields⟩
      intro name refers
      rw [references_reference refers]
      exact Or.inl ⟨⟨dialect.nestedModel path label, .child, members⟩, by simp, rfl, rfl⟩

end Flattened

/-- The models of a forest refer back, also behind others, but for references of plain fields. -/
theorem refersBack_models {loose : String → Prop} {forest : List (Tree α)}
    (leaves : ∀ tree ∈ forestNodes forest, dialect.isNested tree = false →
      ∀ name ∈ (dialect.field tree.label).references, loose name)
    {before : List Model} (back : RefersBackExcept loose before) (rootName : String)
    (kind : ModelKind) : RefersBackExcept loose (before ++ dialect.models rootName kind forest) := by
  obtain ⟨inner, fields⟩ := (dialect.flattened "" [] forest).refersBack leaves back
  rw [models_eq, ← List.append_assoc]
  exact inner.snoc fields

end ApiSchema.Dialect
