import ApiSchema.Proofs.Flatten.Models
import ApiSchema.Proofs.Naming.FreeName
import ApiSchema.Proofs.Naming.Place
import ApiSchema.Proofs.Unify.Fingerprint

/-!
The outline of a forest: its fields as they are documented, without those that repeat a name. It is
what the models of the forest mean, if no name holds the mark that parts a local name from its place.
-/

set_option autoImplicit false

namespace ApiSchema

open ApiSchema.Naming

def ResolvedType.IsPrimitive (resolved : ResolvedType) : Prop :=
  (resolved.type = "" ∨ Primitive.isTag resolved.type = true) ∧
    ∀ element, resolved.element = some element → Primitive.isTag element = true

namespace Dialect

variable {α : Type}

/-- What a field without members is. An unknown type is an object, and only a list has elements. -/
def plainShape (dialect : Dialect α) (label : α) : Shape :=
  let resolved := dialect.resolve label
  let type := if resolved.type = "" then Primitive.object.tag else resolved.type
  .plain type (if type = Primitive.list.tag then resolved.element else none)

mutual

/-- The field as it is documented, with the members of an object or of a list of objects. -/
def outline (dialect : Dialect α) : Tree α → Tree Facet
  | .node label children =>
      let facet := Facet.mk (dialect.name label) (dialect.isRequired label)
      if dialect.isObjectList (.node label children) then
        .node (facet .list) (outlineAll dialect children)
      else if dialect.isObject (.node label children) then
        .node (facet .object) (outlineAll dialect children)
      else .node (facet (dialect.plainShape label)) []

/-- The fields as they are documented, without those that repeat the name of one before. -/
def outlineAll (dialect : Dialect α) : List (Tree α) → List (Tree Facet)
  | [] => []
  | tree :: rest =>
      outline dialect tree ::
        (outlineAll dialect rest).filter fun other => other.label.name ≠ dialect.name tree.label

end

/-- Whether a text is not empty and holds no mark that would be taken for one of ours. -/
def IsPlain (text : String) : Prop := text ≠ "" ∧ '@' ∉ text.toList ∧ IsLegible text

instance (text : String) : Decidable (IsPlain text) :=
  inferInstanceAs (Decidable (text ≠ "" ∧ '@' ∉ text.toList ∧ IsLegible text))

def LeavesPrimitive (dialect : Dialect α) : Prop :=
  ∀ tree, dialect.isNested tree = false → (dialect.resolve tree.label).IsPrimitive

variable {dialect : Dialect α}

theorem outline_plain {label : α} {children : List (Tree α)}
    (leaf : dialect.isNested (.node label children) = false) :
    dialect.outline (.node label children) =
      .node ⟨dialect.name label, dialect.isRequired label, dialect.plainShape label⟩ [] := by
  obtain ⟨noList, noObject⟩ := Bool.or_eq_false_iff.mp leaf
  rw [outline]
  simp [noList, noObject]

def nestedShape (dialect : Dialect α) (tree : Tree α) : Shape :=
  if dialect.isObjectList tree then .list else .object

theorem outline_nested {label : α} {children : List (Tree α)}
    (branch : dialect.isNested (.node label children) = true) :
    dialect.outline (.node label children) =
      .node ⟨dialect.name label, dialect.isRequired label,
        dialect.nestedShape (.node label children)⟩ (dialect.outlineAll children) := by
  rw [outline, nestedShape]
  rcases Bool.or_eq_true_iff.mp branch with isList | isObject
  · simp [isList]
  · cases isList : dialect.isObjectList (.node label children) <;> simp [isObject]

theorem name_outline (tree : Tree α) :
    (dialect.outline tree).label.name = dialect.name tree.label := by
  obtain ⟨label, children⟩ := tree
  cases branch : dialect.isNested (.node label children) with
  | false =>
      rw [outline_plain branch]
      rfl
  | true =>
      rw [outline_nested branch]
      rfl

theorem isTag_ne_empty {tag : String} (tagged : Primitive.isTag tag = true) : tag ≠ "" := by
  rintro rfl
  revert tagged
  decide

theorem isReference_of_isTag {tag : String} (tagged : Primitive.isTag tag = true) :
    Field.isReference tag = false := by
  simp [Field.isReference, tagged]

namespace LeavesPrimitive

variable (primitive : dialect.LeavesPrimitive) {label : α} {children : List (Tree α)}
  (leaf : dialect.isNested (.node label children) = false)

include primitive leaf

theorem resolved : (dialect.resolve label).IsPrimitive := primitive _ leaf

theorem element_eq :
    (dialect.field label).element =
      if (dialect.field label).type = Primitive.list.tag then (dialect.resolve label).element
      else none := by
  rw [field_element]
  simp only [beq_iff_eq]
  split
  · cases held : (dialect.resolve label).element with
    | none => rfl
    | some element =>
        have named : (!element.isEmpty) = true := by
          simpa using isTag_ne_empty ((primitive.resolved leaf).2 element held)
        rw [Option.filter_some, if_pos named]
  · rfl

/-- A field without members refers to nothing. -/
theorem references_eq_nil : (dialect.field label).references = [] := by
  rw [List.eq_nil_iff_forall_not_mem]
  intro name refers
  obtain ⟨reference, type | ⟨_, element⟩⟩ := of_mem_references_field refers
  · rcases (primitive.resolved leaf).1 with unknown | tagged
    · exact (Field.isReference_iff.mp reference).1 (type.trans unknown)
    · rw [type, isReference_of_isTag tagged] at reference
      cases reference
  · rw [isReference_of_isTag ((primitive.resolved leaf).2 name element)] at reference
    cases reference

theorem link?_eq_none : (dialect.field label).link? = none := by
  cases link : (dialect.field label).link? with
  | none => rfl
  | some target =>
      have refers := Field.mem_references_of_link? link
      rw [primitive.references_eq_nil leaf] at refers
      cases refers

/-- A field without members shows its documented type. -/
theorem unfold_field (known : Meanings) :
    (dialect.field label).unfold known = dialect.outline (.node label children) := by
  have shape : Shape.plain (dialect.field label).type (dialect.field label).element =
      dialect.plainShape label := by
    rw [primitive.element_eq leaf, field_type]
    rfl
  rw [Field.unfold_plain (primitive.link?_eq_none leaf), outline_plain leaf, Field.plainFacet,
    shape]
  rfl

end LeavesPrimitive

/-- A field with members shows what its model means. -/
theorem unfold_reference {label : α} {isList : Bool} {model : String}
    (named : Field.isReference model = true) {known : Meanings} {members : List (Tree Facet)}
    (meant : known.lookup model = some members) :
    (reference (dialect.field label) isList model).unfold known =
      .node ⟨dialect.name label, dialect.isRequired label, if isList then .list else .object⟩
        members := by
  cases isList with
  | true => rw [Field.unfold_nested (Field.link?_eq_list rfl rfl named) meant]; rfl
  | false => rw [Field.unfold_nested (Field.link?_eq_object named) meant]; rfl

/-- The names in the forest are not empty, and hold none of the marks that names of nested models
and fingerprint texts are made with, a `#` excepted. A model is not named like a tag. -/
structure PlainNames (dialect : Dialect α) (forest : List (Tree α)) : Prop where
  fields : ∀ tree ∈ forestNodes forest, IsPlain (dialect.name tree.label)
  models : ∀ tree ∈ forestNodes forest, dialect.isNested tree = true →
    IsPlain (dialect.modelName tree.label) ∧ Primitive.isTag (dialect.modelName tree.label) = false

namespace PlainNames

variable {label : α} {children rest : List (Tree α)}

theorem below (plain : dialect.PlainNames (.node label children :: rest)) :
    dialect.PlainNames children where
  fields := (forall_forestNodes_cons.mp plain.fields).2.1
  models := (forall_forestNodes_cons.mp plain.models).2.1

theorem later (plain : dialect.PlainNames (.node label children :: rest)) :
    dialect.PlainNames rest where
  fields := (forall_forestNodes_cons.mp plain.fields).2.2
  models := (forall_forestNodes_cons.mp plain.models).2.2

theorem name (plain : dialect.PlainNames (.node label children :: rest)) :
    IsPlain (dialect.name label) :=
  (forall_forestNodes_cons.mp plain.fields).1

end PlainNames

theorem nestedModel_eq (path : String) {label : α} (plain : IsPlain (dialect.name label)) :
    dialect.nestedModel path label =
      place path (dialect.name label) ++ "@" ++ dialect.modelName label :=
  nestedName_eq _ _ plain.1

theorem isReference_nestedModel (path : String) {label : α} (plain : IsPlain (dialect.name label)) :
    Field.isReference (dialect.nestedModel path label) = true := by
  have mark : '@' ∈ (dialect.nestedModel path label).toList := by
    rw [nestedModel_eq path plain]
    simp
  rw [Field.isReference_iff]
  constructor
  · intro empty
    rw [empty] at mark
    simp at mark
  · exact Primitive.not_isTag_of_mem mark (by decide)

/-- The outline of a field that repeats a name that was seen does not count. -/
theorem filter_outlineAll_repeated {tree : Tree α} (rest : List (Tree α)) {seen : List String}
    (known : dialect.name tree.label ∈ seen) :
    ((dialect.outlineAll (tree :: rest)).filter fun other => other.label.name ∉ seen) =
      (dialect.outlineAll rest).filter fun other => other.label.name ∉ seen := by
  rw [outlineAll, List.filter_cons_of_neg (by simpa [name_outline] using known),
    List.filter_filter]
  apply List.filter_congr
  intro other _
  by_cases same : other.label.name = dialect.name tree.label
  · simp [same, known]
  · simp [same]

/-- The outline of a field with a new name counts, and the name is seen behind it. -/
theorem filter_outlineAll_new {tree : Tree α} (rest : List (Tree α)) {seen : List String}
    (new : dialect.name tree.label ∉ seen) :
    ((dialect.outlineAll (tree :: rest)).filter fun other => other.label.name ∉ seen) =
      dialect.outline tree :: (dialect.outlineAll rest).filter fun other =>
        other.label.name ∉ dialect.name tree.label :: seen := by
  rw [outlineAll, List.filter_cons_of_pos (by simpa [name_outline] using new), List.filter_filter]
  congr 1
  apply List.filter_congr
  intro other _
  simp only [List.mem_cons, not_or, ne_eq, decide_not, Bool.decide_and, Bool.and_comm]

namespace Flattened

variable {path : String} {seen : List String} {forest : List (Tree α)} {fields : List Field}
  {models : List Model}

/-- The name of a model begins with the place of a field that was not seen before. -/
theorem placed (flattened : Flattened dialect path seen forest fields models)
    (plain : dialect.PlainNames forest) :
    ∀ model ∈ models, ∃ name tail, name ∉ seen ∧ '@' ∉ name.toList ∧
      model.name = place path name ++ "@" ++ tail := by
  induction flattened with
  | nil => simp
  | repeated _ _ ih => exact ih plain.later
  | plain _ _ _ ih =>
      intro model member
      obtain ⟨name, tail, fresh, facts⟩ := ih plain.later model member
      exact ⟨name, tail, fun known => fresh (List.mem_cons_of_mem _ known), facts⟩
  | @nested path seen label children _ _ _ _ _ new branch _ _ ihBelow ihLater =>
      have named := nestedModel_eq path plain.name
      intro model member
      rcases List.mem_append.mp member with below | later
      · obtain ⟨name, tail, _, _, spelled⟩ := ihBelow plain.below model below
        have inside : place (dialect.nestedModel path label) name =
            dialect.nestedModel path label ++ "#" ++ name := by
          rw [place, if_neg (Field.isReference_iff.mp (isReference_nestedModel path plain.name)).1]
        refine ⟨dialect.name label, dialect.modelName label ++ "#" ++ name ++ "@" ++ tail, new,
          plain.name.2.1, ?_⟩
        rw [spelled, inside, named]
        simp only [String.append_assoc]
      · rcases List.mem_cons.mp later with rfl | later
        · exact ⟨dialect.name label, dialect.modelName label, new, plain.name.2.1, named⟩
        · obtain ⟨name, tail, fresh, facts⟩ := ihLater plain.later model later
          exact ⟨name, tail, fun known => fresh (List.mem_cons_of_mem _ known), facts⟩

/-- Fields mean what is documented of them, but for those with names that were seen. -/
theorem meaning (flattened : Flattened dialect path seen forest fields models)
    (primitive : dialect.LeavesPrimitive) (plain : dialect.PlainNames forest) (known : Meanings) :
    fields.map (Field.unfold (meanings known models)) =
      (dialect.outlineAll forest).filter fun tree => tree.label.name ∉ seen := by
  induction flattened generalizing known with
  | nil => rfl
  | repeated seenBefore _ ih => rw [ih plain.later, filter_outlineAll_repeated _ seenBefore]
  | plain new leaf _ ih =>
      rw [List.map_cons, ih plain.later, primitive.unfold_field leaf, filter_outlineAll_new _ new]
      rfl
  | @nested path seen label children rest members fields inner models new branch _ later ihBelow
      ihLater =>
      have reference := isReference_nestedModel path plain.name
      have below : members.map (Field.unfold (meanings known inner)) =
          dialect.outlineAll children := by
        rw [ihBelow plain.below]
        simp
      -- The models of the fields behind this one do not hide its model.
      have others : ∀ model ∈ models, model.name ≠ dialect.nestedModel path label := by
        intro model member same
        obtain ⟨name, tail, fresh, unmarked, spelled⟩ := later.placed plain.later model member
        rw [spelled, nestedModel_eq path plain.name] at same
        rw [name_eq_of_place_eq unmarked plain.name.2.1 same] at fresh
        exact fresh List.mem_cons_self
      have entered : meanings known (inner ++ ⟨dialect.nestedModel path label, .child, members⟩ ::
          models) = meanings ((dialect.nestedModel path label, dialect.outlineAll children) ::
            meanings known inner) models := by
        rw [meanings_append, ← below]
        rfl
      have meant : (meanings ((dialect.nestedModel path label, dialect.outlineAll children) ::
          meanings known inner) models).lookup (dialect.nestedModel path label) =
            some (dialect.outlineAll children) := by
        rw [lookup_meanings_of_ne others, List.lookup_cons, beq_self_eq_true]
      rw [List.map_cons, entered, unfold_reference reference meant, filter_outlineAll_new _ new,
        outline_nested branch, ihLater plain.later]
      rfl

end Flattened

end Dialect

end ApiSchema
