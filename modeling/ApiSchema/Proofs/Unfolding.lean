import ApiSchema.Method.Basic
import ApiSchema.Tree
import Mathlib

/-!
Models unfolded. A field that refers to a model becomes a tree with the fields of that model below
it, so what is left tells nothing of the names of models. Lists in which one name stands for several
models, the last one being meant, are unfolded from left to right.
-/

set_option autoImplicit false

namespace ApiSchema

/-- What a field is: a value, an object with members, or a list of such objects. -/
inductive Shape where
  | plain (type : String) (element : Option String)
  | object
  | list
  deriving DecidableEq

/-- What unfolding shows of a field. -/
structure Facet where
  name : String
  required : Bool
  shape : Shape
  deriving DecidableEq

namespace Field

/-- The model whose fields are the members of the field, or of the elements of a list. -/
def link? (field : Field) : Option (Shape × String) :=
  if isReference field.type then some (.object, field.type)
  else if field.isList then (field.element.filter isReference).map fun model => (.list, model)
  else none

def facet (field : Field) (shape : Shape) : Facet := ⟨field.name, field.required, shape⟩

/-- What unfolding shows of a field that has no members. -/
def plainFacet (field : Field) : Facet := field.facet (.plain field.type field.element)

/-- What unfolding depends on. -/
def essence (field : Field) : String × String × Option String × Bool :=
  (field.name, field.type, field.element, field.required)

theorem link?_congr {first second : Field} (same : first.essence = second.essence) :
    first.link? = second.link? := by
  simp only [essence, Prod.mk.injEq] at same
  rw [link?, link?, isList, isList, same.2.1, same.2.2.1]

theorem facet_congr {first second : Field} (same : first.essence = second.essence)
    (shape : Shape) : first.facet shape = second.facet shape := by
  simp only [essence, Prod.mk.injEq] at same
  rw [facet, facet, same.1, same.2.2.2]

theorem plainFacet_congr {first second : Field} (same : first.essence = second.essence) :
    first.plainFacet = second.plainFacet := by
  have types := same
  simp only [essence, Prod.mk.injEq] at types
  rw [plainFacet, plainFacet, types.2.1, types.2.2.1]
  exact facet_congr same _

theorem link?_eq_object {field : Field} (refers : isReference field.type = true) :
    field.link? = some (.object, field.type) := by
  rw [link?, if_pos refers]

theorem link?_eq_list {field : Field} {model : String} (isList : field.type = Primitive.list.tag)
    (element : field.element = some model) (refers : isReference model = true) :
    field.link? = some (.list, model) := by
  have noReference : isReference Primitive.list.tag = false := by decide
  simp [link?, Field.isList, isList, element, refers, noReference]

/-- A link is a reference of the field. -/
theorem mem_references_of_link? {field : Field} {shape : Shape} {model : String}
    (link : field.link? = some (shape, model)) : model ∈ field.references := by
  unfold link? at link
  unfold references
  split at link
  · rename_i refers
    obtain ⟨_, rfl⟩ := Prod.mk.inj (Option.some.inj link)
    exact List.mem_filter.mpr ⟨List.mem_cons_self, refers⟩
  · split at link
    · obtain ⟨element, held, same⟩ := Option.map_eq_some_iff.mp link
      obtain ⟨_, rfl⟩ := Prod.mk.inj same
      obtain ⟨held, refers⟩ := Option.filter_eq_some_iff.mp held
      refine List.mem_filter.mpr ⟨List.mem_cons_of_mem _ ?_, refers⟩
      rw [held, Option.mem_toList]
    · cases link

end Field

/-- Fields unfolded to trees, a reference standing for the first model that has the name. A field
with a reference to no model has no unfolding. -/
inductive Unfolds (models : List Model) : List Field → List (Tree Facet) → Prop
  | nil : Unfolds models [] []
  | plain {field : Field} {fields : List Field} {trees : List (Tree Facet)}
      (link : field.link? = none) (rest : Unfolds models fields trees) :
      Unfolds models (field :: fields) (.node field.plainFacet [] :: trees)
  | nested {field : Field} {fields : List Field} {trees members : List (Tree Facet)}
      {shape : Shape} {name : String} {model : Model} (link : field.link? = some (shape, name))
      (found : models.find? (fun model => model.name == name) = some model)
      (inner : Unfolds models model.fields members) (rest : Unfolds models fields trees) :
      Unfolds models (field :: fields) (.node (field.facet shape) members :: trees)

namespace Unfolds

variable {models : List Model} {fields : List Field} {trees others : List (Tree Facet)}

/-- Fields have at most one unfolding. -/
theorem unique (first : Unfolds models fields trees) (second : Unfolds models fields others) :
    trees = others := by
  induction first generalizing others with
  | nil =>
      cases second
      rfl
  | plain link _ ih =>
      cases second with
      | plain _ rest => rw [ih rest]
      | nested other _ _ _ =>
          rw [link] at other
          cases other
  | nested link found _ _ ihInner ihRest =>
      cases second with
      | plain other _ =>
          rw [link] at other
          cases other
      | nested other foundToo inner rest =>
          rw [link] at other
          cases other
          rw [found] at foundToo
          cases foundToo
          rw [ihInner inner, ihRest rest]

theorem iff_eq (unfolds : Unfolds models fields trees) :
    Unfolds models fields others ↔ others = trees := by
  constructor
  · exact fun other => other.unique unfolds
  · rintro rfl
    exact unfolds

/-- Models behind those that are there change no unfolding. -/
theorem append (unfolds : Unfolds models fields trees) (later : List Model) :
    Unfolds (models ++ later) fields trees := by
  induction unfolds with
  | nil => exact .nil
  | plain link _ ih => exact .plain link ih
  | nested link found _ _ ihInner ihRest =>
      refine .nested link ?_ ihInner ihRest
      rw [List.find?_append, found, Option.some_or]

/-- Fields that agree in what unfolding depends on have the same unfoldings. -/
theorem congr (unfolds : Unfolds models fields trees) {like : List Field}
    (same : fields.map Field.essence = like.map Field.essence) : Unfolds models like trees := by
  induction unfolds generalizing like with
  | nil =>
      rw [List.map_nil, eq_comm, List.map_eq_nil_iff] at same
      subst same
      exact .nil
  | plain link _ ih =>
      obtain ⟨field, rest, rfl, alike, aside⟩ := List.map_eq_cons_iff.mp same.symm
      rw [← Field.plainFacet_congr alike]
      exact .plain ((Field.link?_congr alike).trans link) (ih aside.symm)
  | nested link found inner _ _ ihRest =>
      obtain ⟨field, rest, rfl, alike, aside⟩ := List.map_eq_cons_iff.mp same.symm
      rw [← Field.facet_congr alike]
      exact .nested ((Field.link?_congr alike).trans link) found inner (ihRest aside.symm)

end Unfolds

/-- Trees by the names of models. -/
abbrev Meanings := List (String × List (Tree Facet))

/-- The field unfolded, given the meanings of names. A name without meaning has no members. -/
def Field.unfold (known : Meanings) (field : Field) : Tree Facet :=
  match field.link? with
  | none => .node field.plainFacet []
  | some (shape, name) => .node (field.facet shape) ((known.lookup name).getD [])

/-- The meanings after a model; only nested models can be referred to. -/
def Model.enterMeaning (known : Meanings) (model : Model) : Meanings :=
  if model.kind = .child then (model.name, model.fields.map (Field.unfold known)) :: known
  else known

/-- The meanings after models, the latest first. -/
def meanings (known : Meanings) (models : List Model) : Meanings :=
  models.foldl Model.enterMeaning known

theorem Field.unfold_plain {field : Field} (link : field.link? = none) (known : Meanings) :
    field.unfold known = .node field.plainFacet [] := by
  rw [unfold, link]

theorem Field.unfold_nested {field : Field} {shape : Shape} {name : String}
    (link : field.link? = some (shape, name)) {known : Meanings} {members : List (Tree Facet)}
    (meant : known.lookup name = some members) :
    field.unfold known = .node (field.facet shape) members := by
  simp only [unfold, link, meant, Option.getD_some]

theorem meanings_append (known : Meanings) (first second : List Model) :
    meanings known (first ++ second) = meanings (meanings known first) second := by
  unfold meanings
  rw [List.foldl_append]

theorem meanings_singleton (known : Meanings) (model : Model) :
    meanings known [model] = model.enterMeaning known := rfl

theorem Model.enterMeaning_child {model : Model} (kind : model.kind = .child) (known : Meanings) :
    model.enterMeaning known = (model.name, model.fields.map (Field.unfold known)) :: known := by
  rw [enterMeaning, if_pos kind]

theorem Model.enterMeaning_outer {model : Model} (kind : model.kind ≠ .child) (known : Meanings) :
    model.enterMeaning known = known := by
  rw [enterMeaning, if_neg kind]

/-- Models with other names leave the meaning of a name. -/
theorem lookup_meanings_of_ne {known : Meanings} {models : List Model} {name : String}
    (others : ∀ model ∈ models, model.name ≠ name) :
    (meanings known models).lookup name = known.lookup name := by
  induction models generalizing known with
  | nil => rfl
  | cons model rest ih =>
      have restOthers : ∀ model ∈ rest, model.name ≠ name :=
        fun model member => others model (List.mem_cons_of_mem _ member)
      change (meanings (model.enterMeaning known) rest).lookup name = _
      rw [ih restOthers]
      by_cases kind : model.kind = .child
      · have other : (name == model.name) = false :=
          beq_eq_false_iff_ne.mpr (others model List.mem_cons_self).symm
        rw [Model.enterMeaning_child kind, List.lookup_cons, other]
      · rw [Model.enterMeaning_outer kind]

/-- A name has a meaning if a nested model has it. -/
theorem lookup_meanings_ne_none {known : Meanings} {models : List Model} {name : String} :
    (meanings known models).lookup name ≠ none ↔
      known.lookup name ≠ none ∨ ∃ model ∈ models, model.kind = .child ∧ model.name = name := by
  induction models generalizing known with
  | nil => simp [meanings]
  | cons model rest ih =>
      change (meanings (model.enterMeaning known) rest).lookup name ≠ none ↔ _
      rw [ih]
      by_cases kind : model.kind = .child
      · rw [Model.enterMeaning_child kind, List.lookup_cons]
        by_cases same : name = model.name
        · simp [same, kind]
        · have other : (name == model.name) = false := beq_eq_false_iff_ne.mpr same
          simp [other, Ne.symm same]
      · simp [Model.enterMeaning_outer kind, kind]

end ApiSchema
