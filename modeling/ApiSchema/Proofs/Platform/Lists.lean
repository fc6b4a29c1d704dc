import ApiSchema.Proofs.Platform.WellFormed

/-!
Lists among the fields of models. A field whose type is a list stays one when it is flattened, unless
the platform takes it for an object and not for a list of objects. Three platforms never do; for the
others the lists that they lose are told by their elements and by what marks a field as an object.
-/

set_option autoImplicit false

namespace ApiSchema

open ApiSchema.Naming

namespace Dialect

variable {α : Type} {dialect : Dialect α} {path : String} {seen : List String}
  {forest : List (Tree α)} {fields : List Field} {models : List Model}

/-- The model of the members of a field is not named like a tag. -/
theorem isTag_nestedModel (untagged : ∀ label, Primitive.isTag (dialect.modelName label) = false)
    (path : String) (label : α) : Primitive.isTag (dialect.nestedModel path label) = false :=
  isTag_nestedName (untagged label) [path, dialect.name label]

/-- A list stays a list if it is one of objects, or if it is no object. -/
theorem type_flatten_eq_list_iff
    (untagged : ∀ label, Primitive.isTag (dialect.modelName label) = false) (path : String)
    {tree : Tree α} (isList : (dialect.resolve tree.label).type = Primitive.list.tag) :
    (dialect.flatten path tree).1.type = Primitive.list.tag ↔
      dialect.isObjectList tree = true ∨ dialect.isObject tree = false := by
  obtain ⟨label, children⟩ := tree
  have isList : (dialect.resolve label).type = Primitive.list.tag := isList
  cases branch : dialect.isNested (.node label children) with
  | false =>
      have type : (dialect.field label).type = Primitive.list.tag := by
        rw [field_type, isList]
        rfl
      have noObject := (Bool.or_eq_false_iff.mp branch).2
      rw [flatten_plain path branch]
      exact iff_of_true type (Or.inr noObject)
  | true =>
      have noTag := isTag_nestedModel untagged path label
      have isTag : Primitive.isTag Primitive.list.tag = true := by decide
      rw [flatten_nested path branch]
      cases objects : dialect.isObjectList (.node label children) with
      | true => exact iff_of_true rfl (Or.inl rfl)
      | false =>
          rw [isNested, objects, Bool.false_or] at branch
          change dialect.nestedModel path label = Primitive.list.tag ↔ _
          rw [branch]
          refine iff_of_false ?_ (by simp)
          intro same
          rw [same, isTag] at noTag
          cases noTag

/-- Fields that are those of some of the trees in a forest, at a place. -/
def DocumentedAt (dialect : Dialect α) (path : String) (forest : List (Tree α))
    (fields : List Field) : Prop :=
  ∃ siblings : List (Tree α), siblings ⊆ forestNodes forest ∧
    fields = siblings.map fun tree => (dialect.flatten path tree).1

theorem DocumentedAt.mono {larger : List (Tree α)}
    (documented : dialect.DocumentedAt path forest fields)
    (inside : forestNodes forest ⊆ forestNodes larger) :
    dialect.DocumentedAt path larger fields := by
  obtain ⟨siblings, within, same⟩ := documented
  exact ⟨siblings, List.Subset.trans within inside, same⟩

theorem DocumentedAt.cons (label : α) (children : List (Tree α)) {rest : List (Tree α)}
    (documented : dialect.DocumentedAt path rest fields) :
    dialect.DocumentedAt path (.node label children :: rest)
      ((dialect.flatten path (.node label children)).1 :: fields) := by
  obtain ⟨siblings, within, same⟩ := documented.mono (forestNodes_subset_later label children rest)
  refine ⟨.node label children :: siblings, ?_, by rw [List.map_cons, same]⟩
  have first : .node label children ∈ forestNodes (.node label children :: rest) := by
    rw [forestNodes_cons]
    exact List.mem_cons_self
  exact List.cons_subset.mpr ⟨first, within⟩

/-- Every model has the fields of trees in the forest. -/
theorem Flattened.documented (flattened : Flattened dialect path seen forest fields models) :
    dialect.DocumentedAt path forest fields ∧
      ∀ model ∈ models, ∃ place, dialect.DocumentedAt place forest model.fields := by
  induction flattened with
  | nil => exact ⟨⟨[], List.nil_subset _, rfl⟩, by simp⟩
  | @repeated path seen label children rest _ _ _ _ ih =>
      have later := forestNodes_subset_later label children rest
      obtain ⟨siblings, inner⟩ := ih
      refine ⟨siblings.mono later, fun model member => ?_⟩
      obtain ⟨place, documented⟩ := inner model member
      exact ⟨place, documented.mono later⟩
  | @plain path seen label children rest _ _ _ leaf _ ih =>
      have later := forestNodes_subset_later label children rest
      obtain ⟨siblings, inner⟩ := ih
      have field := siblings.cons label children
      rw [flatten_plain path leaf] at field
      refine ⟨field, fun model member => ?_⟩
      obtain ⟨place, documented⟩ := inner model member
      exact ⟨place, documented.mono later⟩
  | @nested path seen label children rest members _ _ _ _ branch _ _ ihBelow ihLater =>
      have below := forestNodes_subset_below label children rest
      have later := forestNodes_subset_later label children rest
      obtain ⟨membersBelow, innerBelow⟩ := ihBelow
      obtain ⟨siblings, innerLater⟩ := ihLater
      have field := siblings.cons label children
      rw [flatten_nested path branch] at field
      refine ⟨field, ?_⟩
      rw [List.forall_mem_append, List.forall_mem_cons]
      refine ⟨fun model member => ?_, ⟨_, membersBelow.mono below⟩, fun model member => ?_⟩
      · obtain ⟨place, documented⟩ := innerBelow model member
        exact ⟨place, documented.mono below⟩
      · obtain ⟨place, documented⟩ := innerLater model member
        exact ⟨place, documented.mono later⟩

/-- The models of a forest have the fields of its trees. -/
theorem documented_models (dialect : Dialect α) (rootName : String) (kind : ModelKind)
    (forest : List (Tree α)) :
    ∀ model ∈ dialect.models rootName kind forest,
      ∃ place, dialect.DocumentedAt place forest model.fields := by
  obtain ⟨outermost, inner⟩ := (dialect.flattened "" [] forest).documented
  rw [models_eq, List.forall_mem_append, List.forall_mem_singleton]
  exact ⟨inner, "", outermost⟩

end Dialect

namespace Primitive

theorem tag_injective {first second : Primitive} (same : first.tag = second.tag) :
    first = second := by
  have found := congrArg ofTag? same
  rw [ofTag?_tag, ofTag?_tag] at found
  exact Option.some.inj found

/-- A type that is written as a tag was found. -/
theorem eq_some_of_getD_tag {found : Option Primitive} {primitive : Primitive}
    (written : (found.map tag).getD "" = primitive.tag) : found = some primitive := by
  cases found with
  | none =>
      have named : primitive.tag ≠ "" := by cases primitive <;> decide
      exact absurd written.symm named
  | some other => exact congrArg some (tag_injective written)

end Primitive

namespace Structured

/-- Whether the elements of a list have no members: they are primitive, or not described. -/
def hasPlainElements (scalar? : String → Option Primitive) (type : String) : Bool :=
  (scalar? (elementName type)).isSome || isBareList (elementName type)

variable {scalar? : String → Option Primitive}

theorem isList_of_resolve (noLists : ∀ name, scalar? name ≠ some .list) {type : String}
    (resolved : (resolve scalar? type).type = Primitive.list.tag) : isList type = true := by
  by_contra noList
  rw [Bool.not_eq_true] at noList
  have written : ((scalar? (Text.trim type)).map Primitive.tag).getD "" = Primitive.list.tag := by
    rw [← resolved, resolve, noList, if_neg Bool.false_ne_true]
    cases scalar? (Text.trim type) <;> rfl
  exact noLists _ (Primitive.eq_some_of_getD_tag written)

/-- A list is kept if its elements may have members, or if the field is no object. -/
theorem keeps_iff (noLists : ∀ name, scalar? name ≠ some .list)
    (isObject : Tree Entry → Bool) {tree : Tree Entry}
    (resolved : (resolve scalar? tree.label.type).type = Primitive.list.tag) :
    ((dialect scalar? isObject).isObjectList tree = true ∨ isObject tree = false) ↔
      ¬ (hasPlainElements scalar? tree.label.type = true ∧ isObject tree = true) := by
  have isList := isList_of_resolve noLists resolved
  have objects : (dialect scalar? isObject).isObjectList tree =
      !hasPlainElements scalar? tree.label.type := by
    change isObjectList scalar? tree.label.type = _
    rw [isObjectList, hasPlainElements, isList, Bool.true_and, Bool.not_or, Option.not_isSome]
  rw [objects]
  cases hasPlainElements scalar? tree.label.type <;> simp

end Structured

theorem Taobao.scalar?_ne_list (name : String) : Taobao.scalar? name ≠ some .list := by
  unfold Taobao.scalar?
  split <;> simp

theorem Kuaishou.scalar?_ne_list (name : String) : Kuaishou.scalar? name ≠ some .list := by
  unfold Kuaishou.scalar?
  split <;> simp

theorem Alibaba.scalar?_ne_list (name : String) : Alibaba.scalar? name ≠ some .list := by
  unfold Alibaba.scalar?
  split <;> simp

theorem Alipay.scalar?_ne_list (name : String) : Alipay.scalar? name ≠ some .list := by
  unfold Alipay.scalar?
  split <;> simp

/-- Lists that are objects too: their elements have no members, but members or a structure are
given. -/
def Taobao.Mistakes (tree : Tree Structured.Entry) : Prop :=
  Structured.hasPlainElements scalar? tree.label.type = true ∧
    (tree.children ≠ [] ∨ tree.label.structure?.isSome = true)

/-- Lists that are objects too: their elements have no members, but a structure is given. -/
def Kuaishou.Mistakes (tree : Tree Structured.Entry) : Prop :=
  Structured.hasPlainElements scalar? tree.label.type = true ∧
    tree.label.structure?.isSome = true

/-- Lists that are objects too: their elements are primitive, but members are given, and the field is
marked as one with members. -/
def Alipay.Mistakes (tree : Tree Alipay.Entry) : Prop :=
  (scalar? tree.label.exactType).isSome = true ∧ tree.label.hasMembers = true ∧
    tree.label.fieldType = "COMPLEXTYPE"

/-- The platforms of the library, and the lists that they take for objects. -/
inductive TakesForObjects : Platform → {α : Type} → Dialect α → (Tree α → Prop) → Prop
  | doudian : TakesForObjects Doudian.platform Doudian.dialect fun _ => False
  | weixin : TakesForObjects Weixin.platform Weixin.dialect fun _ => False
  | alipay : TakesForObjects Alipay.platform Alipay.dialect Alipay.Mistakes
  | alibaba : TakesForObjects Alibaba.platform Alibaba.dialect fun _ => False
  | kuaishou : TakesForObjects Kuaishou.platform Kuaishou.dialect Kuaishou.Mistakes
  | taobao : TakesForObjects Taobao.platform Taobao.dialect Taobao.Mistakes

theorem TakesForObjects.isBuiltin {platform : Platform} {α : Type} {dialect : Dialect α}
    {mistakes : Tree α → Prop} (takes : TakesForObjects platform dialect mistakes) :
    IsBuiltin platform dialect := by
  cases takes with
  | doudian => exact .doudian
  | weixin => exact .weixin
  | alipay => exact .alipay
  | alibaba => exact .alibaba
  | kuaishou => exact .kuaishou
  | taobao => exact .taobao

/-- A number stands for one type, so a list is no object. -/
theorem Doudian.isObject_of_list {tree : Tree Doudian.Entry}
    (resolved : (Doudian.dialect.resolve tree.label).type = Primitive.list.tag) :
    Doudian.dialect.isObject tree = false := by
  have resolved : (Doudian.resolve tree.label).type = Primitive.list.tag := resolved
  change (tree.label.hasMembers && typeOf? tree.label.type == some .object) = false
  by_contra isObject
  rw [Bool.not_eq_false, Bool.and_eq_true, beq_iff_eq] at isObject
  rw [Doudian.resolve, isObject.2] at resolved
  have same : Primitive.object.tag = Primitive.list.tag := resolved
  exact absurd (Primitive.tag_injective same) (by decide)

/-- Only what is no list is taken for an object. -/
theorem Weixin.isObject_of_list {tree : Tree Weixin.Entry}
    (resolved : (Weixin.dialect.resolve tree.label).type = Primitive.list.tag) :
    Weixin.dialect.isObject tree = false := by
  have isList : tree.label.isList = true := beq_iff_eq.mpr resolved
  change (!tree.label.isList && _) = false
  rw [isList]
  rfl

/-- A list that is marked as one with members is one of objects. -/
theorem Alibaba.isObjectList_of_list {tree : Tree Alibaba.Entry}
    (resolved : (Alibaba.dialect.resolve tree.label).type = Primitive.list.tag) :
    Alibaba.dialect.isObjectList tree = Alibaba.dialect.isObject tree := by
  have resolved : (Alibaba.resolve tree.label.type).type = Primitive.list.tag := resolved
  have listed : isList tree.label.type = true := by
    by_contra noList
    rw [Bool.not_eq_true] at noList
    simp only [Alibaba.resolve, noList, Bool.false_eq_true, ↓reduceIte] at resolved
    exact Alibaba.scalar?_ne_list _ (Primitive.eq_some_of_getD_tag resolved)
  change (tree.label.isComplex && isList tree.label.type) = tree.label.isComplex
  rw [listed, Bool.and_true]

/-- A list is one of objects unless its elements are primitive. -/
theorem Alipay.keeps_iff {tree : Tree Alipay.Entry}
    (resolved : (Alipay.dialect.resolve tree.label).type = Primitive.list.tag) :
    (Alipay.dialect.isObjectList tree = true ∨ Alipay.dialect.isObject tree = false) ↔
      ¬ Alipay.Mistakes tree := by
  have resolved : (Alipay.resolve tree.label).type = Primitive.list.tag := resolved
  have isList : tree.label.isList = true := by
    by_contra noList
    simp only [Alipay.resolve, noList, ↓reduceIte] at resolved
    exact Alipay.scalar?_ne_list _ (Primitive.eq_some_of_getD_tag resolved)
  change ((tree.label.isList && (scalar? tree.label.exactType).isNone) = true ∨
    (tree.label.hasMembers && tree.label.fieldType == "COMPLEXTYPE") = false) ↔ _
  rw [isList, Bool.true_and, Bool.and_eq_false_iff, beq_eq_false_iff_ne, Alipay.Mistakes,
    Option.isNone_iff_eq_none, Option.isSome_iff_ne_none]
  cases tree.label.hasMembers <;> simp [or_iff_not_imp_left]

namespace TakesForObjects

variable {platform : Platform} {α : Type} {dialect : Dialect α} {mistakes : Tree α → Prop}

/-- A list stays a list, whatever else is said of the field, unless the platform takes it for an
object. This is so for the field that a tree becomes in any model, and the fields of all models of a
forest are such. -/
theorem type_list_iff (takes : TakesForObjects platform dialect mistakes) :
    (∀ path tree, (dialect.resolve tree.label).type = Primitive.list.tag →
      ((dialect.flatten path tree).1.type = Primitive.list.tag ↔ ¬ mistakes tree)) ∧
      ∀ rootName kind forest, ∀ model ∈ dialect.models rootName kind forest,
        ∃ place, dialect.DocumentedAt place forest model.fields := by
  refine ⟨fun path tree resolved => ?_, dialect.documented_models⟩
  rw [Dialect.type_flatten_eq_list_iff takes.isBuiltin.isTag_modelName path resolved]
  cases takes with
  | doudian => simp [Doudian.isObject_of_list resolved]
  | weixin => simp [Weixin.isObject_of_list resolved]
  | alipay => exact Alipay.keeps_iff resolved
  | alibaba =>
      rw [Alibaba.isObjectList_of_list resolved]
      cases Alibaba.dialect.isObject tree <;> simp
  | kuaishou => exact Structured.keeps_iff Kuaishou.scalar?_ne_list _ resolved
  | taobao =>
      have isObject : Taobao.dialect.isObject tree = true ↔
          tree.children ≠ [] ∨ tree.label.structure?.isSome = true := by
        change (!tree.children.isEmpty || tree.label.structure?.isSome) = true ↔ _
        simp
      rw [Taobao.Mistakes, ← isObject]
      exact Structured.keeps_iff Taobao.scalar?_ne_list _ resolved

def itemsOf (type : String) : Tree Structured.Entry :=
  .node ⟨"items", type, "", "", false, none⟩ [.node ⟨"id", "Long", "", "", false, none⟩ []]

theorem type_list_iff_items :
    TakesForObjects Taobao.platform Taobao.dialect Taobao.Mistakes ∧
      (∀ path tree, (Taobao.dialect.resolve tree.label).type = Primitive.list.tag →
        ((Taobao.dialect.flatten path tree).1.type = Primitive.list.tag ↔ ¬ Taobao.Mistakes tree)) ∧
      (∀ rootName kind forest, ∀ model ∈ Taobao.dialect.models rootName kind forest,
        ∃ place, Taobao.dialect.DocumentedAt place forest model.fields) ∧
      (Taobao.dialect.resolve (itemsOf "Item[]").label).type = Primitive.list.tag ∧
      (Taobao.dialect.flatten "" (itemsOf "Item[]")).1.type = Primitive.list.tag := by
  obtain ⟨kept, documented⟩ := type_list_iff .taobao
  have resolved : (Taobao.dialect.resolve (itemsOf "Item[]").label).type = Primitive.list.tag := by
    decide +kernel
  have plain : ¬ Taobao.Mistakes (itemsOf "Item[]") := fun mistaken =>
    absurd mistaken.1 (by decide +kernel)
  exact ⟨.taobao, kept, documented, resolved, (kept "" _ resolved).mpr plain⟩

/-- A list whose elements have no type but members becomes one object. -/
theorem type_bareList :
    (Taobao.dialect.resolve (itemsOf "List").label).type = Primitive.list.tag ∧
      (Taobao.dialect.models "ABParam" .param [itemsOf "List"]).map
          (fun model => (model.name, model.fields.map fun field => (field.name, field.type))) =
        [("items@List", [("id", "int")]), ("ABParam", [("items", "items@List")])] ∧
      (Taobao.dialect.flatten "" (itemsOf "List")).1.type ≠ Primitive.list.tag := by
  decide +kernel

end TakesForObjects

end ApiSchema
