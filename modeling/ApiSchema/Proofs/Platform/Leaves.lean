import ApiSchema.Generator
import ApiSchema.Proofs.Flatten.Outline

set_option autoImplicit false

namespace ApiSchema

namespace Primitive

theorem isTag_tag (primitive : Primitive) : isTag primitive.tag = true :=
  isTag_iff.mpr ⟨primitive, rfl⟩

/-- The tag of a primitive type, if there is one. -/
theorem isTag_of_map_tag {found : Option Primitive} {tag : String}
    (tagged : found.map Primitive.tag = some tag) : isTag tag = true := by
  obtain ⟨primitive, _, rfl⟩ := Option.map_eq_some_iff.mp tagged
  exact isTag_tag primitive

end Primitive

theorem Doudian.leavesPrimitive : Doudian.dialect.LeavesPrimitive := by
  intro tree _
  change (Doudian.resolve tree.label).IsPrimitive
  unfold Doudian.resolve
  split
  · exact ⟨Or.inr (Primitive.isTag_tag .list), fun element => Primitive.isTag_of_map_tag⟩
  · exact ⟨Or.inr (Primitive.isTag_tag _), by simp⟩
  · exact ⟨Or.inl rfl, by simp⟩

/-- A list is one of objects unless its elements are primitive or not described. -/
theorem Structured.leavesPrimitive (scalar? : String → Option Primitive)
    (isObject : Tree Structured.Entry → Bool) :
    (Structured.dialect scalar? isObject).LeavesPrimitive := by
  intro tree leaf
  have noList : Structured.isObjectList scalar? tree.label.type = false :=
    (Bool.or_eq_false_iff.mp leaf).1
  change (Structured.resolve scalar? tree.label.type).IsPrimitive
  unfold Structured.isObjectList at noList
  unfold Structured.resolve
  dsimp only at noList ⊢
  split
  · rename_i isList
    split
    · exact ⟨Or.inr (Primitive.isTag_tag .list), by simp [Primitive.isTag_tag]⟩
    · rename_i unknown
      have bare : Structured.isBareList (Naming.elementName tree.label.type) = true := by
        simpa [isList, unknown] using noList
      exact ⟨Or.inr (Primitive.isTag_tag .list), by simp [bare]⟩
  · split
    · exact ⟨Or.inr (Primitive.isTag_tag _), by simp⟩
    · exact ⟨Or.inl rfl, by simp⟩

theorem Alipay.trim_of_scalar? {name : String} (known : (Alipay.scalar? name).isSome = true) :
    Text.trim name = name := by
  unfold Alipay.scalar? at known
  split at known
  · decide
  · decide
  · decide
  · decide
  · cases known

/-- A list is one of objects unless its elements are primitive. -/
theorem Alipay.leavesPrimitive : Alipay.dialect.LeavesPrimitive := by
  intro tree leaf
  have noList : (tree.label.isList && (Alipay.scalar? tree.label.exactType).isNone) = false :=
    (Bool.or_eq_false_iff.mp leaf).1
  change (Alipay.resolve tree.label).IsPrimitive
  unfold Alipay.resolve
  dsimp only
  split
  · rename_i isList
    have known : (Alipay.scalar? tree.label.exactType).isSome = true := by
      simpa [isList] using noList
    refine ⟨Or.inr (Primitive.isTag_tag .list), ?_⟩
    rw [Alipay.trim_of_scalar? known]
    obtain ⟨primitive, found⟩ := Option.isSome_iff_exists.mp known
    simp [found, Primitive.isTag_tag]
  · refine ⟨?_, by simp⟩
    cases Alipay.scalar? (Text.trim tree.label.exactType) with
    | none => exact Or.inl rfl
    | some primitive => exact Or.inr (Primitive.isTag_tag primitive)

/-- Whether fields without members refer to nothing. -/
def Dialect.Grounded {α : Type} (dialect : Dialect α) : Prop :=
  ∀ tree, dialect.isNested tree = false → (dialect.field tree.label).references = []

theorem Dialect.LeavesPrimitive.grounded {α : Type} {dialect : Dialect α}
    (primitive : dialect.LeavesPrimitive) : dialect.Grounded := by
  intro tree leaf
  obtain ⟨label, children⟩ := tree
  exact primitive.references_eq_nil leaf

/-- The models of a forest refer back, also behind others. -/
theorem Dialect.Grounded.refersBack_models {α : Type} {dialect : Dialect α}
    (grounded : dialect.Grounded) {before : List Model}
    (back : RefersBackExcept (fun _ => False) before) (rootName : String) (kind : ModelKind)
    (forest : List (Tree α)) :
    RefersBackExcept (fun _ => False) (before ++ dialect.models rootName kind forest) := by
  refine Dialect.refersBack_models ?_ back rootName kind
  intro tree _ leaf name refers
  rw [grounded tree leaf] at refers
  cases refers

/-- A field that refers to a model is taken for one with members, even if none are described. -/
theorem Weixin.grounded : Weixin.dialect.Grounded := by
  intro tree leaf
  obtain ⟨noList, noObject⟩ := Bool.or_eq_false_iff.mp leaf
  have noList : (tree.label.isList &&
      (!tree.children.isEmpty || tree.label.elementModel?.isSome)) = false := noList
  have noObject : (!tree.label.isList &&
      (!tree.children.isEmpty || Field.isReference tree.label.type.type)) = false := noObject
  have isList : tree.label.isList = (tree.label.type.type == Primitive.list.tag) := rfl
  rw [List.eq_nil_iff_forall_not_mem]
  intro name refers
  obtain ⟨reference, type | ⟨type, element⟩⟩ := Dialect.of_mem_references_field refers
  · have type : name = tree.label.type.type := type
    have noReference : Field.isReference Primitive.list.tag = false := by decide
    rw [type] at reference
    rw [reference, Bool.or_true, Bool.and_true, Bool.not_eq_false', isList, beq_iff_eq] at noObject
    rw [noObject, noReference] at reference
    cases reference
  · have type : tree.label.type.type = Primitive.list.tag := type
    have element : tree.label.type.element = some name := element
    have isModel : tree.label.elementModel? = some name := by
      rw [Weixin.Entry.elementModel?, element, Option.filter_some, if_pos]
      rw [(Field.isReference_iff.mp reference).2]
      rfl
    rw [isList, type, isModel, Option.isSome_some, Bool.or_true, beq_self_eq_true] at noList
    cases noList

/-- The class that a list of undescribed objects names: the list is not marked as one with
members. -/
def Alibaba.undescribed? (tree : Tree Alibaba.Entry) : Option String :=
  if tree.label.isComplex then none
  else (Alibaba.resolve tree.label.type).element.filter Field.isReference

theorem Alibaba.isReference_type (type : String) :
    Field.isReference (Alibaba.resolve type).type = false := by
  unfold Alibaba.resolve
  dsimp only
  split
  · exact Dialect.isReference_of_isTag (Primitive.isTag_tag .list)
  · cases Alibaba.scalar? (Alibaba.element type) with
    | none => decide
    | some primitive => exact Dialect.isReference_of_isTag (Primitive.isTag_tag primitive)

/-- A field without members refers to at most the class of undescribed objects. -/
theorem Alibaba.references_field {tree : Tree Alibaba.Entry}
    (leaf : Alibaba.dialect.isNested tree = false) {name : String}
    (refers : name ∈ (Alibaba.dialect.field tree.label).references) :
    Alibaba.undescribed? tree = some name := by
  have noFlag : tree.label.isComplex = false := (Bool.or_eq_false_iff.mp leaf).2
  obtain ⟨reference, held⟩ := Dialect.of_mem_references_field refers
  rw [Alibaba.undescribed?, noFlag, if_neg Bool.false_ne_true, Option.filter_eq_some_iff]
  refine ⟨?_, reference⟩
  rcases held with type | ⟨_, element⟩
  · have type : name = (Alibaba.resolve tree.label.type).type := type
    rw [type, Alibaba.isReference_type] at reference
    cases reference
  · exact element

end ApiSchema
