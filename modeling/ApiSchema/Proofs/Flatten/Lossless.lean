import ApiSchema.Proofs.Platform.Leaves
import ApiSchema.Proofs.Unify.Meaning

set_option autoImplicit false

namespace ApiSchema.Dialect

open ApiSchema.Naming

variable {α : Type} {dialect : Dialect α} {forest : List (Tree α)}

theorem sound_field {label : α} (plain : IsPlain (dialect.name label)) :
    (dialect.field label).Sound where
  name := plain.2.2
  element := fun held => (element_field held).2 rfl
  listed := listed_field

theorem sound_reference {label : α} (plain : IsPlain (dialect.name label)) (isList : Bool)
    {model : String} (named : model ≠ "") :
    (reference (dialect.field label) isList model).Sound where
  name := by
    rw [reference_name]
    exact plain.2.2
  element := fun held => named (element_reference held).2.symm
  listed := listed_reference

/-- The models of a forest with plain names can be unified without loss. -/
theorem sound_models (plain : dialect.PlainNames forest) (rootName : String) {kind : ModelKind}
    (outer : kind ≠ .child) : ∀ model ∈ dialect.models rootName kind forest, model.Sound := by
  have flattened := dialect.flattened "" [] forest
  obtain ⟨fields, inner⟩ := flattened.forall_fields
    (fun tree member _ => sound_field (plain.fields tree member))
    fun tree member _ isList path => sound_reference (plain.fields tree member) isList
      (Field.isReference_iff.mp (isReference_nestedModel path (plain.fields tree member))).1
  rw [models_eq, List.forall_mem_append, List.forall_mem_singleton]
  refine ⟨?_, fields, fun child => absurd child outer, fun child => absurd child outer⟩
  intro model member
  obtain ⟨tree, inside, branch, path, spelled⟩ := flattened.named model member
  obtain ⟨plainLocal, untagged⟩ := plain.models tree inside branch
  have isLocal : localName model.name = dialect.modelName tree.label := by
    rw [spelled, nestedModel_eq path (plain.fields tree inside),
      localName_append _ plainLocal.2.1]
  refine ⟨inner model member, fun _ => ?_, fun _ => ?_⟩
  · rw [spelled]
    exact isReference_nestedModel path (plain.fields tree inside)
  · rw [isLocal]
    exact ⟨Field.isReference_iff.mpr ⟨plainLocal.1, untagged⟩, plainLocal.2.2⟩

/-- Behind the models of a forest, its fields mean what is documented of them. -/
theorem meaning_models (primitive : dialect.LeavesPrimitive) (plain : dialect.PlainNames forest)
    (known : Meanings) :
    (dialect.flattenAll "" [] forest).1.map
        (Field.unfold (meanings known (dialect.flattenAll "" [] forest).2)) =
      dialect.outlineAll forest := by
  rw [(dialect.flattened "" [] forest).meaning primitive plain]
  simp

/-- Unfolded, the outermost models of the parameters and of the response show the outlines of the
forests that they were made of, and nothing else. -/
theorem unfolds_unify (dialect : Dialect α) (primitive : dialect.LeavesPrimitive)
    {params responses : List (Tree α)} (plainParams : dialect.PlainNames params)
    (plainResponses : dialect.PlainNames responses) {method : Method}
    {paramName responseName : String}
    (fromParams : method.params = dialect.models paramName .param params)
    (fromResponses : method.responses = dialect.models responseName .response responses)
    (free : method.CollisionFree) :
    ∃ param response, method.unify.params.getLast? = some param ∧
      method.unify.responses.getLast? = some response ∧
      (∀ trees, Unfolds method.unify.models param.fields trees ↔
        trees = dialect.outlineAll params) ∧
      ∀ trees, Unfolds method.unify.models response.fields trees ↔
        trees = dialect.outlineAll responses := by
  have split : method.models = dialect.models paramName .param params ++
      dialect.models responseName .response responses := by
    rw [Method.models, fromParams, fromResponses]
  have sound : ∀ model ∈ method.models, model.Sound := by
    rw [split, List.forall_mem_append]
    exact ⟨sound_models plainParams paramName (by decide),
      sound_models plainResponses responseName (by decide)⟩
  have back : RefersBackExcept (fun _ => False) method.models := by
    have backParams : RefersBackExcept (fun _ => False) (dialect.models paramName .param params) :=
      primitive.grounded.refersBack_models (refersBackExcept_nil _) paramName .param params
    rw [split]
    exact primitive.grounded.refersBack_models backParams responseName .response responses
  obtain ⟨param, lastParam, paramUnfolds⟩ :=
    Method.unfolds_unify_param sound back free fromParams (by simp)
  obtain ⟨response, lastResponse, responseUnfolds⟩ :=
    Method.unfolds_unify_response sound back free fromResponses (by simp)
  rw [meaning_models primitive plainParams] at paramUnfolds
  rw [meaning_models primitive plainResponses] at responseUnfolds
  exact ⟨param, response, lastParam, lastResponse, fun _ => paramUnfolds.iff_eq,
    fun _ => responseUnfolds.iff_eq⟩

def exampleField (name : String) (code : Int) (children : List (Tree Doudian.Entry)) :
    Tree Doudian.Entry :=
  .node ⟨some code, some 5, "", "", some name, none, none, none, none, !children.isEmpty⟩ children

def exampleParams : List (Tree Doudian.Entry) := [
  exampleField "user" 5 [exampleField "address" 5 [exampleField "city" 2 []]],
  exampleField "order" 5 [exampleField "address" 5 [exampleField "zip" 1 []]],
  exampleField "user" 2 [],
  exampleField "shop" 5 [exampleField "address" 5 [exampleField "city" 2 []]]]

def exampleResponses : List (Tree Doudian.Entry) := [
  exampleField "user" 3 [exampleField "address" 5 [exampleField "city" 2 []]],
  exampleField "order" 5 [exampleField "zip" 1 [], exampleField "note" 11 []]]

def exampleMethod : Method where
  name := some "Address"
  requestName := some "address"
  params := Doudian.dialect.models "Address" .param exampleParams
  responses := Doudian.dialect.models "Address" .response exampleResponses
  comments := []

-- The first address and the third are one model, and so are the users with an address.
example : exampleMethod.unify.models.map Model.name =
    ["Address1", "User", "Address2", "Order", "Shop", "Address", "Order1", "Address"] := by
  decide +kernel

theorem unfolds_unify_exampleMethod :
    Doudian.dialect.PlainNames exampleParams ∧ Doudian.dialect.PlainNames exampleResponses ∧
      exampleMethod.CollisionFree ∧
      ∃ param response, exampleMethod.unify.params.getLast? = some param ∧
        exampleMethod.unify.responses.getLast? = some response ∧
        (∀ trees, Unfolds exampleMethod.unify.models param.fields trees ↔
          trees = Doudian.dialect.outlineAll exampleParams) ∧
        ∀ trees, Unfolds exampleMethod.unify.models response.fields trees ↔
          trees = Doudian.dialect.outlineAll exampleResponses := by
  have plainParams : Doudian.dialect.PlainNames exampleParams :=
    ⟨by decide +kernel, by decide +kernel⟩
  have plainResponses : Doudian.dialect.PlainNames exampleResponses :=
    ⟨by decide +kernel, by decide +kernel⟩
  have free : exampleMethod.CollisionFree := by decide +kernel
  exact ⟨plainParams, plainResponses, free,
    unfolds_unify Doudian.dialect Doudian.leavesPrimitive plainParams plainResponses rfl rfl free⟩

end ApiSchema.Dialect
