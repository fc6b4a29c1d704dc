import ApiSchema.Proofs.Flatten.Models
import ApiSchema.Proofs.Platform.Builtin
import ApiSchema.Proofs.Unify.Names

set_option autoImplicit false

namespace ApiSchema

open ApiSchema.Naming

/-- The outermost model comes last, under the name and for the purpose given. -/
def EndsWithRoot (models : List Model) (rootName : String) (kind : ModelKind) : Prop :=
  ∃ nested fields, models = nested ++ [⟨rootName, kind, fields⟩] ∧
    ∀ model ∈ nested, model.kind = .child

/-- Fields have different names, and only lists have elements. -/
structure Model.WellFormed (model : Model) : Prop where
  distinct : (model.fields.map Field.name).Nodup
  listed : ∀ field ∈ model.fields, field.element ≠ none → field.type = Primitive.list.tag

namespace Method

/-- The models of the method with the dotted name. -/
structure Describes (method : Method) (request : String) : Prop where
  request_ne : request ≠ ""
  requestName : method.requestName = some request
  name : method.name = some (pascalCase request)
  params : EndsWithRoot method.params (pascalCase request ++ "Param") .param
  responses : EndsWithRoot method.responses (pascalCase request ++ "Response") .response
  distinct : (method.models.map Model.name).Nodup
  models : ∀ model ∈ method.models, model.WellFormed

/-- Either a comment is all that is known, or the models of a method are. -/
def WellFormed (method : Method) : Prop :=
  (∃ comment, method = unknown comment) ∨ ∃ request, method.Describes request

end Method

namespace Naming

theorem isTag_nestedName {localPart : String} (untagged : Primitive.isTag localPart = false)
    (ancestors : List String) : Primitive.isTag (nestedName localPart ancestors) = false := by
  unfold nestedName
  split
  · exact untagged
  · have mark : '@' ∈ "@".toList := by simp
    refine Primitive.not_isTag_of_mem (c := '@') ?_ (by decide)
    rw [String.toList_append, String.toList_append]
    exact List.mem_append_left _ (List.mem_append_right _ mark)

theorem apiName?_eq_some {raw : String} {names : ApiName} (found : apiName? raw = some names) :
    names.request ≠ "" ∧ names.method = pascalCase names.request := by
  unfold apiName? at found
  dsimp only at found
  split at found
  · cases found
  · rename_i filled
    cases found
    refine ⟨?_, by rw [pascalCase, String.toList_ofList]⟩
    intro empty
    have nothing := congrArg String.toList empty
    rw [String.toList_ofList] at nothing
    apply filled
    rw [List.isEmpty_iff]
    split at nothing
    · exact List.map_eq_nil_iff.mp nothing
    · exact nothing

end Naming

namespace Dialect

variable {α : Type} {dialect : Dialect α}

/-- Models of fields are well formed. -/
theorem wellFormed_models (dialect : Dialect α) (rootName : String) (kind : ModelKind)
    (forest : List (Tree α)) :
    ∀ model ∈ dialect.models rootName kind forest, model.WellFormed := by
  have flattened := dialect.flattened "" [] forest
  obtain ⟨distinct, _, distinctInner⟩ := flattened.distinct
  obtain ⟨listed, listedInner⟩ := flattened.forall_fields
    (P := fun field => field.element ≠ none → field.type = Primitive.list.tag)
    (fun _ _ _ => listed_field) fun _ _ _ _ _ => listed_reference
  rw [models_eq, List.forall_mem_append, List.forall_mem_singleton]
  exact ⟨fun model member => ⟨distinctInner model member, listedInner model member⟩,
    distinct, listed⟩

theorem endsWithRoot_models (dialect : Dialect α) (rootName : String) (kind : ModelKind)
    (forest : List (Tree α)) :
    EndsWithRoot (dialect.models rootName kind forest) rootName kind :=
  ⟨_, _, dialect.models_eq rootName kind forest, (dialect.flattened "" [] forest).child⟩

/-- A nested model is not named like a tag, if its local name is none. -/
theorem isTag_models (untagged : ∀ label, Primitive.isTag (dialect.modelName label) = false)
    {rootName : String} {kind : ModelKind} (outer : kind ≠ .child) {forest : List (Tree α)}
    {name : String} (held : HasChild (dialect.models rootName kind forest) name) :
    Primitive.isTag name = false := by
  obtain ⟨model, member, child, rfl⟩ := held
  rw [models_eq, List.mem_append, List.mem_singleton] at member
  rcases member with nested | rfl
  · obtain ⟨tree, _, _, path, spelled⟩ := (dialect.flattened "" [] forest).named model nested
    rw [spelled]
    exact isTag_nestedName (untagged tree.label) _
  · exact absurd child outer

end Dialect

theorem outerNamesOf_child {models : List Model} (child : ∀ model ∈ models, model.kind = .child) :
    outerNamesOf models = [] := by
  rw [List.eq_nil_iff_forall_not_mem]
  intro name member
  obtain ⟨model, inside, outer, _⟩ := mem_outerNamesOf.mp member
  exact outer (child model inside)

namespace EndsWithRoot

variable {models : List Model} {rootName : String} {kind : ModelKind}

theorem outerNames (ends : EndsWithRoot models rootName kind) (outer : kind ≠ .child) :
    outerNamesOf models = [rootName] := by
  obtain ⟨nested, fields, rfl, child⟩ := ends
  rw [outerNamesOf_append, outerNamesOf_child child, outerNamesOf_cons outer]
  rfl

/-- The outermost model stays the last one. -/
theorem enterAll (ends : EndsWithRoot models rootName kind) (outer : kind ≠ .child)
    (ledger : Ledger) : EndsWithRoot (ledger.enterAll models).2 rootName kind := by
  obtain ⟨nested, fields, rfl, child⟩ := ends
  exact ⟨_, _, ledger.enterAll_outer nested outer, Ledger.child_enterAll child ledger⟩

end EndsWithRoot

/-- Renaming fields keeps models well formed, unless it renames the type of lists. -/
theorem Model.WellFormed.renameFields {model original : Model} (wellFormed : original.WellFormed)
    {ledger : Ledger} (lists : ledger.renames.lookup Primitive.list.tag = none)
    (fields : model.fields = ledger.renameFields original.fields) : model.WellFormed where
  distinct := by
    have names : model.fields.map Field.name = original.fields.map Field.name := by
      rw [fields, Ledger.renameFields, List.map_map]
      rfl
    rw [names]
    exact wellFormed.distinct
  listed := by
    intro field member some
    rw [fields] at member
    obtain ⟨before, inside, rfl⟩ := List.mem_map.mp member
    have type := wellFormed.listed before inside (by simpa [Ledger.renameField] using some)
    change ledger.rename before.type = _
    rw [type, Ledger.rename_of_unknown lists]

/-- Unification keeps models well formed, if no nested model is named like a tag. -/
theorem Method.wellFormed_unify_models {method : Method}
    (wellFormed : ∀ model ∈ method.models, model.WellFormed)
    (untagged : ∀ name, HasChild method.models name → Primitive.isTag name = false) :
    ∀ model ∈ method.unify.models, model.WellFormed := by
  intro model member
  obtain ⟨original, inside, ledger, keys, _, fields⟩ := Method.origin_unify member
  apply (wellFormed original inside).renameFields _ fields
  cases found : ledger.renames.lookup Primitive.list.tag with
  | none => rfl
  | some name =>
      have tagged : Primitive.isTag Primitive.list.tag = false :=
        untagged _ (keys _ (mem_of_lookup found))
      exact absurd tagged (by decide)

theorem suffix_ne (names : ApiName) : names.method ++ "Param" ≠ names.method ++ "Response" := by
  rw [ne_eq, String.append_right_inj]
  decide

section Assembled

variable {α : Type} {dialect : Dialect α} (context : Context) {names : ApiName}
  {params responses : List (Tree α)}

theorem wellFormed_assemble :
    ∀ model ∈ (assemble dialect context names params responses).models, model.WellFormed := by
  change ∀ model ∈ dialect.models (names.method ++ "Param") .param params ++
    dialect.models (names.method ++ "Response") .response responses, model.WellFormed
  rw [List.forall_mem_append]
  exact ⟨dialect.wellFormed_models _ .param params,
    dialect.wellFormed_models _ .response responses⟩

theorem isTag_assemble (untagged : ∀ label, Primitive.isTag (dialect.modelName label) = false)
    {name : String}
    (held : HasChild (assemble dialect context names params responses).models name) :
    Primitive.isTag name = false := by
  obtain ⟨model, member, child, rfl⟩ := held
  rcases List.mem_append.mp member with inParams | inResponses
  · exact Dialect.isTag_models untagged (by decide) ⟨model, inParams, child, rfl⟩
  · exact Dialect.isTag_models untagged (by decide) ⟨model, inResponses, child, rfl⟩

theorem outerNames_assemble :
    (assemble dialect context names params responses).outerNames =
      [names.method ++ "Param", names.method ++ "Response"] := by
  change outerNamesOf (dialect.models (names.method ++ "Param") .param params ++
    dialect.models (names.method ++ "Response") .response responses) = _
  rw [outerNamesOf_append, (dialect.endsWithRoot_models _ .param params).outerNames (by decide),
    (dialect.endsWithRoot_models _ .response responses).outerNames (by decide)]
  rfl

/-- The models of two forests describe the method once they are unified, whatever is said of it. -/
theorem describes_unify (untagged : ∀ label, Primitive.isTag (dialect.modelName label) = false)
    {raw : String} (named : apiName? raw = some names) (comments : List String) :
    Method.Describes
      ({ assemble dialect context names params responses with comments } : Method).unify
      names.request := by
  obtain ⟨request_ne, pascal⟩ := apiName?_eq_some named
  refine ⟨request_ne, rfl, ?_, ?_, ?_, ?_, ?_⟩
  · rw [← pascal]
    rfl
  · rw [Method.unify_params, ← pascal]
    exact (dialect.endsWithRoot_models _ .param params).enterAll (by decide) _
  · rw [Method.unify_responses, ← pascal]
    exact (dialect.endsWithRoot_models _ .response responses).enterAll (by decide) _
  · apply Method.nodup_names_unify
    change (assemble dialect context names params responses).outerNames.Nodup
    rw [outerNames_assemble]
    simp [suffix_ne names]
  · apply Method.wellFormed_unify_models
    · exact wellFormed_assemble context
    · exact fun name held => isTag_assemble context untagged held

end Assembled

namespace Read

variable {α : Type} {dialect : Dialect α} {method : Method}

/-- What is read is well formed once its models are unified. -/
theorem wellFormed_unify (read : Read dialect method)
    (untagged : ∀ label, Primitive.isTag (dialect.modelName label) = false) :
    method.unify.WellFormed := by
  cases read with
  | notice comment => exact Or.inl ⟨comment, rfl⟩
  | assembled named context params responses comments =>
      exact Or.inr ⟨_, describes_unify context untagged named comments⟩

end Read

/-- Whatever a platform of the library makes of documentation is well formed. -/
theorem Generator.wellFormed_parse (generator : Generator) {platform : Platform}
    (known : platform ∈ builtinPlatforms) (documentation : Documentation)
    (sourceUrl : Option String) {method : Method}
    (success : (generator.parse platform documentation sourceUrl).result = .ok method) :
    method.WellFormed := by
  obtain ⟨read, found, rfl⟩ := Generator.parse_eq_ok success
  obtain ⟨α, dialect, builtin, reads⟩ := Generator.read_builtin known found
  exact reads.wellFormed_unify builtin.isTag_modelName

namespace Generator

def order : Json.Value := .object [
  ("success", .bool true),
  ("result", .object [
    ("name", .string "order.get"),
    ("apiAppParamVOList", .array [
      .object [("name", .string "id"), ("type", .string "Long")]]),
    ("apiReturnParamVOList", .array [
      .object [("name", .string "items"), ("type", .string "OrderGetResponse[]"),
        ("complexTypeFlag", .bool true),
        ("children", .array [
          .object [("name", .string "price"), ("type", .string "Double")]])]])])]

theorem wellFormed_parse_order :
    ∃ method, (offline.parse Alibaba.platform (.payload order.compact) none).result = .ok method ∧
      method.models.map Model.name = ["OrderGetParam", "OrderGetResponse1", "OrderGetResponse"] ∧
      method.WellFormed := by
  have parsed : (offline.parse Alibaba.platform (.payload order.compact)
      none).result.toOption.any (fun method => method.models.map Model.name =
        ["OrderGetParam", "OrderGetResponse1", "OrderGetResponse"]) = true := by
    decide +kernel
  obtain ⟨method, success, names⟩ := exists_ok_of_toOption parsed
  exact ⟨method, success, of_decide_eq_true names,
    offline.wellFormed_parse (by simp [builtinPlatforms]) _ _ success⟩

end Generator

end ApiSchema
