import ApiSchema.Proofs.Flatten.Models
import ApiSchema.Proofs.Platform.Builtin
import ApiSchema.Proofs.Platform.Leaves

set_option autoImplicit false

namespace ApiSchema

open ApiSchema.Naming

theorem RefersBackExcept.mono {loose looser : String → Prop} {models : List Model}
    (back : RefersBackExcept loose models) (wider : ∀ name, loose name → looser name) :
    RefersBackExcept looser models := by
  intro before model after split field member name refers
  exact (back before model after split field member name refers).imp_right (wider name)

theorem refersBack_assemble {α : Type} {dialect : Dialect α} {loose : String → Prop}
    {params responses : List (Tree α)}
    (leaves : ∀ tree ∈ forestNodes params ++ forestNodes responses,
      dialect.isNested tree = false → ∀ name ∈ (dialect.field tree.label).references, loose name)
    (context : Context) (names : ApiName) :
    RefersBackExcept loose (assemble dialect context names params responses).models := by
  rw [List.forall_mem_append] at leaves
  have back := Dialect.refersBack_models leaves.1 (refersBackExcept_nil loose)
    (names.method ++ "Param") .param
  exact Dialect.refersBack_models leaves.2 back (names.method ++ "Response") .response

/-- Where fields without members refer to nothing, all references of what is read are resolved. -/
theorem Read.refersBack {α : Type} {dialect : Dialect α} {method : Method}
    (read : Read dialect method) (grounded : dialect.Grounded) :
    RefersBackExcept (fun _ => False) method.models := by
  cases read with
  | notice comment => exact refersBackExcept_nil _
  | @assembled _ names _ _ params responses =>
      have back := grounded.refersBack_models (refersBackExcept_nil _) (names.method ++ "Param")
        .param params
      exact grounded.refersBack_models back _ .response responses

/-- The classes that lists of undescribed objects in a payload name. -/
def Alibaba.undescribedElements (payload : String) : List String :=
  match Alibaba.outline? payload with
  | none => []
  | some outline =>
      (forestNodes outline.params ++ forestNodes outline.responses).filterMap Alibaba.undescribed?

theorem Alibaba.refersBack {context : Context} {payload : String} {method : Method}
    (success : (Alibaba.parse context payload).result = .ok method) :
    RefersBackExcept (fun name => name ∈ Alibaba.undescribedElements payload) method.models := by
  rcases Alibaba.read_outline success with ⟨comment, rfl⟩ | ⟨outline, names, read, _, rfl⟩
  · exact refersBackExcept_nil _
  · refine refersBack_assemble ?_ context names
    intro tree member leaf name refers
    unfold Alibaba.undescribedElements
    rw [read]
    exact List.mem_filterMap.mpr ⟨tree, member, Alibaba.references_field leaf refers⟩

/-- The classes that documentation names as elements without describing them, for the platform that
refers to them nevertheless. -/
def undescribedElements (platform : Platform) : Documentation → List String
  | .payload text =>
      if platform.id = Alibaba.platform.id then Alibaba.undescribedElements text else []
  | .page _ => []

def Method.RefersTo (method : Method) (name : String) : Prop :=
  ∃ model ∈ method.models, ∃ field ∈ model.fields, name ∈ field.references

namespace Generator

variable {generator : Generator} {platform : Platform} {documentation : Documentation}
  {sourceUrl : Option String} {method : Method}

/-- Only references to undescribed elements can be unresolved. -/
theorem refersBack_read (known : platform ∈ builtinPlatforms)
    (success : (generator.read platform documentation sourceUrl).result = .ok method) :
    RefersBackExcept (fun name => name ∈ undescribedElements platform documentation)
      method.models := by
  obtain ⟨α, dialect, builtin, read⟩ := read_builtin known success
  have resolved : dialect.Grounded →
      RefersBackExcept (fun name => name ∈ undescribedElements platform documentation)
        method.models :=
    fun grounded => (read.refersBack grounded).mono fun _ nothing => nothing.elim
  cases builtin with
  | doudian => exact resolved Doudian.leavesPrimitive.grounded
  | weixin => exact resolved Weixin.grounded
  | alipay => exact resolved Alipay.leavesPrimitive.grounded
  | kuaishou => exact resolved (Structured.leavesPrimitive _ _).grounded
  | taobao => exact resolved (Structured.leavesPrimitive _ _).grounded
  | alibaba =>
      cases documentation with
      | payload text =>
          rw [undescribedElements, if_pos rfl]
          exact Alibaba.refersBack success
      | page page => cases success

/-- All references of what is parsed are resolved just in case each undescribed element that it
refers to has the name of one of its models. -/
theorem unresolved_parse_eq_nil_iff (generator : Generator) {platform : Platform}
    (known : platform ∈ builtinPlatforms) (documentation : Documentation)
    (sourceUrl : Option String) {method : Method}
    (success : (generator.parse platform documentation sourceUrl).result = .ok method) :
    method.unresolved = [] ↔
      ∀ name ∈ undescribedElements platform documentation, method.RefersTo name →
        ∃ model ∈ method.models, model.name = name := by
  obtain ⟨read, found, rfl⟩ := parse_eq_ok success
  have back := Method.refersBackExcept_unify (refersBack_read known found)
  rw [List.eq_nil_iff_forall_not_mem]
  constructor
  · intro resolved name _ refers
    by_contra undefined
    apply resolved name
    rw [Method.mem_unresolved]
    exact ⟨refers, fun model member same => undefined ⟨model, member, same⟩⟩
  · intro defined name missing
    obtain ⟨refers, undefined⟩ := Method.mem_unresolved.mp missing
    obtain ⟨model, member, same⟩ :=
      defined name (Method.loose_of_mem_unresolved back missing) refers
    exact undefined model member same

def withParams (params : List Json.Value) : String :=
  (Json.Value.object [
    ("success", .bool true),
    ("result", .object [("name", .string "a.b"), ("apiAppParamVOList", .array params)])]).compact

/-- A list of objects that is not marked as one with members. -/
def unmarkedList : Json.Value :=
  .object [("name", .string "items"), ("type", .string "com.foo.Item[]")]

/-- A list of the same objects that is marked, and describes them. -/
def markedList : Json.Value :=
  .object [("name", .string "others"), ("type", .string "com.bar.Item[]"),
    ("complexTypeFlag", .bool true),
    ("children", .array [.object [("name", .string "id"), ("type", .string "Long")]])]

/-- The two lists have elements of one name, so the reference that is left is resolved. -/
theorem unresolved_parse_markedList :
    undescribedElements Alibaba.platform (.payload (withParams [unmarkedList, markedList])) =
        ["Item"] ∧
      ∃ method, (offline.parse Alibaba.platform (.payload (withParams [unmarkedList, markedList]))
          none).result = .ok method ∧
        (method.unresolved = [] ↔
          ∀ name ∈ undescribedElements Alibaba.platform
            (.payload (withParams [unmarkedList, markedList])), method.RefersTo name →
            ∃ model ∈ method.models, model.name = name) ∧
        method.unresolved = [] := by
  refine ⟨by decide +kernel, ?_⟩
  have parsed : (offline.parse Alibaba.platform (.payload (withParams [unmarkedList, markedList]))
      none).result.toOption.any (fun method => method.unresolved.isEmpty) = true := by
    decide +kernel
  obtain ⟨method, success, resolved⟩ := exists_ok_of_toOption parsed
  exact ⟨method, success,
    offline.unresolved_parse_eq_nil_iff (by simp [builtinPlatforms]) _ none success,
    List.isEmpty_iff.mp resolved⟩

/-- A list that is not marked leaves a reference to a model that is not there. -/
theorem unresolved_parse_unmarkedList :
    Alibaba.platform ∈ builtinPlatforms ∧
      ∃ method, (offline.parse Alibaba.platform (.payload (withParams [unmarkedList]))
          none).result = .ok method ∧
        method.unresolved = ["Item"] := by
  refine ⟨by simp [builtinPlatforms], ?_⟩
  have parsed : (offline.parse Alibaba.platform (.payload (withParams [unmarkedList]))
      none).result.toOption.any (fun method => method.unresolved = ["Item"]) = true := by
    decide +kernel
  obtain ⟨method, success, dangling⟩ := exists_ok_of_toOption parsed
  exact ⟨method, success, of_decide_eq_true dangling⟩

end Generator

end ApiSchema
