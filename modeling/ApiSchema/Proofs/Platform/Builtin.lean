import ApiSchema.Json.Printer
import ApiSchema.Proofs.Naming.Pascal
import ApiSchema.Proofs.Naming.Place
import ApiSchema.Proofs.Platform.Reading

set_option autoImplicit false

namespace ApiSchema

open ApiSchema.Naming

/-- The platforms of the library with their dialects. -/
inductive IsBuiltin : Platform → {α : Type} → Dialect α → Prop
  | doudian : IsBuiltin Doudian.platform Doudian.dialect
  | weixin : IsBuiltin Weixin.platform Weixin.dialect
  | alipay : IsBuiltin Alipay.platform Alipay.dialect
  | alibaba : IsBuiltin Alibaba.platform Alibaba.dialect
  | kuaishou : IsBuiltin Kuaishou.platform Kuaishou.dialect
  | taobao : IsBuiltin Taobao.platform Taobao.dialect

theorem Weixin.isTag_modelName (entry : Weixin.Entry) :
    Primitive.isTag (Weixin.dialect.modelName entry) = false := by
  change Primitive.isTag (if entry.isList then entry.elementModel?.getD (pascalCase entry.name)
    else if Field.isReference entry.type.type then entry.type.type
    else pascalCase entry.name) = false
  split
  · cases held : entry.elementModel? with
    | none => exact isTag_pascalCase entry.name
    | some element =>
        unfold Weixin.Entry.elementModel? at held
        simpa using (Option.filter_eq_some_iff.mp held).2
  · split
    · rename_i refers
      exact (Field.isReference_iff.mp refers).2
    · exact isTag_pascalCase entry.name

/-- The local name of a model is no tag. -/
theorem IsBuiltin.isTag_modelName {platform : Platform} {α : Type} {dialect : Dialect α}
    (builtin : IsBuiltin platform dialect) (label : α) :
    Primitive.isTag (dialect.modelName label) = false := by
  cases builtin with
  | doudian => exact isTag_pascalCase _
  | weixin => exact Weixin.isTag_modelName label
  | alipay => exact isTag_className _
  | alibaba => exact isTag_className _
  | kuaishou => exact isTag_className _
  | taobao => exact isTag_className _

namespace Generator

variable {generator : Generator} {platform : Platform} {documentation : Documentation}
  {sourceUrl : Option String} {method : Method}

/-- What a platform of the library reads, it reads by its dialect. Pages are read by one platform
only. -/
theorem read_builtin (known : platform ∈ builtinPlatforms)
    (success : (generator.read platform documentation sourceUrl).result = .ok method) :
    ∃ (α : Type) (dialect : Dialect α), IsBuiltin platform dialect ∧ Read dialect method := by
  unfold builtinPlatforms at known
  simp only [List.mem_cons, List.not_mem_nil, or_false] at known
  unfold Generator.read at success
  cases documentation with
  | payload text =>
      rcases known with rfl | rfl | rfl | rfl | rfl | rfl
      · exact ⟨_, _, .doudian, Doudian.read success⟩
      · exact ⟨_, _, .weixin, Weixin.read success⟩
      · exact ⟨_, _, .alipay, Alipay.read success⟩
      · exact ⟨_, _, .alibaba, Alibaba.read success⟩
      · exact ⟨_, _, .kuaishou, Structured.read success⟩
      · exact ⟨_, _, .taobao, Structured.read success⟩
  | page page =>
      rcases known with rfl | rfl | rfl | rfl | rfl | rfl
      · cases success
      · exact ⟨_, _, .weixin, Weixin.readPage success⟩
      · cases success
      · cases success
      · cases success
      · cases success

/-- What is parsed was read and then unified. -/
theorem parse_eq_ok
    (success : (generator.parse platform documentation sourceUrl).result = .ok method) :
    ∃ read, (generator.read platform documentation sourceUrl).result = .ok read ∧
      method = read.unify := by
  obtain ⟨read, found, success⟩ := Lookup.bind_eq_ok success
  cases success
  exact ⟨read, found, rfl⟩

def offline : Generator := ⟨Settings.default, .memory true []⟩

theorem exists_ok_of_toOption {α : Type} {result : Except Failure α} {P : α → Bool}
    (holds : (result.toOption.any P) = true) : ∃ value, result = .ok value ∧ P value = true := by
  cases result with
  | error failure => cases holds
  | ok value => exact ⟨value, rfl, holds⟩

end Generator

end ApiSchema
