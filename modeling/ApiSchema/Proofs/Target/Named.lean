import ApiSchema.Proofs.Target.Definitions

set_option autoImplicit false

namespace ApiSchema

open ApiSchema.Naming

/-- Whether something holds of every type that the fields of models name. -/
def EachType (P : String → Prop) (models : List Model) : Prop :=
  ∀ model ∈ models, ∀ field ∈ model.fields, ∀ type ∈ field.types, P type

theorem EachType.mono {P Q : String → Prop} {models : List Model} (each : EachType P models)
    (implies : ∀ type, P type → Q type) : EachType Q models :=
  fun model member field inside type named => implies type (each model member field inside type named)

theorem eachType_append {P : String → Prop} {first second : List Model} :
    EachType P (first ++ second) ↔ EachType P first ∧ EachType P second :=
  List.forall_mem_append

namespace Naming.Ledger

variable {P : String → Prop} {before kept : List Model} {ledger : Ledger} {model : Model}

/-- The types of renamed fields are names of nested models that were kept, or they are as before. -/
theorem types_renameFields {loose : String → Prop} (closed : Closed loose before ledger kept)
    (typed : ∀ field ∈ model.fields, ∀ type ∈ field.types, P type) :
    ∀ field ∈ ledger.renameFields model.fields, ∀ type ∈ field.types,
      HasChild kept type ∨ P type := by
  intro field member type named
  obtain ⟨original, inside, rfl⟩ := List.mem_map.mp member
  rcases mem_types_renameField named with ⟨entry, given, rfl⟩ | ⟨_, held⟩
  · exact Or.inl (closed.renamed entry given)
  · exact Or.inr (typed original inside type held)

theorem eachType_entered {loose : String → Prop} (closed : Closed loose before ledger kept)
    (each : EachType (fun type => HasChild kept type ∨ P type) kept)
    (typed : ∀ field ∈ model.fields, ∀ type ∈ field.types, P type) {next : Ledger}
    {added : Option Model} (entered : Entered ledger model next added) :
    EachType (fun type => HasChild (kept ++ added.toList) type ∨ P type)
      (kept ++ added.toList) := by
  have fields := types_renameFields closed typed
  have last : EachType (fun type => HasChild kept type ∨ P type) added.toList := by
    cases entered with
    | outer kind => exact List.forall_mem_singleton.mpr fields
    | unified kind found => exact fun _ member => absurd member List.not_mem_nil
    | named kind new => exact List.forall_mem_singleton.mpr fields
  exact (eachType_append.mpr ⟨each, last⟩).mono fun _ =>
    Or.imp_left fun held => held.append_left _

theorem eachType_enterAll (outer : List String) {models : List Model} (each : EachType P models) :
    EachType (fun type => HasChild ((start outer).enterAll models).2 type ∨ P type)
      ((start outer).enterAll models).2 := by
  apply enterAll_invariant outer models
    (fun _ _ kept => EachType (fun type => HasChild kept type ∨ P type) kept)
  · exact fun _ member => absurd member List.not_mem_nil
  · intro before model after split ledger kept reached inner
    -- Only the names that were given matter here, so any reference may be loose.
    have closed : Closed (fun _ => True) before ledger kept := by
      have back : RefersBackExcept (fun _ => True) before :=
        fun _ _ _ _ _ _ _ _ => Or.inr trivial
      have all := closed_enterAll outer back
      rwa [reached] at all
    have member : model ∈ models := by
      rw [split]
      simp
    exact eachType_entered closed inner (each model member) (ledger.entered model)

end Naming.Ledger

namespace Method

def Named (method : Method) : Prop := ∀ model ∈ method.models, model.name ≠ ""

instance (method : Method) : Decidable method.Named :=
  inferInstanceAs (Decidable (∀ model ∈ method.models, model.name ≠ ""))

/-- A type of a field after unification is the name of a nested model, or it was one before. -/
theorem eachType_unify {method : Method} {P : String → Prop} (each : EachType P method.models) :
    EachType (fun type => HasChild method.unify.models type ∨ P type) method.unify.models := by
  rw [unify_models]
  exact Naming.Ledger.eachType_enterAll method.outerNames each

/-- A model has no name exactly if the local name of a nested model is empty. -/
theorem named_unify_iff {method : Method} (outer : "" ∉ method.outerNames) :
    method.unify.Named ↔
      ∀ model ∈ method.models, model.kind = .child → localName model.name ≠ "" := by
  have ends : ∀ last ∈ "".toList.getLast?, last.isDigit = false := by simp
  have taken := mem_names_unify ends outer
  rw [List.mem_map] at taken
  have nameless := not_congr taken
  simp only [not_exists, not_and] at nameless
  exact nameless

end Method

namespace Dialect

variable {α : Type} {dialect : Dialect α}

/-- A field by itself has a type, and so have its elements if it names one. -/
theorem types_field (label : α) : ∀ type ∈ (dialect.field label).types, type ≠ "" := by
  intro type named
  rcases Field.mem_types.mp named with rfl | element
  · rw [field_type]
    split
    · decide
    · assumption
  · exact (element_field element).2

theorem types_reference {field : Field} {isList : Bool} {model : String} (named : model ≠ "") :
    ∀ type ∈ (reference field isList model).types, type ≠ "" := by
  cases isList with
  | true => simp [reference, Field.types, named, Primitive.tag]
  | false => simp [reference, Field.types, named]

/-- Where all models have names, so have all types. -/
theorem Flattened.typed {path : String} {seen : List String} {forest : List (Tree α)}
    {fields : List Field} {models : List Model}
    (flattened : Flattened dialect path seen forest fields models)
    (named : ∀ model ∈ models, model.name ≠ "") :
    (∀ field ∈ fields, ∀ type ∈ field.types, type ≠ "") ∧ EachType (· ≠ "") models := by
  induction flattened with
  | nil => simp [EachType]
  | repeated _ _ ih => exact ih named
  | plain _ _ _ ih =>
      obtain ⟨later, inner⟩ := ih named
      exact ⟨List.forall_mem_cons.mpr ⟨types_field _, later⟩, inner⟩
  | nested _ _ _ _ ihBelow ihLater =>
      rw [List.forall_mem_append, List.forall_mem_cons] at named
      obtain ⟨namedBelow, own, namedLater⟩ := named
      obtain ⟨members, innerBelow⟩ := ihBelow namedBelow
      obtain ⟨later, innerLater⟩ := ihLater namedLater
      refine ⟨List.forall_mem_cons.mpr ⟨types_reference own, later⟩, ?_⟩
      exact eachType_append.mpr ⟨innerBelow, List.forall_mem_cons.mpr ⟨members, innerLater⟩⟩

theorem eachType_models {rootName : String} {kind : ModelKind} {forest : List (Tree α)}
    (named : ∀ model ∈ dialect.models rootName kind forest, model.kind = .child →
      model.name ≠ "") : EachType (· ≠ "") (dialect.models rootName kind forest) := by
  have flattened := dialect.flattened "" [] forest
  rw [models_eq, List.forall_mem_append] at named
  obtain ⟨outermost, inner⟩ := flattened.typed fun model member =>
    named.1 model member (flattened.child model member)
  rw [models_eq]
  exact eachType_append.mpr ⟨inner, List.forall_mem_singleton.mpr outermost⟩

end Dialect

theorem ne_empty_of_localName {name : String} (named : localName name ≠ "") : name ≠ "" := by
  rintro rfl
  exact named (by decide)

namespace Read

variable {α : Type} {dialect : Dialect α} {method : Method}

theorem empty_not_mem_outerNames (read : Read dialect method) : "" ∉ method.outerNames := by
  cases read with
  | notice comment => exact List.not_mem_nil
  | @assembled raw names named context params responses comments =>
      change "" ∉ (assemble dialect context names params responses).outerNames
      rw [outerNames_assemble]
      simp

theorem eachType (read : Read dialect method)
    (named : ∀ model ∈ method.models, model.kind = .child → localName model.name ≠ "") :
    EachType (· ≠ "") method.models := by
  have named : ∀ model ∈ method.models, model.kind = .child → model.name ≠ "" :=
    fun model member child => ne_empty_of_localName (named model member child)
  cases read with
  | notice comment => exact fun _ member => absurd member List.not_mem_nil
  | assembled _ _ params responses comments =>
      obtain ⟨inParams, inResponses⟩ := List.forall_mem_append.mp named
      exact eachType_append.mpr
        ⟨Dialect.eachType_models inParams, Dialect.eachType_models inResponses⟩

/-- Where all models have names after unification, so have all types. -/
theorem eachType_unify (read : Read dialect method) (named : method.unify.Named) :
    EachType (· ≠ "") method.unify.models := by
  have inner := (Method.named_unify_iff read.empty_not_mem_outerNames).mp named
  refine (Method.eachType_unify (read.eachType inner)).mono fun type => ?_
  rintro (⟨model, member, _, rfl⟩ | filled)
  · exact named model member
  · exact filled

end Read

theorem Method.Named.definitions {method : Method} (named : method.Named) :
    ∀ definition ∈ method.definitions, definition.name ≠ "" := by
  intro definition member
  rcases List.mem_append.mp member with ofModel | ofRequest
  · obtain ⟨model, inside, rfl⟩ := List.mem_map.mp ofModel
    exact named model inside
  · obtain ⟨wrapper, _, rfl⟩ := List.mem_map.mp ofRequest
    simp [Definition.name]

/-- Every model of what is parsed has a name exactly if every nested model has a local name as the
platform reads it. Then no field names the empty type, and every definition in the lines of a
language is one of a name. -/
theorem Generator.named_parse_iff (generator : Generator) {platform : Platform}
    (known : platform ∈ builtinPlatforms) (documentation : Documentation)
    (sourceUrl : Option String) {method : Method}
    (success : (generator.parse platform documentation sourceUrl).result = .ok method) :
    ∃ read, (generator.read platform documentation sourceUrl).result = .ok read ∧
      (method.Named ↔ ∀ model ∈ read.models, model.kind = .child → localName model.name ≠ "") ∧
      (method.Named → EachType (· ≠ "") method.models ∧
        (∀ definition ∈ method.definitions, definition.name ≠ "") ∧
        ∀ target ∈ builtinTargets, ∃ headers, HasHeaders target headers ∧
          (generator.render platform target method).filter headers.begins =
            method.definitions.map
              (headers.line (generator.settings.basesFor platform.id platform.bases))) := by
  obtain ⟨read, found, rfl⟩ := Generator.parse_eq_ok success
  obtain ⟨α, dialect, _, reads⟩ := Generator.read_builtin known found
  refine ⟨read, found, Method.named_unify_iff reads.empty_not_mem_outerNames, fun named => ?_⟩
  refine ⟨reads.eachType_unify named, named.definitions, fun target spoken => ?_⟩
  obtain ⟨headers, written⟩ := exists_headers spoken
  exact ⟨headers, written, written.filter_emit read.unify _⟩

namespace Generator

theorem named_parse_order :
    ∃ method, (offline.parse Alibaba.platform (.payload (orderWith "Order").compact) none).result =
        .ok method ∧
      method.Named ∧
      ∃ read, (offline.read Alibaba.platform (.payload (orderWith "Order").compact) none).result =
          .ok read ∧
        (method.Named ↔ ∀ model ∈ read.models, model.kind = .child → localName model.name ≠ "") ∧
        (method.Named → EachType (· ≠ "") method.models ∧
          (∀ definition ∈ method.definitions, definition.name ≠ "") ∧
          ∀ target ∈ builtinTargets, ∃ headers, HasHeaders target headers ∧
            (offline.render Alibaba.platform target method).filter headers.begins =
              method.definitions.map (headers.line Alibaba.platform.bases)) := by
  have parsed : (offline.parse Alibaba.platform (.payload (orderWith "Order").compact)
      none).result.toOption.any (fun method => method.Named) = true := by
    decide +kernel
  obtain ⟨method, success, named⟩ := exists_ok_of_toOption parsed
  exact ⟨method, success, of_decide_eq_true named,
    offline.named_parse_iff (by simp [builtinPlatforms]) _ _ success⟩

def untypedItems : Json.Value := .object [
  ("success", .bool true),
  ("data", .object [
    ("name", .string "a.b"),
    ("requestParams", .array [
      .object [("name", .string "items"),
        ("subParams", .array [.object [("name", .string "id"), ("type", .string "Long")]])]])])]

/-- What has members but no type becomes a model without a name. -/
theorem nameless_parse_items :
    ∃ method, (offline.parse Taobao.platform (.payload untypedItems.compact) none).result =
        .ok method ∧
      (offline.render Taobao.platform Python.target method).filter Python.headers.begins =
        ["class (BaseModel):", "class ABParam(TopParamBase):",
          "class ABResponse(TopResponseBase):", "class ABRequest(TopRequestBase):"] ∧
      method.params.flatMap Model.fields = [Field.of "id" "int", Field.of "items" ""] ∧
      method.unresolved = [] ∧ ¬ method.Named := by
  have parsed : (offline.parse Taobao.platform (.payload untypedItems.compact)
      none).result.toOption.any (fun method =>
        (offline.render Taobao.platform Python.target method).filter Python.headers.begins =
          ["class (BaseModel):", "class ABParam(TopParamBase):",
            "class ABResponse(TopResponseBase):", "class ABRequest(TopRequestBase):"] ∧
        method.params.flatMap Model.fields = [Field.of "id" "int", Field.of "items" ""] ∧
        method.unresolved = [] ∧ ¬ method.Named) = true := by
    decide +kernel
  obtain ⟨method, success, nameless⟩ := exists_ok_of_toOption parsed
  exact ⟨method, success, of_decide_eq_true nameless⟩

end Generator

end ApiSchema
