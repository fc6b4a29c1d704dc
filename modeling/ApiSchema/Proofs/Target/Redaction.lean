import ApiSchema.Generator
import Mathlib

/-!
What is not written leaves no trace. Redacted under the options, a method keeps of its models the
fields that are written, and of these what may be written. A language writes a method as it writes
the redacted one, so methods that agree in what is kept have the same lines.
-/

set_option autoImplicit false

namespace ApiSchema

namespace EmitOptions

/-- The field with nothing but what may be written of it. -/
def redactField (options : EmitOptions) (field : Field) : Field :=
  { field with
    description := if options.wantDescription then field.description else ""
    sample := options.sample? field
    deprecated := false
    removed := false }

def redactModel (options : EmitOptions) (model : Model) : Model :=
  { model with fields := (options.visibleFields model).map options.redactField }

def redact (options : EmitOptions) (method : Method) : Method :=
  { method with
    params := method.params.map options.redactModel
    responses := method.responses.map options.redactModel }

variable (options : EmitOptions)

@[simp] theorem description?_redactField (field : Field) :
    options.description? (options.redactField field) = options.description? field := by
  unfold description? redactField
  split <;> rfl

@[simp] theorem sample?_redactField (field : Field) :
    options.sample? (options.redactField field) = options.sample? field := by
  unfold sample? redactField sample?
  split <;> rfl

@[simp] theorem visibleFields_redactModel (model : Model) :
    options.visibleFields (options.redactModel model) =
      (options.visibleFields model).map options.redactField := by
  have shown : ∀ field ∈ (options.visibleFields model).map options.redactField,
      field.isVisible options.wantRemoved options.wantDeprecated = true := by
    rw [List.forall_mem_map]
    exact fun field _ => rfl
  exact List.filter_eq_self.mpr shown

theorem models_redact (method : Method) :
    (options.redact method).models = method.models.map options.redactModel := by
  rw [Method.models, Method.models, List.map_append]
  rfl

theorem hasModels_redact (method : Method) :
    (options.redact method).hasModels = method.hasModels := by
  simp [Method.hasModels, redact]

/-- The request of a method needs no fields. -/
theorem wrapper?_redact (method : Method) :
    (options.redact method).wrapper? = method.wrapper? := by
  have root : (options.redact method).rootParam? =
      method.rootParam?.map options.redactModel := List.getLast?_map
  unfold Method.wrapper?
  rw [root]
  cases method.rootParam? <;> rfl

/-- Lines that do not change when a model is redacted do not change when a method is. -/
theorem flatMap_models_redact (lines : Model → List String)
    (same : ∀ model, lines (options.redactModel model) = lines model) (method : Method) :
    (options.redact method).models.flatMap lines = method.models.flatMap lines := by
  rw [models_redact, List.flatMap_map]
  exact congrArg (method.models.flatMap ·) (funext same)

end EmitOptions

namespace Python

variable (options : EmitOptions)

theorem fieldLine_redactField (field : Field) :
    fieldLine (options.redactField field) options = fieldLine field options := by
  have said : arguments (options.redactField field) options = arguments field options := by
    unfold arguments
    rw [options.description?_redactField, options.sample?_redactField]
    rfl
  unfold fieldLine assignment
  rw [said]
  rfl

theorem classLines_redactModel (model : Model) :
    classLines (options.redactModel model) options = classLines model options := by
  unfold classLines
  rw [options.visibleFields_redactModel, List.map_map]
  have body : (fun field => fieldLine field options) ∘ options.redactField =
      fun field => fieldLine field options := funext (fieldLine_redactField options)
  rw [body]
  rfl

theorem usesDates_redact (method : Method) :
    usesDates (options.redact method) options = usesDates method options := by
  unfold usesDates
  dsimp only
  rw [options.models_redact, List.any_map]
  congr 1
  funext model
  simp only [Function.comp_apply, options.visibleFields_redactModel, List.any_map]
  rfl

theorem emit_redact (method : Method) :
    emit (options.redact method) options = emit method options := by
  have classes := options.flatMap_models_redact (classLines · options)
    (classLines_redactModel options) method
  unfold emit
  dsimp only
  rw [options.hasModels_redact, classes, options.wrapper?_redact, imports, imports,
    usesDates_redact]
  rfl

end Python

namespace TypeScript

variable (options : EmitOptions)

theorem fieldLines_redactField (field : Field) :
    fieldLines (options.redactField field) options = fieldLines field options := by
  have said : fieldComment? (options.redactField field) options = fieldComment? field options := by
    unfold fieldComment?
    rw [options.description?_redactField, options.sample?_redactField]
  unfold fieldLines
  rw [said]
  rfl

theorem interfaceLines_redactModel (model : Model) :
    interfaceLines (options.redactModel model) options = interfaceLines model options := by
  unfold interfaceLines
  rw [options.visibleFields_redactModel, List.flatMap_map]
  simp only [fieldLines_redactField]
  rfl

theorem emit_redact (method : Method) :
    emit (options.redact method) options = emit method options := by
  have interfaces := options.flatMap_models_redact (interfaceLines · options)
    (interfaceLines_redactModel options) method
  unfold emit
  rw [interfaces, options.wrapper?_redact]
  rfl

end TypeScript

/-- Each language of the library writes a method as it writes the redacted one. -/
theorem emit_redact {target : Target} (known : target ∈ builtinTargets) (options : EmitOptions)
    (method : Method) :
    target.emit (options.redact method) options = target.emit method options := by
  unfold builtinTargets at known
  rw [List.mem_pair] at known
  rcases known with rfl | rfl
  · exact Python.emit_redact options method
  · exact TypeScript.emit_redact options method

/-- Fields that agree in all that may be written of them. -/
structure Field.LooksLike (options : EmitOptions) (first second : Field) : Prop where
  name : first.name = second.name
  type : first.type = second.type
  element : first.element = second.element
  required : first.required = second.required
  minLength : first.minLength = second.minLength
  maxLength : first.maxLength = second.maxLength
  description : options.wantDescription = true → first.description = second.description
  sample : options.wantSample = true → first.sample = second.sample

/-- Models that agree in name and kind and, in order, in the fields that are written. -/
structure Model.LooksLike (options : EmitOptions) (first second : Model) : Prop where
  name : first.name = second.name
  kind : first.kind = second.kind
  fields : List.Forall₂ (Field.LooksLike options) (options.visibleFields first)
    (options.visibleFields second)

/-- Methods that agree in names and comments and, in order, in their models. -/
structure Method.LooksLike (options : EmitOptions) (first second : Method) : Prop where
  name : first.name = second.name
  requestName : first.requestName = second.requestName
  comments : first.comments = second.comments
  params : List.Forall₂ (Model.LooksLike options) first.params second.params
  responses : List.Forall₂ (Model.LooksLike options) first.responses second.responses

theorem map_eq_of_forall₂ {α β : Type} {related : α → α → Prop} (image : α → β)
    (same : ∀ {first second}, related first second → image first = image second)
    {firsts seconds : List α} (alike : List.Forall₂ related firsts seconds) :
    firsts.map image = seconds.map image := by
  rw [← List.forall₂_eq_eq_eq, List.forall₂_map_left_iff, List.forall₂_map_right_iff]
  exact alike.imp fun _ _ => same

section

variable {options : EmitOptions}

theorem Field.LooksLike.redactField {first second : Field}
    (alike : first.LooksLike options second) :
    options.redactField first = options.redactField second := by
  have description : (if options.wantDescription then first.description else "") =
      if options.wantDescription then second.description else "" := by
    split
    · exact alike.description ‹_›
    · rfl
  have sample : options.sample? first = options.sample? second := by
    unfold EmitOptions.sample?
    split
    · exact alike.sample ‹_›
    · rfl
  unfold EmitOptions.redactField
  rw [description, sample, alike.name, alike.type, alike.element, alike.required, alike.minLength,
    alike.maxLength]

theorem Model.LooksLike.redactModel {first second : Model}
    (alike : first.LooksLike options second) :
    options.redactModel first = options.redactModel second := by
  unfold EmitOptions.redactModel
  rw [map_eq_of_forall₂ options.redactField Field.LooksLike.redactField alike.fields, alike.name,
    alike.kind]

theorem Method.LooksLike.redact {first second : Method} (alike : first.LooksLike options second) :
    options.redact first = options.redact second := by
  have params := map_eq_of_forall₂ options.redactModel Model.LooksLike.redactModel alike.params
  have responses := map_eq_of_forall₂ options.redactModel Model.LooksLike.redactModel
    alike.responses
  unfold EmitOptions.redact
  rw [params, responses, alike.name, alike.requestName, alike.comments]

end

/-- Methods that look alike have the same lines in each language of the library, whatever else their
models hold. -/
theorem emit_eq_of_looksLike {target : Target} (known : target ∈ builtinTargets)
    {options : EmitOptions} {first second : Method} (alike : first.LooksLike options second) :
    target.emit first options = target.emit second options := by
  rw [← emit_redact known options first, alike.redact, emit_redact known options second]

def terse : EmitOptions where
  wantRemoved := false
  wantDeprecated := true
  wantSample := true
  wantDescription := false
  bases := .ofFamily "Shop"

def orderMethod (order answer : List Field) : Method where
  name := some "OrderGet"
  requestName := some "order.get"
  params := [⟨"Order", .child, order⟩,
    ⟨"OrderGetParam", .param, [Field.listOf "orders" (some "Order")]⟩]
  responses := [⟨"OrderGetResponse", .response, answer⟩]
  comments := ["orders"]

def plainOrder : Method :=
  orderMethod [{ Field.of "id" "int" with sample := some "1", maxLength := some 9 }] []

/-- The same between removed fields, one of them a date, and otherwise described. -/
def agedOrder : Method :=
  orderMethod
    [{ Field.of "created" "datetime" with removed := true },
      { Field.of "id" "int" with
        sample := some "1", maxLength := some 9, deprecated := true, description := "编号" }]
    [{ Field.listOf "days" (some "datetime") with removed := true, required := true }]

theorem emit_eq_of_looksLike_agedOrder :
    plainOrder.LooksLike terse agedOrder ∧ plainOrder ≠ agedOrder ∧
      (Python.target ∈ builtinTargets ∧
        Python.target.emit plainOrder terse = Python.target.emit agedOrder terse) ∧
      TypeScript.target ∈ builtinTargets ∧
        TypeScript.target.emit plainOrder terse = TypeScript.target.emit agedOrder terse := by
  have identifier : Field.LooksLike terse
      { Field.of "id" "int" with sample := some "1", maxLength := some 9 }
      { Field.of "id" "int" with
        sample := some "1", maxLength := some 9, deprecated := true, description := "编号" } :=
    ⟨rfl, rfl, rfl, rfl, rfl, rfl, (nomatch ·), fun _ => rfl⟩
  have orders : Field.LooksLike terse (Field.listOf "orders" (some "Order"))
      (Field.listOf "orders" (some "Order")) :=
    ⟨rfl, rfl, rfl, rfl, rfl, rfl, fun _ => rfl, fun _ => rfl⟩
  have alike : plainOrder.LooksLike terse agedOrder := {
    name := rfl
    requestName := rfl
    comments := rfl
    params := .cons ⟨rfl, rfl, .cons identifier .nil⟩ (.cons ⟨rfl, rfl, .cons orders .nil⟩ .nil)
    responses := .cons ⟨rfl, rfl, .nil⟩ .nil }
  have python : Python.target ∈ builtinTargets := List.mem_cons_self
  have typeScript : TypeScript.target ∈ builtinTargets := List.mem_cons_of_mem _ List.mem_cons_self
  exact ⟨alike, by decide, ⟨python, emit_eq_of_looksLike python alike⟩, typeScript,
    emit_eq_of_looksLike typeScript alike⟩

end ApiSchema
