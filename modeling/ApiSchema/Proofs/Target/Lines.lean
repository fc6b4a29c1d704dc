import ApiSchema.Generator
import ApiSchema.Proofs.Target.Attributes
import ApiSchema.Proofs.Text.OneLine

set_option autoImplicit false

namespace ApiSchema

/-- The texts of a field that are written as they are: its name, and the names of its types. -/
def Field.rawTexts (field : Field) : List String :=
  field.name :: if field.isList then field.element.toList else [field.type]

def Model.rawTexts (options : EmitOptions) (model : Model) : List String :=
  model.name :: options.bases.get model.kind ::
    (options.visibleFields model).flatMap Field.rawTexts

def Wrapper.rawTexts (options : EmitOptions) (wrapper : Wrapper) : List String :=
  [wrapper.method, options.bases.get .request, wrapper.request, wrapper.param]

def Method.rawTexts (options : EmitOptions) (method : Method) : List String :=
  method.comments ++ method.models.flatMap (Model.rawTexts options) ++
    method.wrapper?.toList.flatMap (Wrapper.rawTexts options)

/-- What is said of the field is on one line. -/
structure Field.Plain (field : Field) : Prop where
  description : OneLine field.description
  sample : ∀ sample ∈ field.sample, OneLine sample

/-- What is said of the fields of a method is on one line. -/
def Method.Plain (method : Method) : Prop :=
  ∀ model ∈ method.models, ∀ field ∈ model.fields, field.Plain

/-- Without models there is no request. -/
theorem Method.bare_of_not_hasModels {method : Method} (bare : method.hasModels = false) :
    method.models = [] ∧ method.wrapper? = none := by
  obtain ⟨noParams, noResponses⟩ : method.params = [] ∧ method.responses = [] := by
    simpa [hasModels] using bare
  refine ⟨by rw [models, noParams, noResponses]; rfl, ?_⟩
  simp [wrapper?, rootParam?, noParams]

section

variable {field : Field} {options : EmitOptions}

/-- The description and the sample that are written, if any, are on one line. -/
theorem Field.Plain.written (plain : field.Plain) (options : EmitOptions) :
    (∀ text ∈ options.description? field, OneLine text) ∧
      ∀ text ∈ options.sample? field, OneLine text := by
  unfold EmitOptions.description? EmitOptions.sample?
  constructor
  · split
    · simpa using plain.description
    · simp
  · split
    · exact plain.sample
    · simp

theorem plain_of_visible {model : Model} (plain : ∀ field ∈ model.fields, field.Plain)
    (visible : field ∈ options.visibleFields model) : field.Plain :=
  plain field (List.mem_filter.mp visible).1

theorem oneLines_toList_map {text? : Option String} {write : String → String}
    (plain : ∀ text ∈ text?, OneLine (write text)) : OneLines (text?.map write).toList := by
  cases text? with
  | none => simp
  | some text => simpa using plain text rfl

theorem oneLines_wrapper {lines : Wrapper → List String}
    (one : ∀ wrapper, OneLines (lines wrapper) ↔ OneLines (wrapper.rawTexts options))
    (wrapper? : Option Wrapper) :
    OneLines ((wrapper?.map lines).getD []) ↔
      OneLines (wrapper?.toList.flatMap (Wrapper.rawTexts options)) := by
  cases wrapper? with
  | none => simp
  | some wrapper => simp [one wrapper]

end

namespace Python

/-- The name of an attribute is on one line, whatever the field is called. -/
theorem oneLine_attributeName (name : String) : OneLine (attributeName name) :=
  fun c member => breaksLine_of_class (P := isNameChar) (by decide +kernel) (by decide +kernel)
    (isWord_attributeName name c member)

/-- Escaping neither adds nor removes line breaks. -/
theorem oneLine_quote {text : String} : OneLine (quote text) ↔ OneLine text := by
  have escaped (c : Char) : (∀ d ∈ escapeChar c, breaksLine d = false) ↔ breaksLine c = false := by
    unfold escapeChar
    split
    · rename_i same
      rw [eq_of_beq same]
      simp [breaksLine]
    · split
      · rename_i same
        rw [eq_of_beq same]
        simp [breaksLine]
      · exact List.forall_mem_singleton
  have inside : OneLine (escape text) ↔ OneLine text := by
    rw [escape, oneLine_ofList, List.forall_mem_flatMap]
    exact forall₂_congr fun c _ => escaped c
  rw [quote, oneLine_append, oneLine_append, inside]
  simp +decide

theorem oneLine_typeName {type : String} : OneLine (typeName type) ↔ OneLine type := by
  unfold typeName
  split
  · rename_i same
    rw [eq_of_beq same]
    decide
  · rfl

variable {field : Field} {options : EmitOptions}

theorem oneLine_declaredType :
    OneLine (declaredType field) ↔
      OneLines (if field.isList then field.element.toList else [field.type]) := by
  have type : OneLine (fieldType field) ↔
      OneLines (if field.isList then field.element.toList else [field.type]) := by
    unfold fieldType
    split
    · cases field.element with
      | none => simp +decide
      | some element => simp +decide [oneLine_typeName]
    · simp [oneLine_typeName]
  rw [← type, declaredType]
  split
  · rfl
  · simp +decide

theorem oneLines_bounds (field : Field) : OneLines (bounds field) := by
  have keys : ∀ pair ∈ boundKeys? field.type, OneLine pair.1 ∧ OneLine pair.2 := by
    unfold boundKeys?
    split <;> simp +decide
  unfold bounds
  split
  · simp
  · rename_i maxKey minKey found
    obtain ⟨max, min⟩ := keys _ found
    rw [oneLines_append]
    constructor
    · cases field.maxLength <;> simp +decide [max, oneLine_repr]
    · cases field.minLength <;> simp +decide [min, oneLine_repr]

/-- A name that is not written as the attribute is written as an alias. -/
theorem oneLines_aliasArgument : OneLines (aliasArgument field) ↔ OneLine field.name := by
  unfold aliasArgument
  split
  · rename_i same
    have plain := oneLine_attributeName field.name
    rw [eq_of_beq same] at plain
    simp [plain]
  · simp +decide [oneLine_quote]

theorem oneLines_arguments (plain : field.Plain) :
    OneLines (arguments field options) ↔ OneLine field.name := by
  obtain ⟨description, sample⟩ := plain.written options
  have described : OneLines ((options.description? field).map fun text =>
      "description=" ++ quote text).toList := by
    refine oneLines_toList_map fun text given => ?_
    simp +decide [oneLine_quote, description text given]
  have sampled : OneLines ((options.sample? field).map fun text =>
      "json_schema_extra=\x7b\"example\": " ++ quote text ++ "\x7d").toList := by
    refine oneLines_toList_map fun text given => ?_
    simp +decide [oneLine_quote, sample text given]
  rw [arguments, oneLines_append, oneLines_append, oneLines_append, oneLines_aliasArgument]
  simp only [described, sampled, oneLines_bounds, true_and]

theorem oneLine_assignment (plain : field.Plain) :
    OneLine (assignment field options) ↔ OneLine field.name := by
  have inside : OneLines (arguments field options) ↔ OneLine field.name := oneLines_arguments plain
  rw [← inside, assignment]
  split
  · rename_i none
    rw [none]
    split <;> simp +decide
  · rename_i first rest some
    rw [some]
    have start : OneLine (if field.required then "..." else "default=None") := by
      split <;> decide
    simp +decide [start, oneLine_intercalate]

theorem oneLine_fieldLine (plain : field.Plain) :
    OneLine (fieldLine field options) ↔ OneLines field.rawTexts := by
  simp +decide [fieldLine, oneLine_attributeName, oneLine_declaredType, oneLine_assignment plain,
    Field.rawTexts, and_comm]

theorem oneLines_classLines {model : Model} (plain : ∀ field ∈ model.fields, field.Plain) :
    OneLines (classLines model options) ↔ OneLines (model.rawTexts options) := by
  have body (lines : List String) :
      OneLines (if lines.isEmpty then ["    pass"] else lines) ↔ OneLines lines := by
    cases lines with
    | nil => simp +decide
    | cons first rest => simp
  have fields : OneLines ((options.visibleFields model).map fun field =>
      fieldLine field options) ↔
        OneLines ((options.visibleFields model).flatMap Field.rawTexts) := by
    rw [oneLines_map, oneLines_flatMap]
    exact forall₂_congr fun field visible => oneLine_fieldLine (plain_of_visible plain visible)
  unfold classLines Model.rawTexts
  dsimp only
  rw [oneLines_append, oneLines_append, body, fields]
  simp +decide [and_assoc]

theorem oneLines_wrapperLines (wrapper : Wrapper) (options : EmitOptions) :
    OneLines (wrapperLines wrapper options) ↔ OneLines (wrapper.rawTexts options) := by
  simp +decide [wrapperLines, Wrapper.rawTexts, oneLine_quote, and_assoc]

theorem oneLine_comment {text : String} : OneLine (comment text) ↔ OneLine text := by
  simp +decide [comment]

theorem oneLines_imports (method : Method) : OneLines (imports method options) := by
  unfold imports
  split <;> simp +decide

/-- A line break in the lines for a method is one of a text that is written as it is. -/
theorem oneLines_emit {method : Method} (plain : method.Plain) :
    OneLines (emit method options) ↔ OneLines (method.rawTexts options) := by
  have notes : OneLines (method.comments.map comment) ↔ OneLines method.comments := by
    rw [oneLines_map]
    exact forall₂_congr fun text _ => oneLine_comment
  have classes : OneLines (method.models.flatMap fun model => classLines model options) ↔
      OneLines (method.models.flatMap (Model.rawTexts options)) := by
    rw [oneLines_flatMap, oneLines_flatMap]
    exact forall₂_congr fun model member => oneLines_classLines (plain model member)
  have request := oneLines_wrapper (fun wrapper => oneLines_wrapperLines wrapper options)
    method.wrapper?
  unfold emit Method.rawTexts
  dsimp only
  split
  · rename_i bare
    obtain ⟨noModels, noRequest⟩ := Method.bare_of_not_hasModels (by simpa using bare)
    rw [notes, noModels, noRequest]
    simp
  · simp only [oneLines_append, notes, oneLines_imports, and_true, classes, request]

end Python

namespace TypeScript

variable {field : Field} {options : EmitOptions}

theorem oneLine_comment {text : String} : OneLine (comment text) ↔ OneLine text := by
  have replaced : OneLine (Text.replace text "*/" "* /") ↔ OneLine text :=
    Text.oneLine_replace (by decide) (by decide) (by decide)
  simp +decide [comment, replaced]

theorem oneLine_quote {text : String} : OneLine (quote text) ↔ OneLine text := by
  have replaced : OneLine (Text.replace text "\"" "\\\"") ↔ OneLine text :=
    Text.oneLine_replace (by decide) (by decide) (by decide)
  simp +decide [quote, replaced]

theorem oneLine_propertyName {name : String} : OneLine (propertyName name) ↔ OneLine name := by
  unfold propertyName
  split
  · rfl
  · exact oneLine_quote

theorem oneLine_typeName {type : String} : OneLine (typeName type) ↔ OneLine type := by
  have tagged (primitive : Primitive) (found : Primitive.ofTag? type = some primitive) :
      OneLine type := by
    have same : (primitive.tag == type) = true := (List.find?_eq_some_iff_append.mp found).1
    rw [← eq_of_beq same]
    cases primitive <;> decide
  unfold typeName
  cases found : Primitive.ofTag? type with
  | none => rfl
  | some primitive =>
      have plain := tagged primitive found
      cases primitive <;> simp +decide [plain]

theorem oneLine_fieldType :
    OneLine (fieldType field) ↔
      OneLines (if field.isList then field.element.toList else [field.type]) := by
  unfold fieldType
  split
  · cases field.element with
    | none => simp +decide
    | some element => simp +decide [oneLine_typeName]
  · simp [oneLine_typeName]

theorem oneLine_fieldComment? (plain : field.Plain) :
    ∀ text ∈ fieldComment? field options, OneLine text := by
  obtain ⟨description, sample⟩ := plain.written options
  have described : OneLines ((options.description? field).map fun text =>
      "description: " ++ text).toList := by
    refine oneLines_toList_map fun text given => ?_
    simp +decide [description text given]
  have sampled : OneLines ((options.sample? field).map fun text => "example: " ++ text).toList := by
    refine oneLines_toList_map fun text given => ?_
    simp +decide [sample text given]
  have separator : OneLine ", " := by decide
  unfold fieldComment?
  dsimp only
  split
  · simp
  · simp [oneLine_comment, oneLine_intercalate separator, described, sampled]

theorem oneLines_fieldLines (plain : field.Plain) :
    OneLines (fieldLines field options) ↔ OneLines field.rawTexts := by
  have said : OneLines ((fieldComment? field options).map fun text => "    " ++ text).toList := by
    refine oneLines_toList_map fun text given => ?_
    simp +decide [oneLine_fieldComment? plain text given]
  unfold fieldLines Field.rawTexts
  dsimp only
  rw [oneLines_append, and_iff_right said, oneLines_cons, oneLines_cons, ← oneLine_fieldType]
  split <;> simp +decide [oneLine_propertyName]

theorem oneLines_interfaceLines {model : Model} (plain : ∀ field ∈ model.fields, field.Plain) :
    OneLines (interfaceLines model options) ↔ OneLines (model.rawTexts options) := by
  have fields : OneLines ((options.visibleFields model).flatMap fun field =>
      fieldLines field options) ↔
        OneLines ((options.visibleFields model).flatMap Field.rawTexts) := by
    rw [oneLines_flatMap, oneLines_flatMap]
    exact forall₂_congr fun field visible => oneLines_fieldLines (plain_of_visible plain visible)
  unfold interfaceLines Model.rawTexts
  rw [oneLines_append, oneLines_append, fields]
  simp +decide [and_assoc]

theorem oneLines_wrapperLines (wrapper : Wrapper) (options : EmitOptions) :
    OneLines (wrapperLines wrapper options) ↔ OneLines (wrapper.rawTexts options) := by
  simp +decide [wrapperLines, Wrapper.rawTexts, oneLine_quote, and_assoc]

/-- A line break in the lines for a method is one of a text that is written as it is. -/
theorem oneLines_emit {method : Method} (plain : method.Plain) :
    OneLines (emit method options) ↔ OneLines (method.rawTexts options) := by
  have notes : OneLines (method.comments.map comment) ↔ OneLines method.comments := by
    rw [oneLines_map]
    exact forall₂_congr fun text _ => oneLine_comment
  have interfaces : OneLines (method.models.flatMap fun model => interfaceLines model options) ↔
      OneLines (method.models.flatMap (Model.rawTexts options)) := by
    rw [oneLines_flatMap, oneLines_flatMap]
    exact forall₂_congr fun model member => oneLines_interfaceLines (plain model member)
  have request := oneLines_wrapper (fun wrapper => oneLines_wrapperLines wrapper options)
    method.wrapper?
  unfold emit Method.rawTexts
  simp only [oneLines_append, notes, interfaces, request]

end TypeScript

end ApiSchema
