import ApiSchema.Proofs.Platform.WellFormed
import ApiSchema.Proofs.Target.Lines
import ApiSchema.Proofs.Unify.LocalNames

/-!
The types that the lines for a method define. One line defines each model and one the request; no
other line begins a definition, whatever the documentation says. Models have different names, so a
name is defined twice only if a model has the name of the request.
-/

set_option autoImplicit false

namespace ApiSchema

open ApiSchema.Naming

/-- A type that is defined: a model, or the request of a method. -/
inductive Definition where
  | ofModel (model : Model)
  | ofRequest (wrapper : Wrapper)

def Definition.name : Definition → String
  | .ofModel model => model.name
  | .ofRequest wrapper => wrapper.method ++ "Request"

/-- The types that are defined for a method. -/
def Method.definitions (method : Method) : List Definition :=
  method.models.map .ofModel ++ method.wrapper?.toList.map .ofRequest

/-- How a language defines types: which lines begin a definition, and which line defines a type. -/
structure Headers where
  begins : String → Bool
  line : BaseTypes → Definition → String

theorem Method.name_of_wrapper? {method : Method} {wrapper : Wrapper}
    (requests : method.wrapper? = some wrapper) : method.name = some wrapper.method := by
  obtain ⟨name, named, rest⟩ := Option.bind_eq_some_iff.mp requests
  obtain ⟨request, _, rest⟩ := Option.bind_eq_some_iff.mp rest
  obtain ⟨param, _, rest⟩ := Option.bind_eq_some_iff.mp rest
  cases rest
  exact (Option.filter_eq_some_iff.mp named).1

theorem definitions_of_not_hasModels {method : Method} (bare : method.hasModels = false) :
    method.definitions = [] := by
  obtain ⟨noModels, noRequest⟩ := Method.bare_of_not_hasModels bare
  rw [Method.definitions, noModels, noRequest]
  rfl

theorem filter_models {begins : String → Bool} {lines : Model → List String}
    {header : Definition → String}
    (one : ∀ model, (lines model).filter begins = [header (.ofModel model)]) (models : List Model) :
    (models.flatMap lines).filter begins = (models.map Definition.ofModel).map header := by
  rw [List.filter_flatMap, List.map_map, List.map_eq_flatMap]
  simp only [one, Function.comp_apply]

theorem filter_wrapper {begins : String → Bool} {lines : Wrapper → List String}
    {header : Definition → String}
    (one : ∀ wrapper, (lines wrapper).filter begins = [header (.ofRequest wrapper)])
    (wrapper? : Option Wrapper) :
    ((wrapper?.map lines).getD []).filter begins =
      (wrapper?.toList.map Definition.ofRequest).map header := by
  cases wrapper? with
  | none => rfl
  | some wrapper => exact one wrapper

namespace Python

def headers : Headers where
  begins line := Text.startsWith line "class "
  line bases
    | .ofModel model => "class " ++ model.name ++ "(" ++ bases.get model.kind ++ "):"
    | .ofRequest wrapper =>
        "class " ++ wrapper.method ++ "Request(" ++ bases.get .request ++ "):"

theorem begins_line (bases : BaseTypes) (definition : Definition) :
    headers.begins (headers.line bases definition) = true := by
  cases definition <;> simp [headers, Text.startsWith, List.isPrefixOf]

theorem begins_comment (text : String) : headers.begins (comment text) = false := by
  simp [headers, comment, Text.startsWith, List.isPrefixOf]

theorem begins_indented (rest : String) : headers.begins ("    " ++ rest) = false := by
  simp [headers, Text.startsWith, List.isPrefixOf]

theorem begins_fieldLine (field : Field) (options : EmitOptions) :
    headers.begins (fieldLine field options) = false := by
  simp only [fieldLine, String.append_assoc, begins_indented]

theorem filter_classLines (model : Model) (options : EmitOptions) :
    (classLines model options).filter headers.begins =
      [headers.line options.bases (.ofModel model)] := by
  have header := begins_line options.bases (.ofModel model)
  have body (lines : List String) (inside : ∀ line ∈ lines, headers.begins line = false) :
      (if lines.isEmpty then ["    pass"] else lines).filter headers.begins = [] := by
    split
    · rfl
    · simpa using inside
  have fields : ∀ line ∈ (options.visibleFields model).map fun field => fieldLine field options,
      headers.begins line = false := by
    simp [begins_fieldLine]
  change List.filter headers.begins
    ([headers.line options.bases (.ofModel model)] ++ _ ++ ["", ""]) = _
  rw [List.filter_append, List.filter_append, body _ fields, List.filter_cons_of_pos header]
  rfl

theorem filter_wrapperLines (wrapper : Wrapper) (options : EmitOptions) :
    (wrapperLines wrapper options).filter headers.begins =
      [headers.line options.bases (.ofRequest wrapper)] := by
  have header := begins_line options.bases (.ofRequest wrapper)
  have method : headers.begins ("    method: str = " ++ quote wrapper.request) = false := by
    simp [headers, Text.startsWith, List.isPrefixOf]
  have param : headers.begins ("    param: " ++ wrapper.param) = false := by
    simp [headers, Text.startsWith, List.isPrefixOf]
  change List.filter headers.begins
    [headers.line options.bases (.ofRequest wrapper), _, _] = _
  rw [List.filter_cons_of_pos header, List.filter_cons_of_neg (by simp [method]),
    List.filter_cons_of_neg (by simp [param]), List.filter_nil]

theorem filter_imports (method : Method) (options : EmitOptions) :
    (imports method options).filter headers.begins = [] := by
  unfold imports
  split <;> decide

/-- Classes are defined for the types of a method, and for nothing else. -/
theorem filter_emit (method : Method) (options : EmitOptions) :
    (emit method options).filter headers.begins =
      method.definitions.map (headers.line options.bases) := by
  have notes : (method.comments.map comment).filter headers.begins = [] := by
    simp [begins_comment]
  have classes := filter_models
    (fun model => filter_classLines model options) method.models
  have request := filter_wrapper (fun wrapper => filter_wrapperLines wrapper options)
    method.wrapper?
  unfold emit
  dsimp only
  split
  · rename_i bare
    rw [notes, definitions_of_not_hasModels (by simpa using bare), List.map_nil]
  · rw [List.filter_append, List.filter_append, List.filter_append, notes, filter_imports, classes,
      request, Method.definitions, List.map_append]
    rfl

end Python

namespace TypeScript

def headers : Headers where
  begins line := Text.startsWith line "interface " || Text.startsWith line "type "
  line bases
    | .ofModel model =>
        "interface " ++ model.name ++ " extends " ++ bases.get model.kind ++ " " ++ openBrace
    | .ofRequest wrapper =>
        "type " ++ wrapper.method ++ "Request = " ++ bases.get .request ++ " & " ++ openBrace

theorem begins_line (bases : BaseTypes) (definition : Definition) :
    headers.begins (headers.line bases definition) = true := by
  cases definition <;> simp [headers, Text.startsWith, List.isPrefixOf]

theorem begins_comment (text : String) : headers.begins (comment text) = false := by
  simp [headers, comment, Text.startsWith, List.isPrefixOf]

theorem begins_indented (rest : String) : headers.begins ("    " ++ rest) = false := by
  simp [headers, Text.startsWith, List.isPrefixOf]

theorem begins_fieldLines (field : Field) (options : EmitOptions) :
    ∀ line ∈ fieldLines field options, headers.begins line = false := by
  unfold fieldLines
  dsimp only
  rw [List.forall_mem_append, List.forall_mem_singleton]
  constructor
  · simp [begins_indented]
  · split <;> simp only [String.append_assoc, begins_indented]

theorem filter_interfaceLines (model : Model) (options : EmitOptions) :
    (interfaceLines model options).filter headers.begins =
      [headers.line options.bases (.ofModel model)] := by
  have header := begins_line options.bases (.ofModel model)
  have fields : ((options.visibleFields model).flatMap fun field =>
      fieldLines field options).filter headers.begins = [] := by
    rw [List.filter_eq_nil_iff]
    intro line member
    obtain ⟨field, _, inside⟩ := List.mem_flatMap.mp member
    simp [begins_fieldLines field options line inside]
  change List.filter headers.begins
    ([headers.line options.bases (.ofModel model)] ++ _ ++ [closeBrace, ""]) = _
  rw [List.filter_append, List.filter_append, fields, List.filter_cons_of_pos header]
  rfl

theorem filter_wrapperLines (wrapper : Wrapper) (options : EmitOptions) :
    (wrapperLines wrapper options).filter headers.begins =
      [headers.line options.bases (.ofRequest wrapper)] := by
  have header := begins_line options.bases (.ofRequest wrapper)
  have method : headers.begins ("    method: " ++ quote wrapper.request ++ ";") = false := by
    simp [headers, Text.startsWith, List.isPrefixOf]
  have param : headers.begins ("    param: " ++ wrapper.param ++ ";") = false := by
    simp [headers, Text.startsWith, List.isPrefixOf]
  change List.filter headers.begins
    [headers.line options.bases (.ofRequest wrapper), _, _, closeBrace ++ ";"] = _
  rw [List.filter_cons_of_pos header, List.filter_cons_of_neg (by simp [method]),
    List.filter_cons_of_neg (by simp [param])]
  rfl

/-- Interfaces, and a type of requests, are defined for the types of a method, and nothing else is
defined. -/
theorem filter_emit (method : Method) (options : EmitOptions) :
    (emit method options).filter headers.begins =
      method.definitions.map (headers.line options.bases) := by
  have notes : (method.comments.map comment).filter headers.begins = [] := by
    simp [begins_comment]
  have interfaces := filter_models
    (fun model => filter_interfaceLines model options) method.models
  have request := filter_wrapper (fun wrapper => filter_wrapperLines wrapper options)
    method.wrapper?
  unfold emit
  rw [List.filter_append, List.filter_append, notes, interfaces, request, Method.definitions,
    List.map_append]
  rfl

end TypeScript

/-- The languages of the library, and how they define types. -/
inductive HasHeaders : Target → Headers → Prop
  | python : HasHeaders Python.target Python.headers
  | typeScript : HasHeaders TypeScript.target TypeScript.headers

/-- Each language of the library defines types by lines of their own. -/
theorem exists_headers {target : Target} (known : target ∈ builtinTargets) :
    ∃ headers, HasHeaders target headers := by
  unfold builtinTargets at known
  rw [List.mem_pair] at known
  rcases known with rfl | rfl
  · exact ⟨_, .python⟩
  · exact ⟨_, .typeScript⟩

theorem HasHeaders.filter_emit {target : Target} {headers : Headers}
    (written : HasHeaders target headers) (method : Method) (options : EmitOptions) :
    (target.emit method options).filter headers.begins =
      method.definitions.map (headers.line options.bases) := by
  cases written with
  | python => exact Python.filter_emit method options
  | typeScript => exact TypeScript.filter_emit method options

namespace Read

variable {α : Type} {dialect : Dialect α} {method : Method}

theorem nodup_outerNames (read : Read dialect method) : method.outerNames.Nodup := by
  cases read with
  | notice comment => exact List.nodup_nil
  | @assembled raw names named context params responses comments =>
      change (assemble dialect context names params responses).outerNames.Nodup
      rw [outerNames_assemble]
      simp [suffix_ne names]

/-- The outer names are those of the parameters and of the response. -/
theorem outerNames (read : Read dialect method) {wrapper : Wrapper}
    (requests : method.unify.wrapper? = some wrapper) :
    method.outerNames = [wrapper.method ++ "Param", wrapper.method ++ "Response"] := by
  cases read with
  | notice comment => cases requests
  | @assembled raw names named context params responses comments =>
      have same : some names.method = some wrapper.method := Method.name_of_wrapper? requests
      have method : names.method = wrapper.method := Option.some.inj same
      change (assemble dialect context names params responses).outerNames = _
      rw [outerNames_assemble, method]

/-- The types of a method have different names, unless a nested model has the local name of the
request. -/
theorem nodup_definitions (read : Read dialect method) :
    (method.unify.definitions.map Definition.name).Nodup ↔
      ∀ wrapper, method.unify.wrapper? = some wrapper → ∀ model ∈ method.models,
        model.kind = .child → localName model.name ≠ wrapper.method ++ "Request" := by
  have models := Method.nodup_names_unify read.nodup_outerNames
  have names : method.unify.definitions.map Definition.name =
      method.unify.models.map Model.name ++
        method.unify.wrapper?.toList.map fun wrapper => wrapper.method ++ "Request" := by
    rw [Method.definitions, List.map_append, List.map_map, List.map_map]
    rfl
  rw [names]
  cases requests : method.unify.wrapper? with
  | none => simpa using models
  | some wrapper =>
      have ends : ∀ last ∈ (wrapper.method ++ "Request").toList.getLast?,
          last.isDigit = false := by simp
      have inner : wrapper.method ++ "Request" ∉ method.outerNames := by
        rw [read.outerNames requests]
        simp [String.append_right_inj]
      have taken := Method.mem_names_unify ends inner
      rw [Option.toList_some, List.map_singleton, ← List.concat_eq_append, List.nodup_concat,
        taken]
      simp only [models, and_true, Option.some.injEq, forall_eq', not_exists, not_and, ne_eq]

end Read

/-- The lines for documentation define the types of its method. Their names differ exactly if no
nested model, as the platform reads it, has the local name of the request. -/
theorem Generator.nodup_definitions_iff (generator : Generator) {platform : Platform}
    (known : platform ∈ builtinPlatforms) {target : Target} (spoken : target ∈ builtinTargets)
    (documentation : Documentation) (sourceUrl : Option String) {method : Method}
    (success : (generator.parse platform documentation sourceUrl).result = .ok method) :
    ∃ headers, HasHeaders target headers ∧
      ∃ read, (generator.read platform documentation sourceUrl).result = .ok read ∧
        (generator.render platform target method).filter headers.begins =
          method.definitions.map
            (headers.line (generator.settings.basesFor platform.id platform.bases)) ∧
        ((method.definitions.map Definition.name).Nodup ↔
          ∀ wrapper, method.wrapper? = some wrapper → ∀ model ∈ read.models,
            model.kind = .child → localName model.name ≠ wrapper.method ++ "Request") := by
  obtain ⟨headers, written⟩ := exists_headers spoken
  obtain ⟨read, found, rfl⟩ := Generator.parse_eq_ok success
  obtain ⟨α, dialect, _, reads⟩ := Generator.read_builtin known found
  exact ⟨headers, written, read, found, written.filter_emit read.unify _, reads.nodup_definitions⟩

namespace Generator

def orderWith (type : String) : Json.Value := .object [
  ("success", .bool true),
  ("result", .object [
    ("name", .string "order.get"),
    ("apiAppParamVOList", .array [
      .object [("name", .string "order"), ("type", .string type), ("complexTypeFlag", .bool true),
        ("children", .array [.object [("name", .string "id"), ("type", .string "Long")]])]])])]

theorem nodup_definitions_order :
    ∃ method, (offline.parse Alibaba.platform (.payload (orderWith "Order").compact) none).result =
        .ok method ∧
      method.definitions.map Definition.name =
        ["Order", "OrderGetParam", "OrderGetResponse", "OrderGetRequest"] ∧
      ∃ headers, HasHeaders Python.target headers ∧
        ∃ read, (offline.read Alibaba.platform (.payload (orderWith "Order").compact)
            none).result = .ok read ∧
          (offline.render Alibaba.platform Python.target method).filter headers.begins =
            method.definitions.map (headers.line Alibaba.platform.bases) ∧
          ((method.definitions.map Definition.name).Nodup ↔
            ∀ wrapper, method.wrapper? = some wrapper → ∀ model ∈ read.models,
              model.kind = .child → localName model.name ≠ wrapper.method ++ "Request") := by
  have parsed : (offline.parse Alibaba.platform (.payload (orderWith "Order").compact)
      none).result.toOption.any (fun method => method.definitions.map Definition.name =
        ["Order", "OrderGetParam", "OrderGetResponse", "OrderGetRequest"]) = true := by
    decide +kernel
  obtain ⟨method, success, names⟩ := exists_ok_of_toOption parsed
  exact ⟨method, success, of_decide_eq_true names,
    offline.nodup_definitions_iff (by simp [builtinPlatforms]) (by simp [builtinTargets]) _ _
      success⟩

/-- A class that is named like the request is defined a second time. -/
theorem definitions_orderRequest :
    ∃ method, (offline.parse Alibaba.platform
        (.payload (orderWith "com.foo.OrderGetRequest").compact) none).result = .ok method ∧
      (offline.render Alibaba.platform Python.target method).filter Python.headers.begins =
        ["class OrderGetRequest(BaseModel):", "class OrderGetParam(TopParamBase):",
          "class OrderGetResponse(TopResponseBase):", "class OrderGetRequest(TopRequestBase):"] ∧
      ¬ (method.definitions.map Definition.name).Nodup := by
  have parsed : (offline.parse Alibaba.platform
      (.payload (orderWith "com.foo.OrderGetRequest").compact) none).result.toOption.any
        (fun method =>
          (offline.render Alibaba.platform Python.target method).filter Python.headers.begins =
            ["class OrderGetRequest(BaseModel):", "class OrderGetParam(TopParamBase):",
              "class OrderGetResponse(TopResponseBase):",
              "class OrderGetRequest(TopRequestBase):"] ∧
          ¬ (method.definitions.map Definition.name).Nodup) = true := by
    decide +kernel
  obtain ⟨method, success, clash⟩ := exists_ok_of_toOption parsed
  exact ⟨method, success, of_decide_eq_true clash⟩

end Generator

end ApiSchema
