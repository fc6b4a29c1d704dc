import ApiSchema.Flatten
import ApiSchema.Naming
import ApiSchema.Page
import ApiSchema.Settings
import ApiSchema.Structure.Expansion

set_option autoImplicit false

namespace ApiSchema

open ApiSchema.Json ApiSchema.Naming

/-- What reading may need besides the documentation: its address, and a source of structures. -/
structure Context where
  sourceUrl : Option String
  source : Source

structure Platform where
  id : String
  displayName : String
  /-- The base types used when the settings have none. -/
  bases : BaseTypes
  /-- Whether a request with a host, a method and an address carries documentation. -/
  carries : String → String → String → Bool
  /-- Reads a payload. -/
  parse : Context → String → Lookup Method
  /-- Reads a page. -/
  parsePage : Context → Page → Lookup Method := fun _ _ => .fail (.pageUnsupported id)

def requestFailed : String := "请求失败，未正常返回接口文档数据"

def emptyDocumentation : String := "接口文档数据为空，请检查接口文档是否正确"

def missingName : String := "解析请求名称失败"

def unexpandedStructures : String := "存在未展开的嵌套结构，请配置结构查询地址"

/-- The outermost object of a payload: how the request went, and the documentation. -/
structure Envelope (σ : Type) where
  status : σ
  data : Value

/-- How an envelope is read. The documentation is `null` when it is missing. -/
def Envelope.record {σ : Type} (status : Attribute (Envelope σ)) (dataKey : String) (blank : σ) :
    Record (Envelope σ) where
  title := "Envelope"
  blank := ⟨blank, .null⟩
  attributes := [status, .defaulted dataKey Node.value fun envelope data => { envelope with data }]

def Envelope.optionalStatus {α : Type} (key : String) (read : Decoder α) :
    Attribute (Envelope (Option α)) :=
  .optional key read fun envelope status => { envelope with status }

/-- A status that is false when it is missing. -/
def Envelope.flagStatus (key : String) : Attribute (Envelope Bool) :=
  .defaulted key Decode.flag fun envelope status => { envelope with status }

/-- A truth value, a text or a list for which `null` may stand. -/
def nullableFlag : Decoder Bool := Decode.nullAs false Decode.flag

def nullableText : Decoder String := Decode.nullAs "" Decode.text

def nullableList {α : Type} (read : Decoder α) : Decoder (List α) :=
  Decode.nullAs [] (Decode.list read)

/-- A result known without lookups. -/
def noted (comment : String) : Lookup Method := .ok (.unknown comment)

/-- Reads a text as the first step of a longer computation. -/
def readJson {α : Type} (read : Decoder α) (text : String) : Lookup α :=
  .ofExcept (Failure.ofJson (decodeText read text))

/-- Reads a value as the first step of a longer computation. -/
def readJsonValue {α : Type} (read : Decoder α) (value : Value) : Lookup α :=
  .ofExcept (Failure.ofJson (decodeValue read value))

/-- The method with the given names whose parameters and response are forests of fields. -/
def assemble {α : Type} (dialect : Dialect α) (context : Context) (names : ApiName)
    (params responses : List (Tree α)) : Method where
  name := some names.method
  requestName := some names.request
  params := dialect.models (names.method ++ "Param") .param params
  responses := dialect.models (names.method ++ "Response") .response responses
  comments := context.sourceUrl.toList

end ApiSchema
