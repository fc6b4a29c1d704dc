import ApiSchema.Platform.Basic

/-! 阿里巴巴: fields are typed by qualified class names, and a flag marks those with members. -/

set_option autoImplicit false

namespace ApiSchema.Alibaba

open ApiSchema.Json ApiSchema.Naming

structure Entry where
  name : String
  type : String
  description : String
  sample : String
  required : Option Bool
  isComplex : Bool

/-- How the parts of a field are read. Each may be missing or `null`. -/
def Entry.attributes : List (Attribute Entry) := [
  .defaulted "name" nullableText fun entry name => { entry with name },
  .defaulted "type" nullableText fun entry type => { entry with type },
  .defaulted "description" Decode.looseText fun entry description => { entry with description },
  .defaulted "exampleValue" Decode.looseText fun entry sample => { entry with sample },
  .defaulted "required" (Decode.optional Decode.flag) fun entry required =>
    { entry with required },
  .defaulted "complexTypeFlag" nullableFlag fun entry isComplex => { entry with isComplex }]

def tree : TreeRecord Entry where
  title := "Field"
  blank := ⟨"", "", "", "", none, false⟩
  attributes self := Entry.attributes.map Attribute.ofLabel ++
    [.defaulted "children" (nullableList self) Tree.withChildren]

/-- Documentation of a method: its name, its parameters and its response. -/
structure Outline where
  name : String
  params : List (Tree Entry)
  responses : List (Tree Entry)

def outline : Record Outline where
  title := "ApiResult"
  blank := ⟨"", [], []⟩
  attributes := [
    .defaulted "name" nullableText fun outline name => { outline with name },
    .defaulted "apiAppParamVOList" (nullableList tree.decode) fun outline params =>
      { outline with params },
    .defaulted "apiReturnParamVOList" (nullableList tree.decode) fun outline responses =>
      { outline with responses }]

def scalar? (name : String) : Option Primitive :=
  match name with
  | "Long" | "Integer" => some .int
  | "String" => some .string
  | "Boolean" => some .bool
  | "Double" => some .float
  | "Date" => some .datetime
  | _ => none

def isList (type : String) : Bool := Text.contains type "[]"

/-- The class of a field or of its elements: `Foo` for `java.util.List<com.alibaba.Foo>[]`. -/
def element (type : String) : String := className (elementName type)

def resolve (type : String) : ResolvedType :=
  let scalar := (scalar? (element type)).map Primitive.tag
  if isList type then ⟨Primitive.list.tag, some (scalar.getD (element type))⟩
  else ⟨scalar.getD "", none⟩

def dialect : Dialect Entry where
  name entry := entry.name
  isObject tree := tree.label.isComplex
  isObjectList tree := tree.label.isComplex && isList tree.label.type
  resolve entry := resolve entry.type
  modelName entry := element entry.type
  isRequired entry := entry.required.getD false
  description entry := entry.description
  sample entry := some entry.sample

def envelope : Record (Envelope Bool) :=
  Envelope.record (Envelope.flagStatus "success") "result" false

def parse (context : Context) (payload : String) : Lookup Method := do
  let envelope ← readJson envelope.decode payload
  if !envelope.status then noted requestFailed
  else if envelope.data.isBlank then noted emptyDocumentation
  else
    let outline ← readJsonValue outline.decode envelope.data
    match apiName? outline.name with
    | none => noted missingName
    | some names => return assemble dialect context names outline.params outline.responses

def platform : Platform where
  id := "alibaba"
  displayName := "阿里巴巴"
  bases := .ofFamily "Top"
  carries host _ _ := host == "open.1688.com"
  parse := parse

end ApiSchema.Alibaba
