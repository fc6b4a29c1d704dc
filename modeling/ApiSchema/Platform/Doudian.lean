import ApiSchema.Platform.Basic

/-!
抖店: the documentation is an article, whose content is a JSON text within the payload. Types are
numbers, and marks in the description tell which fields are optional, deprecated or removed.
-/

set_option autoImplicit false

namespace ApiSchema.Doudian

open ApiSchema.Json ApiSchema.Naming

/-- A documented field. `hasMembers` tells an empty list of members from none. -/
structure Entry where
  type : Option Int
  elementType : Option Int
  sample : String
  description : String
  requestName : Option String
  responseName : Option String
  mustNeed : Option Bool
  deprecated : Option Bool
  removed : Option Bool
  hasMembers : Bool

def withMembers (field : Tree Entry) (members : Option (List (Tree Entry))) : Tree Entry :=
  .node { field.label with hasMembers := members.isSome } (members.getD [])

def tree : TreeRecord Entry where
  title := "Field"
  blank := ⟨none, none, "", "", none, none, none, none, none, false⟩
  attributes self := [
    .ofLabel (.defaulted "type" (Decode.optional Decode.signed) fun entry type =>
      { entry with type }),
    .ofLabel (.defaulted "subType" (Decode.optional Decode.signed) fun entry elementType =>
      { entry with elementType }),
    .ofLabel (.defaulted "example" Decode.looseText fun entry sample => { entry with sample }),
    .ofLabel (.defaulted "description" Decode.looseText fun entry description =>
      { entry with description }),
    .ofLabel (.defaulted "requestName" (Decode.optional Decode.text) fun entry requestName =>
      { entry with requestName }),
    .ofLabel (.defaulted "responseName" (Decode.optional Decode.text) fun entry responseName =>
      { entry with responseName }),
    .ofLabel (.defaulted "mustNeed" (Decode.optional Decode.flag) fun entry mustNeed =>
      { entry with mustNeed }),
    .ofLabel (.defaulted "deprecated" (Decode.optional Decode.flag) fun entry deprecated =>
      { entry with deprecated }),
    .ofLabel (.defaulted "removed" (Decode.optional Decode.flag) fun entry removed =>
      { entry with removed }),
    .defaulted "children" (Decode.optional (Decode.list self)) withMembers]

/-- An article: its title, which names the method, and its content. -/
structure Article where
  title : String
  content : String

def info : Record String where
  title := "ArticleInfo"
  blank := ""
  attributes := [.defaulted "title" Decode.text fun _ title => title]

def article : Record Article where
  title := "Article"
  blank := ⟨"", ""⟩
  attributes := [
    .defaulted "info" info.decode fun article title => { article with title },
    .defaulted "content" Decode.text fun article content => { article with content }]

def data : Record Article where
  title := "Data"
  blank := article.blank
  attributes := [.required "article" article.decode fun _ article => article]

/-- How a section of the content is read, given the key of its fields. -/
def fieldSection (title key : String) : Record (List (Tree Entry)) where
  title
  blank := []
  attributes := [
    .defaulted key (Decode.optional tree.decodeList) fun _ fields => fields.getD []]

structure Content where
  params : List (Tree Entry)
  responses : List (Tree Entry)

def content : Record Content where
  title := "Content"
  blank := ⟨[], []⟩
  attributes := [
    .defaulted "request" (fieldSection "RequestSection" "requestParam").decode
      fun content params => { content with params },
    .defaulted "response" (fieldSection "ResponseSection" "responseData").decode
      fun content responses => { content with responses }]

def typeCodes : List (Int × Primitive) :=
  [(0, .int), (1, .int), (2, .string), (3, .list), (4, .bool), (5, .object), (7, .int), (8, .dict),
    (9, .float), (99, .int)]

def typeOf? (code : Option Int) : Option Primitive :=
  code.bind fun number => List.lookup number typeCodes

/-- The name of a field, which one or the other key may give. -/
def fieldName (entry : Entry) : String :=
  let given (name : Option String) : Option String := name.filter fun name => !name.isEmpty
  ((given entry.requestName).or (given entry.responseName)).getD "unknown"

def resolve (entry : Entry) : ResolvedType :=
  match typeOf? entry.type with
  | some .list => ⟨Primitive.list.tag, (typeOf? entry.elementType).map Primitive.tag⟩
  | some primitive => ⟨primitive.tag, none⟩
  | none => ⟨"", none⟩

def saysOptional (description : String) : Bool := Text.contains description "【可选】"

def saysDeprecated (description : String) : Bool :=
  Text.contains description "【即将废弃】" ||
    (Text.startsWith description "【该字段将在" && Text.contains description "下线")

def saysRemoved (description : String) : Bool := Text.contains description "【已废弃】"

def dialect : Dialect Entry where
  name := fieldName
  isObject tree := tree.label.hasMembers && typeOf? tree.label.type == some .object
  isObjectList tree :=
    tree.label.hasMembers && typeOf? tree.label.type == some .list &&
      typeOf? tree.label.elementType == some .object
  resolve := resolve
  modelName entry := pascalCase (fieldName entry)
  isRequired entry := entry.mustNeed.getD (!saysOptional entry.description)
  isDeprecated entry := entry.deprecated.getD false || saysDeprecated entry.description
  isRemoved entry := entry.removed.getD false || saysRemoved entry.description
  description entry := entry.description
  sample entry := some entry.sample

def envelope : Record (Envelope (Option Int)) :=
  Envelope.record (Envelope.optionalStatus "code" Decode.signed) "data" none

/-- Reads the content of an article; a blank one has no fields. -/
def readContent (text : String) : Lookup Content :=
  if Text.isBlankText text then .ok content.blank else readJson content.decode text

def parse (context : Context) (payload : String) : Lookup Method := do
  let envelope ← readJson envelope.decode payload
  if envelope.status != some 0 then noted requestFailed
  else if envelope.data.isBlank then noted emptyDocumentation
  else
    let article ← readJsonValue data.decode envelope.data
    match apiName? article.title with
    | none => noted missingName
    | some names => do
        let content ← readContent article.content
        return assemble dialect context names content.params content.responses

def carries (host method url : String) : Bool :=
  host == "op.jinritemai.com" && Text.equalsIgnoringCase method "GET" &&
    Text.contains url "/doc/external/open/queryDocArticleDetail"

def platform : Platform where
  id := "doudian"
  displayName := "抖店"
  bases := .ofFamily "Top"
  carries := carries
  parse := parse

end ApiSchema.Doudian
