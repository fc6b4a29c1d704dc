import ApiSchema.Platform.Basic
import ApiSchema.Word

/-!
支付宝: the documentation is a JSON text within the payload, and its lists of fields are JSON texts
within that text.
-/

set_option autoImplicit false

namespace ApiSchema.Alipay

open ApiSchema.Json ApiSchema.Naming

/-- A documented field. `hasMembers` tells an empty list of members from none. -/
structure Entry where
  hasMembers : Bool
  deprecated : Bool
  description : String
  exactType : String
  sample : String
  name : String
  fieldType : String
  mustType : String
  isList : Bool
  maxLength : Option UInt64

def Entry.blank : Entry := ⟨false, false, "", "", "", "", "", "", false, none⟩

def valueRecord : Record Entry where
  title := "FieldValue"
  blank := .blank
  attributes := [
    .defaulted "deprecated" Decode.flag fun entry deprecated => { entry with deprecated },
    .defaulted "description" Decode.looseText fun entry description =>
      { entry with description },
    .defaulted "exactType" Decode.text fun entry exactType => { entry with exactType },
    .defaulted "example" Decode.looseText fun entry sample => { entry with sample },
    .defaulted "fieldName" Decode.text fun entry name => { entry with name },
    .defaulted "fieldType" Decode.text fun entry fieldType => { entry with fieldType },
    .defaulted "mustType" Decode.text fun entry mustType => { entry with mustType },
    .defaulted "listType" Decode.flag fun entry isList => { entry with isList },
    .defaulted "maxLength" (Decode.optional Decode.unsigned) fun entry maxLength =>
      { entry with maxLength := maxLength.map .ofNat }]

def withMembers (field : Tree Entry) (members : Option (List (Tree Entry))) : Tree Entry :=
  .node { field.label with hasMembers := members.isSome } (members.getD [])

def withValue (field : Tree Entry) (value : Entry) : Tree Entry :=
  field.withLabel { value with hasMembers := field.label.hasMembers }

def tree : TreeRecord Entry where
  title := "Field"
  blank := .blank
  attributes self := [
    .defaulted "children" (Decode.optional (Decode.list self)) withMembers,
    .defaulted "value" valueRecord.decode withValue]

/-- The part of the documentation that describes the method. -/
structure ApiData where
  name : String
  params : Option String
  responses : Option String

def apiData : Record ApiData where
  title := "ApiData"
  blank := ⟨"", none, none⟩
  attributes := [
    .defaulted "name" Decode.text fun data name => { data with name },
    .defaulted "requestParamList" (Decode.optional Decode.text) fun data params =>
      { data with params },
    .defaulted "responseParamList" (Decode.optional Decode.text) fun data responses =>
      { data with responses }]

def content : Record ApiData where
  title := "Content"
  blank := apiData.blank
  attributes := [.defaulted "apiData" apiData.decode fun _ data => data]

def scalar? (name : String) : Option Primitive :=
  match name with
  | "Price" => some .float
  | "Number" => some .int
  | "Boolean" => some .bool
  | "String" => some .string
  | _ => none

/-- The greatest value of a number, or the greatest length of another type, for the greatest number
of its characters. A price has two decimals and a point. -/
def bound (exactType : String) (characters : UInt64) : UInt64 :=
  match Text.lowerAscii exactType with
  | "price" => Word.boundedPow 10 (Word.boundedHalf (Word.boundedSub characters 3))
  | "number" => if characters ≤ 10 then Word.wrappedPow 10 characters.toUInt32 else characters
  | _ => characters

/-- The bound of a field; none for no characters. -/
def bound? (exactType : String) (characters : Option UInt64) : Option UInt64 :=
  (characters.filter (0 < ·)).map (bound exactType)

def resolve (entry : Entry) : ResolvedType :=
  let exact := Text.trim entry.exactType
  let scalar := (scalar? exact).map Primitive.tag
  if entry.isList then ⟨Primitive.list.tag, some (scalar.getD exact)⟩ else ⟨scalar.getD "", none⟩

def dialect : Dialect Entry where
  name entry := entry.name
  isObject tree := tree.label.hasMembers && tree.label.fieldType == "COMPLEXTYPE"
  isObjectList tree := tree.label.isList && (scalar? tree.label.exactType).isNone
  resolve := resolve
  modelName entry := className (elementName entry.exactType)
  isRequired entry := entry.mustType == "MUST"
  isDeprecated entry := entry.deprecated
  description entry := entry.description
  sample entry := some entry.sample
  maxLength entry := (bound? entry.exactType entry.maxLength).map UInt64.toNat

/-- The text of the documentation in a payload, if it is not blank. -/
def documentation? (data : Value) : Option String :=
  let text := ((data.get? "content").bind fun content => content.get? "text").bind Value.text?
  text.filter fun text => !Text.isBlankText text

/-- The fields that a text lists; no text lists none. -/
def fields (text : Option String) : Lookup (List (Tree Entry)) :=
  let trimmed := Text.trim (text.getD "")
  if trimmed.isEmpty then .ok [] else readJson tree.decodeList trimmed

def envelope : Record (Envelope (Option String)) :=
  Envelope.record (Envelope.optionalStatus "stat" Decode.text) "data" none

def parse (context : Context) (payload : String) : Lookup Method := do
  let envelope ← readJson envelope.decode payload
  if envelope.status != some "ok" then noted requestFailed
  else
    match documentation? envelope.data with
    | none => noted emptyDocumentation
    | some text => do
        let api ← readJson content.decode text
        match apiName? api.name with
        | none => noted missingName
        | some names => do
            let params ← fields api.params
            let responses ← fields api.responses
            return assemble dialect context names params responses

def platform : Platform where
  id := "alipay"
  displayName := "支付宝"
  bases := .ofFamily "Top"
  carries host _ _ := host == "opendocs.alipay.com"
  parse := parse

end ApiSchema.Alipay
