import ApiSchema.Platform.Structured

set_option autoImplicit false

namespace ApiSchema.Taobao

open ApiSchema.Json ApiSchema.Structured

def keys : Keys where
  name := "name"
  type := "type"
  sample := "demoValue"
  members := "subParams"
  params := "requestParams"
  responses := "responseParams"

def scalar? (name : String) : Option Primitive :=
  match name with
  | "Long" | "Integer" | "Number" => some .int
  | "String" | "byte" | "JSON" => some .string
  | "Boolean" => some .bool
  | "Double" => some .float
  | "Date" => some .datetime
  | _ => none

/-- What the platform says of its fields: one with members or a structure is an object. -/
def dialect : Dialect Entry :=
  Structured.dialect scalar? fun tree =>
    !tree.children.isEmpty || tree.label.structure?.isSome

def envelope : Record (Envelope Bool) :=
  Envelope.record (Envelope.flagStatus "success") "data" false

def parse : Context → String → Lookup Method :=
  Structured.parse envelope (fun success => success) keys "taobao" dialect

def platform : Platform where
  id := "taobao"
  displayName := "淘宝"
  bases := .ofFamily "Top"
  carries host _ _ := host == "open.taobao.com"
  parse := parse

end ApiSchema.Taobao
