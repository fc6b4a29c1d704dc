import ApiSchema.Platform.Structured

set_option autoImplicit false

namespace ApiSchema.Kuaishou

open ApiSchema.Json ApiSchema.Structured

def keys : Keys where
  name := "paramName"
  type := "paramType"
  sample := "example"
  members := "children"
  params := "inputParams"
  responses := "outputParams"

def scalar? (name : String) : Option Primitive :=
  match name with
  | "Long" | "Integer" | "Number" => some .int
  | "String" | "JSON" => some .string
  | "Boolean" => some .bool
  | "Double" => some .float
  | "Date" => some .datetime
  | _ => none

/-- What the platform says of its fields: one with a structure is an object. -/
def dialect : Dialect Entry :=
  Structured.dialect scalar? fun tree => tree.label.structure?.isSome

/-- The status of a request that went well. -/
def okStatus : Int := 200

def envelope : Record (Envelope (Option Int)) :=
  Envelope.record (Envelope.optionalStatus "status" Decode.signed) "data" none

def parse : Context → String → Lookup Method :=
  Structured.parse envelope (fun status => status == some okStatus) keys "kuaishou" dialect

def platform : Platform where
  id := "kuaishou"
  displayName := "快手"
  bases := .ofFamily "Kop"
  carries host _ _ := host == "open.kwaixiaodian.com"
  parse := parse

end ApiSchema.Kuaishou
