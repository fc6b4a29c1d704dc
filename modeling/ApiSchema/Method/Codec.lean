import ApiSchema.Json.Decode
import ApiSchema.Method.Basic

set_option autoImplicit false

namespace ApiSchema

open ApiSchema.Json

namespace ModelKind

def names : List (String × ModelKind) :=
  [("param", .param), ("response", .response), ("request", .request), ("child", .child)]

def text : ModelKind → String
  | .param => "param"
  | .response => "response"
  | .request => "request"
  | .child => "child"

def decode : Decoder ModelKind := Decode.choice names

end ModelKind

/-- A member that is left out when there is nothing to write. -/
def optionalMember (key : String) (value : Option Value) : List (String × Value) :=
  (value.map fun present => (key, present)).toList

namespace Field

def encode (field : Field) : Value :=
  .object (
    [("name", .string field.name), ("type", .string field.type)] ++
    optionalMember "childType" (field.element.map .string) ++
    [("description", .string field.description)] ++
    optionalMember "example" (field.sample.map .string) ++
    [("required", .bool field.required), ("deprecated", .bool field.deprecated),
      ("removed", .bool field.removed)] ++
    optionalMember "minLength" (field.minLength.map .ofNat) ++
    optionalMember "maxLength" (field.maxLength.map .ofNat))

def record : Record Field where
  title := "Param"
  blank := Field.of "" ""
  attributes := [
    .required "name" Decode.text fun field name => { field with name },
    .required "type" Decode.text fun field type => { field with type },
    .optional "childType" Decode.text fun field element => { field with element },
    .required "description" Decode.text fun field description => { field with description },
    .optional "example" Decode.text fun field sample => { field with sample },
    .required "required" Decode.flag fun field required => { field with required },
    .defaulted "deprecated" Decode.flag fun field deprecated => { field with deprecated },
    .defaulted "removed" Decode.flag fun field removed => { field with removed },
    .optional "minLength" Decode.unsigned fun field minLength => { field with minLength },
    .optional "maxLength" Decode.unsigned fun field maxLength => { field with maxLength }]

end Field

namespace Model

def encode (model : Model) : Value :=
  .object [("className", .string model.name), ("parentModelType", .string model.kind.text),
    ("childParams", .array (model.fields.map Field.encode))]

def record : Record Model where
  title := "RequestModel"
  blank := ⟨"", .child, []⟩
  attributes := [
    .required "className" Decode.text fun model name => { model with name },
    .required "parentModelType" ModelKind.decode fun model kind => { model with kind },
    .required "childParams" (Decode.list Field.record.decode) fun model fields =>
      { model with fields }]

end Model

namespace Method

def encode (method : Method) : Value :=
  .object (
    optionalMember "methodName" (method.name.map .string) ++
    optionalMember "requestName" (method.requestName.map .string) ++
    [("params", .array (method.params.map Model.encode)),
      ("responses", .array (method.responses.map Model.encode)),
      ("comments", .ofTexts method.comments)])

def record : Record Method where
  title := "RequestData"
  blank := ⟨none, none, [], [], []⟩
  attributes := [
    .optional "methodName" Decode.text fun method name => { method with name },
    .optional "requestName" Decode.text fun method requestName => { method with requestName },
    .required "params" (Decode.list Model.record.decode) fun method params =>
      { method with params },
    .required "responses" (Decode.list Model.record.decode) fun method responses =>
      { method with responses },
    .required "comments" (Decode.list Decode.text) fun method comments =>
      { method with comments }]

end Method

end ApiSchema
