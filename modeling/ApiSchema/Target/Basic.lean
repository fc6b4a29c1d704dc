import ApiSchema.Settings

set_option autoImplicit false

namespace ApiSchema

/-- Which fields and texts are written, and what models extend. -/
structure EmitOptions where
  wantRemoved : Bool
  wantDeprecated : Bool
  wantSample : Bool
  wantDescription : Bool
  bases : BaseTypes

namespace EmitOptions

/-- The options of settings, with base types. -/
def of (settings : Settings) (bases : BaseTypes) : EmitOptions :=
  { wantRemoved := settings.wantRemoved, wantDeprecated := settings.wantDeprecated,
    wantSample := settings.wantSample, wantDescription := settings.wantDescription, bases }

def visibleFields (options : EmitOptions) (model : Model) : List Field :=
  model.fields.filter fun field => field.isVisible options.wantRemoved options.wantDeprecated

def description? (options : EmitOptions) (field : Field) : Option String :=
  if options.wantDescription then some field.description else none

def sample? (options : EmitOptions) (field : Field) : Option String :=
  if options.wantSample then field.sample else none

end EmitOptions

structure Target where
  /-- The name of the language. -/
  language : String
  /-- What the names of files end in, without the point. -/
  extension : String
  /-- A comment on a line. -/
  comment : String → String
  /-- The lines for a method. -/
  emit : Method → EmitOptions → List String

/-- The parts of a request: the name of the method for types and in requests, and the model of its
parameters. -/
structure Wrapper where
  method : String
  request : String
  param : String

/-- The request of a method that has names and parameters. -/
def Method.wrapper? (method : Method) : Option Wrapper := do
  let name ← method.name.filter fun name => !name.isEmpty
  let request ← method.requestName.filter fun request => !request.isEmpty
  let param ← method.rootParam?
  return ⟨name, request, param.name⟩

end ApiSchema
