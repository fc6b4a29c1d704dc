import ApiSchema.Failure
import ApiSchema.Json.Decode
import ApiSchema.Method.Basic
import ApiSchema.OrderedMap
import ApiSchema.Text.Basic

set_option autoImplicit false

namespace ApiSchema

open ApiSchema.Json

structure BaseTypes where
  child : String
  param : String
  response : String
  request : String
  deriving DecidableEq

namespace BaseTypes

/-- The base types of a platform that has its own for all but nested models. -/
def ofFamily (family : String) : BaseTypes :=
  ⟨"BaseModel", family ++ "ParamBase", family ++ "ResponseBase", family ++ "RequestBase"⟩

def get (bases : BaseTypes) : ModelKind → String
  | .child => bases.child
  | .param => bases.param
  | .response => bases.response
  | .request => bases.request

def record : Record BaseTypes where
  title := "BaseTypes"
  blank := ⟨"", "", "", ""⟩
  attributes := [
    .required "child" Decode.text fun bases child => { bases with child },
    .required "param" Decode.text fun bases param => { bases with param },
    .required "response" Decode.text fun bases response => { bases with response },
    .required "request" Decode.text fun bases request => { bases with request }]

def encode (bases : BaseTypes) : Value :=
  .object [("child", .string bases.child), ("param", .string bases.param),
    ("response", .string bases.response), ("request", .string bases.request)]

end BaseTypes

/-- The settings of a generator. Base types and the addresses of structures are given for each
platform by its id. -/
structure Settings where
  language : String
  wantRemoved : Bool
  wantDeprecated : Bool
  wantSample : Bool
  wantDescription : Bool
  bases : OrderedMap BaseTypes
  endpoints : OrderedMap String
  timeoutSeconds : Nat

namespace Settings

/-- The settings of a user who chose nothing. -/
def default : Settings :=
  { language := "Python", wantRemoved := false, wantDeprecated := false, wantSample := true,
    wantDescription := true, bases := .empty, endpoints := .empty, timeoutSeconds := 30 }

def record : Record Settings where
  title := "GeneratorConfig"
  blank := default
  attributes := [
    .defaulted "language" Decode.text fun settings language => { settings with language },
    .defaulted "needRemoved" Decode.flag fun settings wantRemoved =>
      { settings with wantRemoved },
    .defaulted "needDeprecated" Decode.flag fun settings wantDeprecated =>
      { settings with wantDeprecated },
    .defaulted "needExample" Decode.flag fun settings wantSample => { settings with wantSample },
    .defaulted "needDescription" Decode.flag fun settings wantDescription =>
      { settings with wantDescription },
    .defaulted "modelConfig" (Decode.table BaseTypes.record.decode) fun settings entries =>
      { settings with bases := .ofList entries },
    .defaulted "structureEndpoints" (Decode.table Decode.text) fun settings entries =>
      { settings with endpoints := .ofList entries },
    .defaulted "httpTimeoutSecs" Decode.unsigned fun settings timeoutSeconds =>
      { settings with timeoutSeconds }]

def ofJson (text : String) : Except Failure Settings :=
  (decodeText record.decode text).mapError fun error => .settings error.text

def encode (settings : Settings) : Value :=
  .object [
    ("language", .string settings.language),
    ("needRemoved", .bool settings.wantRemoved),
    ("needDeprecated", .bool settings.wantDeprecated),
    ("needExample", .bool settings.wantSample),
    ("needDescription", .bool settings.wantDescription),
    ("modelConfig", .object (settings.bases.entries.map fun (id, bases) => (id, bases.encode))),
    ("structureEndpoints",
      .object (settings.endpoints.entries.map fun (id, endpoint) => (id, .string endpoint))),
    ("httpTimeoutSecs", .ofNat settings.timeoutSeconds)]

def languageVariable : String := "PLUM_LANGUAGE"

/-- The start of the names in an environment that give the address of a platform's structures. -/
def endpointVariable : String := "PLUM_STRUCTURE_ENDPOINT_"

def endpointPlatform? (variableName : String) : Option String :=
  match Text.after? variableName endpointVariable with
  | some platform => if platform.isEmpty then none else some (Text.lowerAscii platform)
  | none => none

/-- The settings after one variable; an empty one changes nothing. -/
def override (settings : Settings) (variableName value : String) : Settings :=
  if value.isEmpty then settings
  else if variableName == languageVariable then { settings with language := value }
  else
    match endpointPlatform? variableName with
    | some platform => { settings with endpoints := settings.endpoints.insert platform value }
    | none => settings

def withOverrides (settings : Settings) (environment : List (String × String)) : Settings :=
  environment.foldl (fun current (name, value) => current.override name value) settings

/-- The base types of a platform, given the ones it has by itself. -/
def basesFor (settings : Settings) (platform : String) (own : BaseTypes) : BaseTypes :=
  (settings.bases.get? platform).getD own

/-- The address at which the structures of a platform are looked up, the place of the id still
open. -/
def endpoint? (settings : Settings) (platform : String) : Option String :=
  (settings.endpoints.get? platform).filter fun endpoint => !endpoint.isEmpty

/-- The seconds to wait for an answer, at least one. -/
def timeout (settings : Settings) : Nat := max settings.timeoutSeconds 1

end Settings

end ApiSchema
