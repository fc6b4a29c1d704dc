import ApiSchema.Json.Fault

set_option autoImplicit false

namespace ApiSchema

inductive Failure where
  | unknownPlatform (id : String)
  | unknownLanguage (language : String)
  | typeNotFound (table type : String)
  | unexpectedShape (what : String)
  | json (error : Json.Error)
  | lookup (id reason : String)
  | pageUnsupported (platform : String)
  | settings (reason : String)

def Failure.text : Failure → String
  | .unknownPlatform id => "unknown vendor: " ++ id
  | .unknownLanguage language => "unsupported language: " ++ language
  | .typeNotFound table type => "未找到 " ++ table ++ " 中的 " ++ type ++ " 数据"
  | .unexpectedShape what => "unexpected payload shape: " ++ what
  | .json error => "invalid JSON payload: " ++ error.text
  | .lookup id reason => "structure " ++ id ++ " lookup failed: " ++ reason
  | .pageUnsupported platform => "vendor " ++ platform ++ " does not parse rendered documents"
  | .settings reason => "invalid configuration: " ++ reason

/-- The result of reading JSON, its report being a failure. -/
def Failure.ofJson {α : Type} (result : Except Json.Error α) : Except Failure α :=
  result.mapError .json

end ApiSchema
