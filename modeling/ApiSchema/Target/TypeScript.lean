import ApiSchema.Target.Basic
import ApiSchema.Text.Basic

set_option autoImplicit false

namespace ApiSchema.TypeScript

def openBrace : String := "\x7b"

def closeBrace : String := "\x7d"

/-- A text in a block comment, whose end is kept out of the text. -/
def comment (text : String) : String := "/** " ++ Text.replace text "*/" "* /" ++ " */"

/-- A text in double quotes, its own double quotes escaped. -/
def quote (text : String) : String := "\"" ++ Text.replace text "\"" "\\\"" ++ "\""

def startsName (c : Char) : Bool := Text.isAlphabetic c || c == '_' || c == '$'

def continuesName (c : Char) : Bool := Text.isAlphanumeric c || c == '_' || c == '$'

def isName (text : String) : Bool :=
  text.toList.head?.any startsName && text.toList.all continuesName

/-- The key of a field: a name as it is, another text in quotes. -/
def propertyName (name : String) : String := if isName name then name else quote name

def typeName (type : String) : String :=
  match Primitive.ofTag? type with
  | some .string | some .datetime => "string"
  | some .int | some .float => "number"
  | some .bool => "boolean"
  | some .object => "object"
  | some .dict => "Record<string, unknown>"
  | some .list => "Array<unknown>"
  | none => type

/-- The type of a field that is present. -/
def fieldType (field : Field) : String :=
  if field.isList then "Array<" ++ (field.element.map typeName).getD "unknown" ++ ">"
  else typeName field.type

/-- The comment on a field, if anything is said of it. -/
def fieldComment? (field : Field) (options : EmitOptions) : Option String :=
  let parts :=
    ((options.description? field).map fun text => "description: " ++ text).toList ++
      ((options.sample? field).map fun text => "example: " ++ text).toList
  if parts.isEmpty then none else some (comment (String.intercalate ", " parts))

def fieldLines (field : Field) (options : EmitOptions) : List String :=
  let name := propertyName field.name
  let type := fieldType field
  ((fieldComment? field options).map fun text => "    " ++ text).toList ++
    [if field.required then "    " ++ name ++ ": " ++ type ++ ";"
      else "    " ++ name ++ "?: " ++ type ++ " | null;"]

def interfaceLines (model : Model) (options : EmitOptions) : List String :=
  ["interface " ++ model.name ++ " extends " ++ options.bases.get model.kind ++ " " ++ openBrace] ++
    (options.visibleFields model).flatMap (fun field => fieldLines field options) ++
    [closeBrace, ""]

def wrapperLines (wrapper : Wrapper) (options : EmitOptions) : List String :=
  ["type " ++ wrapper.method ++ "Request = " ++ options.bases.get .request ++ " & " ++ openBrace,
    "    method: " ++ quote wrapper.request ++ ";",
    "    param: " ++ wrapper.param ++ ";",
    closeBrace ++ ";"]

def emit (method : Method) (options : EmitOptions) : List String :=
  method.comments.map comment ++
    method.models.flatMap (fun model => interfaceLines model options) ++
    ((method.wrapper?.map fun wrapper => wrapperLines wrapper options).getD [])

def target : Target where
  language := "TypeScript"
  extension := "ts"
  comment := comment
  emit := emit

end ApiSchema.TypeScript
