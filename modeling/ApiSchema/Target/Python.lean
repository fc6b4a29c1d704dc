import ApiSchema.Naming
import ApiSchema.Target.Basic

set_option autoImplicit false

namespace ApiSchema.Python

open ApiSchema.Naming

def keywords : List String :=
  ["False", "None", "True", "and", "as", "assert", "async", "await", "break", "class", "continue",
    "def", "del", "elif", "else", "except", "finally", "for", "from", "global", "if", "import",
    "in", "is", "lambda", "nonlocal", "not", "or", "pass", "raise", "return", "try", "while",
    "with", "yield"]

def isKeyword (word : String) : Bool := keywords.contains word

/-- A character of a string in double quotes. -/
def escapeChar (c : Char) : List Char :=
  if c == '\\' then ['\\', '\\'] else if c == '"' then ['\\', '"'] else [c]

/-- A text as it stands between double quotes. -/
def escape (text : String) : String := String.ofList (text.toList.flatMap escapeChar)

def quote (text : String) : String := "\"" ++ escape text ++ "\""

def comment (text : String) : String := "# " ++ text

def nameChar (c : Char) : Char := if Text.isAlphanumeric c || c == '_' then c else '_'

def attributeName (name : String) : String :=
  let snake := String.ofList ((snakeChars none name.toList).map nameChar)
  let started :=
    if snake.isEmpty || snake.toList.head?.any Char.isDigit then "field_" ++ snake else snake
  if isKeyword started then started ++ "_" else started

def typeName (type : String) : String := if type == Primitive.object.tag then "dict" else type

/-- The type of a field that is present. -/
def fieldType (field : Field) : String :=
  if field.isList then
    match field.element with
    | some element => "list[" ++ typeName element ++ "]"
    | none => "list"
  else typeName field.type

def declaredType (field : Field) : String :=
  if field.required then fieldType field else "Optional[" ++ fieldType field ++ "]"

/-- The keys of the bounds of a type, those of texts and lists being lengths. -/
def boundKeys? (type : String) : Option (String × String) :=
  match Primitive.ofTag? type with
  | some .string | some .list => some ("max_length", "min_length")
  | some .int | some .float => some ("le", "ge")
  | _ => none

def bounds (field : Field) : List String :=
  match boundKeys? field.type with
  | none => []
  | some (maxKey, minKey) =>
      (field.maxLength.map fun length => maxKey ++ "=" ++ toString length).toList ++
        (field.minLength.map fun length => minKey ++ "=" ++ toString length).toList

/-- The name of a field in messages, where it is not that of the attribute. -/
def aliasArgument (field : Field) : List String :=
  if attributeName field.name == field.name then [] else ["alias=" ++ quote field.name]

def arguments (field : Field) (options : EmitOptions) : List String :=
  ((options.description? field).map fun text => "description=" ++ quote text).toList ++
    ((options.sample? field).map fun text =>
      "json_schema_extra=\x7b\"example\": " ++ quote text ++ "\x7d").toList ++
    bounds field ++ aliasArgument field

def assignment (field : Field) (options : EmitOptions) : String :=
  match arguments field options with
  | [] => if field.required then "" else " = None"
  | first :: rest =>
      " = Field(" ++ (if field.required then "..." else "default=None") ++ ", " ++
        String.intercalate ", " (first :: rest) ++ ")"

def fieldLine (field : Field) (options : EmitOptions) : String :=
  "    " ++ attributeName field.name ++ ": " ++ declaredType field ++ assignment field options

def classLines (model : Model) (options : EmitOptions) : List String :=
  let body := (options.visibleFields model).map fun field => fieldLine field options
  ["class " ++ model.name ++ "(" ++ options.bases.get model.kind ++ "):"] ++
    (if body.isEmpty then ["    pass"] else body) ++ ["", ""]

def wrapperLines (wrapper : Wrapper) (options : EmitOptions) : List String :=
  ["class " ++ wrapper.method ++ "Request(" ++ options.bases.get .request ++ "):",
    "    method: str = " ++ quote wrapper.request,
    "    param: " ++ wrapper.param]

/-- Whether a field that is written is a date. -/
def usesDates (method : Method) (options : EmitOptions) : Bool :=
  let tag := Primitive.datetime.tag
  method.models.any fun model =>
    (options.visibleFields model).any fun field => field.type == tag || field.element == some tag

def imports (method : Method) (options : EmitOptions) : List String :=
  (if usesDates method options then ["from datetime import datetime"] else []) ++
    ["from typing import Optional", "from pydantic import Field", "", ""]

def emit (method : Method) (options : EmitOptions) : List String :=
  let notes := method.comments.map comment
  if !method.hasModels then notes
  else
    notes ++ imports method options ++
      method.models.flatMap (fun model => classLines model options) ++
      ((method.wrapper?.map fun wrapper => wrapperLines wrapper options).getD [])

def target : Target where
  language := "Python"
  extension := "py"
  comment := comment
  emit := emit

end ApiSchema.Python
