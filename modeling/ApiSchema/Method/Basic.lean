set_option autoImplicit false

namespace ApiSchema

/-- A type that is not a model. -/
inductive Primitive where
  | string
  | int
  | float
  | bool
  | object
  | dict
  | list
  | datetime
  deriving DecidableEq

namespace Primitive

def all : List Primitive := [.string, .int, .float, .bool, .object, .dict, .list, .datetime]

def tag : Primitive → String
  | .string => "str"
  | .int => "int"
  | .float => "float"
  | .bool => "bool"
  | .object => "object"
  | .dict => "dict"
  | .list => "list"
  | .datetime => "datetime"

def ofTag? (tag : String) : Option Primitive := all.find? fun primitive => primitive.tag == tag

/-- Whether the text is a tag; the name of a model is none. -/
def isTag (text : String) : Bool := (ofTag? text).isSome

theorem ofTag?_tag (primitive : Primitive) : ofTag? primitive.tag = some primitive := by
  cases primitive <;> decide

end Primitive

inductive ModelKind where
  | param
  | response
  | request
  | child
  deriving DecidableEq

/-- A field of a model. Its type is a tag or the name of a model; a list may name its elements. -/
structure Field where
  name : String
  type : String
  element : Option String
  description : String
  sample : Option String
  required : Bool
  deprecated : Bool
  removed : Bool
  minLength : Option Nat
  maxLength : Option Nat
  deriving DecidableEq

namespace Field

/-- An optional field without description. -/
def of (name type : String) : Field :=
  { name, type, element := none, description := "", sample := none, required := false,
    deprecated := false, removed := false, minLength := none, maxLength := none }

/-- An optional list without description. -/
def listOf (name : String) (element : Option String) : Field :=
  { Field.of name Primitive.list.tag with element }

def isList (field : Field) : Bool := field.type == Primitive.list.tag

/-- Whether a type refers to a model. -/
def isReference (type : String) : Bool := !type.isEmpty && !Primitive.isTag type

def references (field : Field) : List String :=
  (field.type :: field.element.toList).filter isReference

/-- Whether the field is shown, given whether removed and deprecated fields are wanted. -/
def isVisible (field : Field) (wantRemoved wantDeprecated : Bool) : Bool :=
  !(field.removed && !wantRemoved) && !(field.deprecated && !wantDeprecated)

end Field

structure Model where
  name : String
  kind : ModelKind
  fields : List Field
  deriving DecidableEq

/-- A method as its documentation describes it. The last of its models of parameters and of its
models of the response are the outermost ones. -/
structure Method where
  name : Option String
  requestName : Option String
  params : List Model
  responses : List Model
  comments : List String
  deriving DecidableEq

namespace Method

/-- A method of which nothing is known but why. -/
def unknown (comment : String) : Method := ⟨none, none, [], [], [comment]⟩

def models (method : Method) : List Model := method.params ++ method.responses

def hasModels (method : Method) : Bool := !method.params.isEmpty || !method.responses.isEmpty

/-- The outermost model of the parameters. -/
def rootParam? (method : Method) : Option Model := method.params.getLast?

/-- The names that fields refer to and no model has, each once. -/
def unresolved (method : Method) : List String :=
  let defined := method.models.map Model.name
  let referred := method.models.flatMap fun model => model.fields.flatMap Field.references
  (referred.filter fun name => !defined.contains name).foldl
    (fun missing name => if missing.contains name then missing else missing ++ [name]) []

end Method

end ApiSchema
