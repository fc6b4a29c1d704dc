import ApiSchema.Method.Basic
import ApiSchema.Naming
import ApiSchema.Text.Basic
import ApiSchema.Tree

/-!
Flattening. Every documented field that groups others becomes a model of its own, named by its
place, and what is left of it refers to that model. Models come after the models they refer to.
-/

set_option autoImplicit false

namespace ApiSchema

open ApiSchema.Naming

/-- A type as a platform writes it: a tag or the name of a model, and the type of a list's elements.
The empty type is unknown. -/
structure ResolvedType where
  type : String
  element : Option String

structure Dialect (α : Type) where
  /-- The name of the field in a message. -/
  name : α → String
  /-- Whether the field is an object with members. -/
  isObject : Tree α → Bool
  /-- Whether the field is a list of objects with members. -/
  isObjectList : Tree α → Bool
  /-- The type of a field that has no members. -/
  resolve : α → ResolvedType
  /-- The local name of the model that the members make. -/
  modelName : α → String
  /-- Whether the field must be present. -/
  isRequired : α → Bool
  /-- Whether the field is about to be removed. -/
  isDeprecated : α → Bool := fun _ => false
  /-- Whether the field was removed. -/
  isRemoved : α → Bool := fun _ => false
  /-- What the field means. -/
  description : α → String
  /-- A sample value. -/
  sample : α → Option String := fun _ => none
  /-- The least length or value. -/
  minLength : α → Option Nat := fun _ => none
  /-- The greatest length or value. -/
  maxLength : α → Option Nat := fun _ => none

namespace Dialect

variable {α : Type}

/-- The field by itself. An unknown type is an object, and only a list has elements. -/
def field (dialect : Dialect α) (label : α) : Field :=
  let resolved := dialect.resolve label
  let type := if resolved.type.isEmpty then Primitive.object.tag else resolved.type
  { name := dialect.name label
    type
    element :=
      if type == Primitive.list.tag then resolved.element.filter fun element => !element.isEmpty
      else none
    description := Text.plain (dialect.description label)
    sample := ((dialect.sample label).map Text.plain).filter fun sample => !sample.isEmpty
    required := dialect.isRequired label
    deprecated := dialect.isDeprecated label
    removed := dialect.isRemoved label
    minLength := dialect.minLength label
    maxLength := dialect.maxLength label }

/-- The field as a reference to the model of its members. -/
def reference (field : Field) (isList : Bool) (model : String) : Field :=
  if isList then { field with type := Primitive.list.tag, element := some model }
  else { field with type := model, element := none }

mutual

/-- The field of a tree in the model at `path`, and the models below it. -/
def flatten (dialect : Dialect α) (path : String) : Tree α → Field × List Model
  | .node label children =>
      let isList := dialect.isObjectList (.node label children)
      if !isList && !dialect.isObject (.node label children) then (dialect.field label, [])
      else
        let model := nestedName (dialect.modelName label) [path, dialect.name label]
        let (fields, models) := flattenAll dialect model [] children
        (reference (dialect.field label) isList model, models ++ [⟨model, .child, fields⟩])

/-- The fields of a forest in the model at `path`, and the models below them. Of fields with one
name the first counts; `seen` are the names before. -/
def flattenAll (dialect : Dialect α) (path : String) (seen : List String) :
    List (Tree α) → List Field × List Model
  | [] => ([], [])
  | tree :: rest =>
      let name := dialect.name tree.label
      if seen.contains name then flattenAll dialect path seen rest
      else
        let (field, inner) := flatten dialect path tree
        let (fields, models) := flattenAll dialect path (name :: seen) rest
        (field :: fields, inner ++ models)

end

def models (dialect : Dialect α) (rootName : String) (kind : ModelKind) (forest : List (Tree α)) :
    List Model :=
  let (fields, nested) := dialect.flattenAll "" [] forest
  nested ++ [⟨rootName, kind, fields⟩]

end Dialect

end ApiSchema
