import ApiSchema.Platform.Weixin.Row

/-!
The tree of fields that rows describe: the parts of a dotted name are the fields on the way to the
field of the row. A field that no row describes stands in with a notice.
-/

set_option autoImplicit false

namespace ApiSchema.Weixin

open ApiSchema.Naming

structure Entry where
  name : String
  type : ResolvedType
  required : Bool
  description : String

def placeholderDescription : String := "缺少类型描述，请自行补充"

/-- The forest with the first tree of a name changed, or with a new tree at its end. -/
def updateFirst (name : String) (change : List (Tree Entry) → List (Tree Entry))
    (fallback : Entry) : List (Tree Entry) → List (Tree Entry)
  | [] => [.node fallback (change [])]
  | .node entry children :: rest =>
      if entry.name == name then .node entry (change children) :: rest
      else .node entry children :: updateFirst name change fallback rest

/-- A field that no row describes, from its part of a dotted name. -/
def placeholder (part : String) : Entry :=
  ⟨elementName part, typeOfSegment part, false, placeholderDescription⟩

def entryOf (row : Row) (part : String) (outermost : Bool) : Entry :=
  let type :=
    if outermost && Text.contains part "[]" then typeOfSegment part else typeOfText row.typeText
  ⟨elementName part, type, row.required, row.description⟩

/-- The forest with the field of a row at the end of a path. A field that is there already stays. -/
def insertRow (row : Row) (outermost : Bool) : List String → List (Tree Entry) → List (Tree Entry)
  | [], forest => forest
  | [last], forest =>
      if forest.any fun tree => tree.label.name == elementName last then forest
      else forest ++ [.node (entryOf row last outermost) []]
  | part :: rest, forest =>
      updateFirst (elementName part) (insertRow row false rest) (placeholder part) forest

def nameParts (name : String) : List String :=
  (Text.segments (· == '.') name.toList).map String.ofList

/-- The tree of fields that rows describe. -/
def forestOf (rows : List Row) : List (Tree Entry) :=
  rows.foldl (fun forest row => insertRow row true (nameParts row.name) forest) []

end ApiSchema.Weixin
