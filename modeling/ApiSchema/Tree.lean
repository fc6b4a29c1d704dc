import ApiSchema.Json.Decode

set_option autoImplicit false

namespace ApiSchema

open ApiSchema.Json

/-- A field with the fields that it groups. -/
inductive Tree (α : Type) where
  | node (label : α) (children : List (Tree α))

namespace Tree

variable {α : Type}

def label : Tree α → α
  | .node label _ => label

def children : Tree α → List (Tree α)
  | .node _ children => children

def withLabel (tree : Tree α) (label : α) : Tree α := .node label tree.children

def withChildren (tree : Tree α) (children : List (Tree α)) : Tree α := .node tree.label children

end Tree

/-- An attribute of a label as one of the tree. -/
def Json.Attribute.ofLabel {α : Type} (entry : Attribute α) : Attribute (Tree α) :=
  ⟨entry.key, entry.presence, fun node tree =>
    (entry.read node tree.label).map tree.withLabel⟩

/-- How the trees of a platform are read: the attributes of a node, given how its children are. -/
structure TreeRecord (α : Type) where
  title : String
  blank : α
  attributes : Decoder (Tree α) → List (Attribute (Tree α))

namespace TreeRecord

variable {α : Type}

/-- Reads a tree with at most the given number of levels of containers. -/
def decodeWithin (record : TreeRecord α) : Nat → Decoder (Tree α)
  | 0 => Record.decode ⟨record.title, [], .node record.blank []⟩
  | levels + 1 =>
      Record.decode
        ⟨record.title, record.attributes (decodeWithin record levels), .node record.blank []⟩

def decode (record : TreeRecord α) : Decoder (Tree α) := fun node =>
  record.decodeWithin node.height node

def decodeList (record : TreeRecord α) : Decoder (List (Tree α)) := Decode.list record.decode

end TreeRecord

end ApiSchema
