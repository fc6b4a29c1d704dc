import ApiSchema.Flatten

set_option autoImplicit false

namespace ApiSchema.Weixin

open ApiSchema.Naming

def scalar? (text : String) : Option Primitive :=
  match Text.lowerAscii (Text.trim text) with
  | "number" | "int" | "integer" | "int32" | "int64" | "uint32" | "uint64" => some .int
  | "string" | "string(uint64)" => some .string
  | "bool" | "boolean" => some .bool
  | "float" | "double" => some .float
  | "array" | "array(string)" | "array[string]" => some .list
  | "object" | "objct" => some .object
  | "map" => some .dict
  | _ => none

def isBracket (c : Char) : Bool := ['(', ')', '<', '>', '[', ']'].contains c

/-- Whether a word says that a type is an object or an array, and not which. -/
def isGeneric (word : String) : Bool :=
  ["object", "objct", "array"].contains (Text.lowerAscii word)

/-- The words of a type without brackets and generic words: `Foo` for `Object Foo`, `Array<Foo>`. -/
def bareWords (text : String) : List String :=
  (Text.words (String.ofList (text.toList.map fun c => if isBracket c then ' ' else c))).filter
    fun word => !isGeneric word

def bareName (text : String) : String := String.intercalate " " (bareWords text)

def isArray (text : String) : Bool :=
  let lower := Text.lowerAscii text
  Text.contains lower "[]" || Text.contains lower "array"

/-- The name of a type as its table is named; one name is misspelt in the pages. -/
def correctName (name : String) : String := if name == "AtrrInfo" then "AttrInfo" else name

def isTypeName (word : String) : Bool :=
  1 < word.utf8ByteSize &&
    (word.toList.head?.any Char.isUpper) &&
    word.toList.all (fun c => c.isAlphanum || c == '_') &&
    (scalar? word).isNone

def namedType? (text : String) : Option String :=
  if (scalar? text).isSome then none
  else ((bareWords text).head?.filter isTypeName).map correctName

def typeOfText (text : String) : ResolvedType :=
  if isArray text then
    let inner := bareName text
    let element :=
      match scalar? inner with
      | some primitive => primitive.tag
      | none => pascalCase (correctName inner)
    ⟨Primitive.list.tag, if inner.isEmpty then none else some element⟩
  else
    match scalar? text with
    | some primitive => ⟨primitive.tag, none⟩
    | none => ⟨((namedType? text).map pascalCase).getD "", none⟩

/-- The type that a part of a dotted name implies: `items[]` is a list of `Items`. -/
def typeOfSegment (part : String) : ResolvedType :=
  let bare := pascalCase (elementName part)
  if Text.contains part "[]" then ⟨Primitive.list.tag, some bare⟩ else ⟨bare, none⟩

end ApiSchema.Weixin
