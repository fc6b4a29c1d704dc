import ApiSchema.Platform.Basic

/-!
Documentation in which fields are typed by class names and may name structures that are documented
elsewhere. Two platforms share this form; they differ in keys and in the names of primitive types.
-/

set_option autoImplicit false

namespace ApiSchema.Structured

open ApiSchema.Json ApiSchema.Naming

structure Entry where
  name : String
  type : String
  description : String
  sample : String
  required : Bool
  structureId : Option Value

/-- The keys under which a platform sends its documentation. -/
structure Keys where
  name : String
  type : String
  sample : String
  members : String
  params : String
  responses : String

/-- How the parts of a field are read. Each may be missing or `null`. -/
def Entry.attributes (keys : Keys) : List (Attribute Entry) := [
  .defaulted keys.name nullableText fun entry name => { entry with name },
  .defaulted keys.type nullableText fun entry type => { entry with type },
  .defaulted "description" Decode.looseText fun entry description => { entry with description },
  .defaulted keys.sample Decode.looseText fun entry sample => { entry with sample },
  .defaulted "required" nullableFlag fun entry required => { entry with required },
  .defaulted "structureId" (Decode.optional Node.value) fun entry structureId =>
    { entry with structureId }]

def tree (keys : Keys) : TreeRecord Entry where
  title := "Field"
  blank := ⟨"", "", "", "", false, none⟩
  attributes self := (Entry.attributes keys).map Attribute.ofLabel ++
    [.defaulted keys.members (nullableList self) Tree.withChildren]

/-- Documentation of a method: its name, its parameters and its response. -/
structure Outline where
  name : String
  params : List (Tree Entry)
  responses : List (Tree Entry)

/-- How documentation is read. Each part may be missing or `null`. -/
def outline (keys : Keys) : Record Outline where
  title := "Data"
  blank := ⟨"", [], []⟩
  attributes := [
    .defaulted "name" nullableText fun outline name => { outline with name },
    .defaulted keys.params (nullableList (tree keys).decode) fun outline params =>
      { outline with params },
    .defaulted keys.responses (nullableList (tree keys).decode) fun outline responses =>
      { outline with responses }]

/-- The members of a structure in its documentation: the documentation itself, if it is a list, or
its list of members. -/
def locateMembers (keys : Keys) (payload : Value) : Option Value :=
  match payload.get? "data" with
  | none => none
  | some data => if data.isArray then some data else (data.get? keys.members).filter Value.isArray

def Entry.structure? (entry : Entry) : Option String := structureId? entry.structureId

def structures (keys : Keys) : Structures Entry where
  idOf := Entry.structure?
  locate := locateMembers keys
  decode := (tree keys).decodeList

def isList (type : String) : Bool := Text.contains type "[]" || Text.contains type "List"

/-- Whether the elements of a list are not described. -/
def isBareList (element : String) : Bool := Text.equalsIgnoringCase element "list"

def isObjectList (scalar? : String → Option Primitive) (type : String) : Bool :=
  let element := elementName type
  isList type && (scalar? element).isNone && !isBareList element

def resolve (scalar? : String → Option Primitive) (type : String) : ResolvedType :=
  if isList type then
    let element := elementName type
    match scalar? element with
    | some primitive => ⟨Primitive.list.tag, some primitive.tag⟩
    | none => ⟨Primitive.list.tag, if isBareList element then none else some element⟩
  else
    match scalar? (Text.trim type) with
    | some primitive => ⟨primitive.tag, none⟩
    | none => ⟨"", none⟩

/-- What a platform says of its fields, given the primitive types and which fields are objects. -/
def dialect (scalar? : String → Option Primitive) (isObject : Tree Entry → Bool) :
    Dialect Entry where
  name entry := entry.name
  isObject
  isObjectList tree := isObjectList scalar? tree.label.type
  resolve entry := resolve scalar? entry.type
  modelName entry := className (elementName entry.type)
  isRequired entry := entry.required
  description entry := entry.description
  sample entry := some entry.sample

/-- The method that documentation describes, with its structures expanded. -/
def Outline.method (outline : Outline) (platform : String) (dialect : Dialect Entry)
    (structures : Structures Entry) (context : Context) : Lookup Method :=
  match apiName? outline.name with
  | none => noted missingName
  | some names => do
      let (first, params) ← (expand context.source platform structures outline.params).lookup
      let (second, responses) ←
        (expand context.source platform structures outline.responses).lookup
      let method := assemble dialect context names params responses
      if first == .unavailable || second == .unavailable then
        return { method with comments := method.comments ++ [unexpandedStructures] }
      return method

/-- Reads a payload, given how its envelope is read and which status tells of success. -/
def parse {σ : Type} (envelope : Record (Envelope σ)) (succeeds : σ → Bool) (keys : Keys)
    (platform : String) (dialect : Dialect Entry) (context : Context) (payload : String) :
    Lookup Method := do
  let opened ← readJson envelope.decode payload
  if !succeeds opened.status then noted requestFailed
  else if opened.data.isBlank then noted emptyDocumentation
  else
    let outline ← readJsonValue (outline keys).decode opened.data
    outline.method platform dialect (structures keys) context

end ApiSchema.Structured
