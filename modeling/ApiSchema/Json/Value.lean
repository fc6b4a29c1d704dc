import ApiSchema.Json.Number

set_option autoImplicit false

namespace ApiSchema.Json

/-- A JSON value. The members of an object that was read have distinct keys and are ordered by
them. -/
inductive Value where
  | null
  | bool (value : Bool)
  | number (value : Number)
  | string (value : String)
  | array (items : List Value)
  | object (members : List (String × Value))

instance : Inhabited Value := ⟨.null⟩

/-- The members with one more, placed by its key; a member of the same key gives way. -/
def insertMember {α : Type} (key : String) (value : α) : List (String × α) → List (String × α)
  | [] => [(key, value)]
  | (other, held) :: rest =>
      if key < other then (key, value) :: (other, held) :: rest
      else if key == other then (key, value) :: rest
      else (other, held) :: insertMember key value rest

namespace Value

/-- The object with the given members; of members with one key the last counts. -/
def ofMembers (members : List (String × Value)) : Value :=
  .object (members.foldl (fun sorted (key, value) => insertMember key value sorted) [])

def get? (value : Value) (key : String) : Option Value :=
  match value with
  | .object members => members.lookup key
  | _ => none

def isArray : Value → Bool
  | .array _ => true
  | _ => false

def text? : Value → Option String
  | .string text => some text
  | _ => none

/-- Whether the value is `null` or holds nothing. -/
def isBlank : Value → Bool
  | .null => true
  | .object members => members.isEmpty
  | .array items => items.isEmpty
  | .string text => text.isEmpty
  | _ => false

def ofNat (value : Nat) : Value := .number (.integer value)

def ofTexts (texts : List String) : Value := .array (texts.map .string)

def ofText? : Option String → Value
  | some text => .string text
  | none => .null

end Value

end ApiSchema.Json
