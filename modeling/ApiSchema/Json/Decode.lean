import ApiSchema.Json.Printer
import ApiSchema.Json.Reader

set_option autoImplicit false

namespace ApiSchema.Json

/-- A way to read a node. -/
abbrev Decoder (α : Type) := Node → Except Fault α

/-- The fault of a node that is not what is wanted. -/
def Node.mismatch (node : Node) (wanted : String) : Fault :=
  match node with
  | .scalar value stop => ⟨.invalidType value.found wanted, stop⟩
  | .array start _ => ⟨.invalidType .sequence wanted, start⟩
  | .object start _ => ⟨.invalidType .map wanted, start⟩
  | .tooDeep found start => ⟨.invalidType found wanted, some start⟩
  | .broken fault => fault

namespace Decode

def text : Decoder String
  | .scalar (.string value) _ => .ok value
  | node => .error (node.mismatch "a string")

def flag : Decoder Bool
  | .scalar (.bool value) _ => .ok value
  | node => .error (node.mismatch "a boolean")

def signed : Decoder Int
  | .scalar (.number (.integer value)) stop =>
      if Int64.minValue.toInt ≤ value && value ≤ Int64.maxValue.toInt then .ok value
      else .error ⟨.invalidValue (.number (.integer value)) "i64", stop⟩
  | node => .error (node.mismatch "i64")

def unsigned : Decoder Nat
  | .scalar (.number (.integer value)) stop =>
      if 0 ≤ value then .ok value.toNat
      else .error ⟨.invalidValue (.number (.integer value)) "u64", stop⟩
  | node => .error (node.mismatch "u64")

/-- Any value as text: a string as it is, `null` as nothing, another value as it is written. -/
def looseText : Decoder String := fun node =>
  match node.value with
  | .error fault => .error fault
  | .ok .null => .ok ""
  | .ok (.string value) => .ok value
  | .ok value => .ok value.compact

/-- `null` as nothing, another value as it is read. -/
def optional {α : Type} (read : Decoder α) : Decoder (Option α)
  | .scalar .null _ => .ok none
  | node => (read node).map some

/-- `null` as the given value, another value as it is read. -/
def nullAs {α : Type} (fallback : α) (read : Decoder α) : Decoder α
  | .scalar .null _ => .ok fallback
  | node => read node

/-- The items of an array, each read in the same way. -/
def items {α : Type} (read : Decoder α) : Items → Except Fault (List α)
  | .item _ value rest =>
      match read value with
      | .error fault => .error fault
      | .ok first => (items read rest).map (first :: ·)
  | .closed _ => .ok []
  | .broken fault _ => .error fault

def list {α : Type} (read : Decoder α) : Decoder (List α)
  | .array _ entries => items read entries
  | .tooDeep .sequence start => .error (tooDeepFault start)
  | node => .error (node.mismatch "a sequence")

/-- The members of an object, each value read in the same way. -/
def members {α : Type} (read : Decoder α) : Members → Except Fault (List (String × α))
  | .member key _ value rest =>
      match read value with
      | .error fault => .error fault
      | .ok first => (members read rest).map ((key, first) :: ·)
  | .closed _ => .ok []
  | .broken fault => .error fault

/-- An object whose values are all read in the same way, its members in reading order. -/
def table {α : Type} (read : Decoder α) : Decoder (List (String × α))
  | .object _ entries => members read entries
  | .tooDeep .map start => .error (tooDeepFault start)
  | node => .error (node.mismatch "a map")

/-- One of several named choices, written as a string or as an object with that one key and the
value `null`. -/
def choice {α : Type} (choices : List (String × α)) : Decoder α :=
  let named (name : String) (place : Place) : Except Fault α :=
    match choices.lookup name with
    | some value => .ok value
    | none => .error ⟨.unknownVariant name (choices.map Prod.fst), place⟩
  fun
  | .scalar (.string name) stop => named name stop
  | .object _ (.member name keyStop value (.closed _)) =>
      match named name keyStop, value with
      | .error fault, _ => .error fault
      | .ok chosen, .scalar .null _ => .ok chosen
      | .ok _, other => .error (other.mismatch "unit")
  | .object start _ => .error ⟨.invalidValue .map "map with a single key", start⟩
  | node => .error (node.mismatch "string or map")

end Decode

/-- Where an attribute may be missing. An optional one may be missing from an object alone, one with
a default also from the end of an array. -/
inductive Presence where
  | required
  | optional
  | defaulted
  deriving DecidableEq

/-- An attribute of a record: its key and how its value enters the record. -/
structure Attribute (ρ : Type) where
  key : String
  presence : Presence
  read : Node → ρ → Except Fault ρ

namespace Attribute

variable {ρ α : Type}

/-- An attribute whose value is stored by the given function. -/
def of (key : String) (presence : Presence) (read : Decoder α) (store : ρ → α → ρ) : Attribute ρ :=
  ⟨key, presence, fun node record => (read node).map (store record)⟩

def required (key : String) (read : Decoder α) (store : ρ → α → ρ) : Attribute ρ :=
  of key .required read store

/-- An attribute that may be missing from an object or be `null`. -/
def optional (key : String) (read : Decoder α) (store : ρ → Option α → ρ) : Attribute ρ :=
  of key .optional (Decode.optional read) store

/-- An attribute that keeps its default when it is missing. -/
def defaulted (key : String) (read : Decoder α) (store : ρ → α → ρ) : Attribute ρ :=
  of key .defaulted read store

end Attribute

structure Record (ρ : Type) where
  title : String
  attributes : List (Attribute ρ)
  blank : ρ

namespace Record

variable {ρ : Type}

/-- The record filled from the members of an object, some keys having been seen before. -/
def fill (attributes : List (Attribute ρ)) (seen : List String) (record : ρ) :
    Members → Except Fault ρ
  | .member key keyStop value rest =>
      match attributes.find? fun entry => entry.key == key with
      | none => fill attributes seen record rest
      | some entry =>
          if seen.contains key then .error ⟨.duplicateField key, keyStop⟩
          else
            match entry.read value record with
            | .error fault => .error fault
            | .ok filled => fill attributes (key :: seen) filled rest
  | .closed stop =>
      let missing := attributes.find? fun entry =>
        entry.presence == .required && !seen.contains entry.key
      match missing with
      | some entry => .error ⟨.missingField entry.key, stop⟩
      | none => .ok record
  | .broken fault => .error fault

/-- The words for the attributes that an array lacks. -/
def wantedLength (title : String) (count : Nat) : String :=
  "struct " ++ title ++ " with " ++ toString count ++
    (if count == 1 then " element" else " elements")

/-- The record filled from the items of an array, `count` of which have been read. -/
def fillInOrder (wanted : String) (count : Nat) (record : ρ) :
    List (Attribute ρ) → Items → Except Fault ρ
  | entry :: later, .item _ value rest =>
      match entry.read value record with
      | .error fault => .error fault
      | .ok filled => fillInOrder wanted (count + 1) filled later rest
  | entry :: later, .closed stop =>
      if entry.presence == .defaulted then
        fillInOrder wanted (count + 1) record later (.closed stop)
      else .error ⟨.invalidLength count wanted, stop⟩
  | _ :: _, .broken fault _ => .error fault
  | [], .closed _ => .ok record
  | [], .item leftover _ _ => .error leftover
  | [], .broken _ leftover => .error leftover

def decode (record : Record ρ) : Decoder ρ
  | .object _ members => fill record.attributes [] record.blank members
  | .array _ items =>
      fillInOrder (wantedLength record.title record.attributes.length) 0 record.blank
        record.attributes items
  | .tooDeep _ start => .error (tooDeepFault start)
  | node => .error (node.mismatch ("struct " ++ record.title))

end Record

def decodeText {α : Type} (read : Decoder α) (text : String) : Except Error α :=
  let document := readDocument text
  match read document.root with
  | .error fault => .error (fault.inText text)
  | .ok value =>
      match document.trailing with
      | some fault => .error (fault.inText text)
      | none => .ok value

/-- Reads a value that was read before. -/
def decodeValue {α : Type} (read : Decoder α) (value : Value) : Except Error α :=
  match read value.node with
  | .error fault => .error fault.inValue
  | .ok result => .ok result

/-- The value that a text writes. -/
def readValueText (text : String) : Except Error Value := decodeText Node.value text

end ApiSchema.Json
