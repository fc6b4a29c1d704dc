import ApiSchema.Digest.Sha256
import ApiSchema.Method.Basic
import ApiSchema.Naming

/-!
Nested models under short names. Models with one local name and the same fields become one; the
others with that name are told apart by a number.
-/

set_option autoImplicit false

namespace ApiSchema

open ApiSchema.Naming

/-- The names given so far. -/
structure Naming.Ledger where
  /-- New names by old ones, the latest first. -/
  renames : List (String × String)
  /-- New names by local name and fingerprint. -/
  survivors : List ((String × String) × String)
  /-- Names that are in use. -/
  taken : List String

def Field.fingerprintText (field : Field) : String :=
  "\n" ++ field.name ++ "|" ++ field.type ++ "|" ++ field.element.getD "" ++ "|" ++
    (if field.required then "1" else "0")

/-- The text that tells models apart. -/
def fingerprintText (localPart : String) (fields : List Field) : String :=
  localPart ++ String.join (fields.map Field.fingerprintText)

def fingerprint (localPart : String) (fields : List Field) : String :=
  Digest.sha256Hex (fingerprintText localPart fields)

/-- The local name itself, then the local name with the numbers from one. -/
def candidate (localPart : String) (number : Nat) : String :=
  if number == 0 then localPart else localPart ++ toString number

/-- The first number from a given one on whose candidate is not taken; one of the next
`taken.length + 1` is free. -/
def freeNumber (taken : List String) (localPart : String) (first : Nat) : Nat :=
  ((List.range' first (taken.length + 1)).find? fun number =>
    !taken.contains (candidate localPart number)).getD (first + taken.length)

namespace Naming.Ledger

def rename (ledger : Ledger) (type : String) : String := (ledger.renames.lookup type).getD type

/-- The field with the names that its types have now. -/
def renameField (ledger : Ledger) (field : Field) : Field :=
  { field with type := ledger.rename field.type, element := field.element.map ledger.rename }

end Naming.Ledger

/-- The names given so far, and the numbers from which the search for further names goes on. -/
structure Naming.Numbering extends Naming.Ledger where
  /-- The number after the last one that was given, by local name, the latest first. -/
  numbers : List (String × Nat)

namespace Naming.Numbering

def start (taken : List String) : Numbering :=
  { renames := [], survivors := [], taken, numbers := [] }

def firstNumber (numbering : Numbering) (localPart : String) : Nat :=
  (numbering.numbers.lookup localPart).getD 0

/-- The number that is found for a local name. -/
def nextNumber (numbering : Numbering) (localPart : String) : Nat :=
  freeNumber numbering.taken localPart (numbering.firstNumber localPart)

/-- The numbering after a model, and the model if it is kept. -/
def enter (numbering : Numbering) (model : Model) : Numbering × Option Model :=
  let fields := model.fields.map numbering.renameField
  if model.kind != .child then (numbering, some { model with fields })
  else
    let localPart := localName model.name
    let key := (localPart, fingerprint localPart fields)
    match numbering.survivors.lookup key with
    | some survivor =>
        ({ numbering with renames := (model.name, survivor) :: numbering.renames }, none)
    | none =>
        let number := numbering.nextNumber localPart
        let name := candidate localPart number
        ({ renames := (model.name, name) :: numbering.renames
           survivors := (key, name) :: numbering.survivors
           taken := name :: numbering.taken
           numbers := (localPart, number + 1) :: numbering.numbers },
          some ⟨name, model.kind, fields⟩)

/-- The numbering after a list of models, and the models that are kept. -/
def enterAll (numbering : Numbering) : List Model → Numbering × List Model
  | [] => (numbering, [])
  | model :: rest =>
      let (entered, kept) := numbering.enter model
      let (final, models) := enterAll entered rest
      (final, kept.toList ++ models)

end Naming.Numbering

/-- The method with its nested models unified and named by their local names. Other models keep
their names. -/
def Method.unify (method : Method) : Method :=
  let outer := (method.models.filter fun model => model.kind != .child).map Model.name
  let (numbering, params) := (Naming.Numbering.start outer).enterAll method.params
  let (_, responses) := numbering.enterAll method.responses
  { method with params, responses }

end ApiSchema
