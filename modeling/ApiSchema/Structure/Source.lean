import ApiSchema.Json.Value
import ApiSchema.OrderedMap
import ApiSchema.Settings
import ApiSchema.Text.Basic
import ApiSchema.Url.Address

set_option autoImplicit false

namespace ApiSchema

open ApiSchema.Json

/-- A computation that looks structures up. It can fail; the ids that it asked for, in order, are
known either way. -/
structure Lookup (α : Type) where
  requested : List String
  result : Except Failure α

namespace Lookup

variable {α β : Type}

def ofExcept (result : Except Failure α) : Lookup α := ⟨[], result⟩

def ok (value : α) : Lookup α := ofExcept (.ok value)

def fail (failure : Failure) : Lookup α := ofExcept (.error failure)

/-- The second computation, after the first succeeded. -/
def bind (first : Lookup α) (next : α → Lookup β) : Lookup β :=
  match first.result with
  | .error failure => ⟨first.requested, .error failure⟩
  | .ok value => ⟨first.requested ++ (next value).requested, (next value).result⟩

instance : Monad Lookup where
  pure := ok
  bind := bind

/-- The computation after one more id was asked for. -/
def asking (id : String) (rest : Lookup α) : Lookup α := ⟨id :: rest.requested, rest.result⟩

end Lookup

/-- Where structures are documented that a field names by an id alone. Any number of ids may be
answered, but with finitely many documents: no run that ends asks for more. -/
structure Source where
  supports : String → Bool
  /-- The documentation of a structure of a platform. -/
  fetch : String → String → Except Failure Value
  documents : List Value
  mem_documents : ∀ platform id payload, fetch platform id = .ok payload → payload ∈ documents

def capturedStructure (structures : List (String × Value)) (id : String) : Except Failure Value :=
  match structures.lookup id with
  | some payload => .ok payload
  | none => .error (.lookup id "not captured")

/-- The structures captured before, for every platform if `supported`, else for none. -/
def Source.memory (supported : Bool) (structures : List (String × Value)) : Source where
  supports _ := supported
  fetch _ id := capturedStructure structures id
  documents := structures.map Prod.snd
  mem_documents := by
    intro platform id payload success
    unfold capturedStructure at success
    split at success
    next found =>
      cases success
      exact List.mem_map_of_mem (mem_of_lookup found)
    next => cases success

/-- What requests to addresses are answered with, or the words for why there is no answer. -/
structure Client where
  get : Url.Address → Except String Value
  documents : List Value
  mem_documents : ∀ url payload, get url = .ok payload → payload ∈ documents

/-- For a time limit in seconds, a client that keeps to it, or the words for why there is none. -/
abbrev Network := Nat → Except String Client

/-- The client of a program without a network: a request fails as one that could not be sent. -/
def Client.offline : Client where
  get url :=
    let address := " for url (" ++ url.withoutUser.text ++ ")"
    .error (if url.isWeb then "error sending request" ++ address else "builder error" ++ address)
  documents := []
  mem_documents := by
    intro url payload success
    cases success

def idPlace : String := "\x7bid\x7d"

/-- The address at which a structure of a platform is documented. -/
def Settings.structureUrl (settings : Settings) (platform id : String) :
    Except Failure Url.Address :=
  match settings.endpoint? platform with
  | none => .error (.lookup id ("no structure endpoint configured for " ++ platform))
  | some template =>
      (Url.read (Text.replace template idPlace id)).mapError fun error =>
        .lookup id ("invalid endpoint " ++ template ++ ": " ++ error.text)

/-- The structures that a client finds at the addresses of the settings. -/
def Source.endpoints (client : Client) (settings : Settings) : Source where
  supports platform := (settings.endpoint? platform).isSome
  fetch platform id :=
    match settings.structureUrl platform id with
    | .error failure => .error failure
    | .ok url => (client.get url).mapError (.lookup id)
  documents := client.documents
  mem_documents := by
    intro platform id payload success
    split at success
    next => cases success
    next url _ =>
      cases answered : client.get url with
      | error reason =>
          rw [answered] at success
          cases success
      | ok document =>
          rw [answered] at success
          cases success
          exact client.mem_documents url payload answered

end ApiSchema
