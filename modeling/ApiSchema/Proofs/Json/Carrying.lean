import ApiSchema.Json.Decode
import ApiSchema.OrderedMap
import Mathlib

/-!
Decoding what was encoded. A node carries a value if it is the value with places of any kind; a
decoder that reads a value does so from every node that carries it. A record is read from the
members that write its attributes in order, where those that may be missing may be left out.
-/

set_option autoImplicit false

namespace ApiSchema.Json

mutual

inductive Carries : Node → Value → Prop
  | null (stop : Place) : Carries (.scalar .null stop) .null
  | bool (value : Bool) (stop : Place) : Carries (.scalar (.bool value) stop) (.bool value)
  | number (value : Number) (stop : Place) : Carries (.scalar (.number value) stop) (.number value)
  | string (value : String) (stop : Place) : Carries (.scalar (.string value) stop) (.string value)
  | array {entries : Items} {items : List Value} (start : Place)
      (inner : CarriesItems entries items) : Carries (.array start entries) (.array items)
  | object {entries : Members} {members : List (String × Value)} (start : Place)
      (inner : CarriesMembers entries members) : Carries (.object start entries) (.object members)

inductive CarriesItems : Items → List Value → Prop
  | closed (stop : Place) : CarriesItems (.closed stop) []
  | item {node : Node} {value : Value} {entries : Items} {items : List Value} (leftover : Fault)
      (first : Carries node value) (rest : CarriesItems entries items) :
      CarriesItems (.item leftover node entries) (value :: items)

inductive CarriesMembers : Members → List (String × Value) → Prop
  | closed (stop : Place) : CarriesMembers (.closed stop) []
  | member {node : Node} {value : Value} {entries : Members} {members : List (String × Value)}
      (key : String) (keyStop : Place) (first : Carries node value)
      (rest : CarriesMembers entries members) :
      CarriesMembers (.member key keyStop node entries) ((key, value) :: members)

end

variable {α ρ : Type}

/-- The decoder gives the result for the value, whatever the places. -/
def Decoder.Reads (read : Decoder α) (value : Value) (result : α) : Prop :=
  ∀ node, Carries node value → read node = .ok result

namespace Decode

theorem reads_text (value : String) : Decoder.Reads text (.string value) value := by
  rintro node ⟨⟩
  rfl

theorem reads_flag (value : Bool) : Decoder.Reads flag (.bool value) value := by
  rintro node ⟨⟩
  rfl

theorem reads_unsigned (value : Nat) : Decoder.Reads unsigned (.ofNat value) value := by
  rintro node ⟨⟩
  simp [unsigned]

theorem reads_optional {read : Decoder α} {value : Value} {result : α}
    (some : value ≠ .null) (reads : Decoder.Reads read value result) :
    Decoder.Reads (optional read) value (.some result) := by
  intro node carries
  have read := reads node carries
  cases carries with
  | null stop => exact absurd rfl some
  | bool | number | string | array | object =>
      simp only [optional, read]
      rfl

theorem reads_list {read : Decoder α} {encode : α → Value} {values : List α}
    (reads : ∀ value ∈ values, Decoder.Reads read (encode value) value) :
    Decoder.Reads (list read) (.array (values.map encode)) values := by
  have all (entries : Items) (carries : CarriesItems entries (values.map encode)) :
      items read entries = .ok values := by
    induction values generalizing entries with
    | nil =>
        cases carries
        rfl
    | cons value rest ih =>
        rw [List.forall_mem_cons] at reads
        cases carries with
        | item leftover first later =>
            rw [items, reads.1 _ first, ih reads.2 _ later]
            rfl
  rintro node ⟨⟩
  exact all _ ‹_›

theorem reads_choice {choices : List (String × α)} {name : String} {value : α}
    (named : choices.lookup name = some value) :
    Decoder.Reads (choice choices) (.string name) value := by
  rintro node ⟨⟩
  simp only [choice, named]

end Decode

/-- The keys that were seen are of attributes that were read, and those of required ones are among
them. -/
structure SeenOf (done : List (Attribute ρ)) (seen : List String) : Prop where
  read : ∀ key ∈ seen, key ∈ done.map Attribute.key
  met : ∀ entry ∈ done, entry.presence = .required → entry.key ∈ seen

namespace SeenOf

variable {done : List (Attribute ρ)} {seen : List String} {entry : Attribute ρ}

theorem present (isSeen : SeenOf done seen) : SeenOf (done ++ [entry]) (entry.key :: seen) where
  read := by
    rw [List.forall_mem_cons, List.map_append]
    exact ⟨by simp, fun key old => List.mem_append_left _ (isSeen.read key old)⟩
  met := by
    rw [List.forall_mem_append, List.forall_mem_singleton]
    exact ⟨fun other member needed => List.mem_cons_of_mem _ (isSeen.met other member needed),
      fun _ => List.mem_cons_self⟩

theorem absent (isSeen : SeenOf done seen) (spared : entry.presence ≠ .required) :
    SeenOf (done ++ [entry]) seen where
  read := by
    rw [List.map_append]
    exact fun key old => List.mem_append_left _ (isSeen.read key old)
  met := by
    rw [List.forall_mem_append, List.forall_mem_singleton]
    exact ⟨isSeen.met, fun needed => absurd needed spared⟩

/-- An attribute whose turn it is was not seen. -/
theorem not_contains (isSeen : SeenOf done seen) {rest : List (Attribute ρ)}
    (distinct : ((done ++ entry :: rest).map Attribute.key).Nodup) :
    seen.contains entry.key = false := by
  rw [List.map_append, List.map_cons] at distinct
  have new : entry.key ∉ done.map Attribute.key := fun earlier =>
    (List.nodup_append.mp distinct).2.2 _ earlier _ List.mem_cons_self rfl
  simpa using fun old => new (isSeen.read entry.key old)

end SeenOf

/-- The members write the attributes in order, from one record to the next. An attribute that need
not be present may be left out. -/
inductive Writes : List (Attribute ρ) → List (String × Value) → ρ → ρ → Prop
  | nil (record : ρ) : Writes [] [] record record
  | present {entry : Attribute ρ} {value : Value} {rest : List (Attribute ρ)}
      {later : List (String × Value)} {before middle after : ρ}
      (reads : Decoder.Reads (fun node => entry.read node before) value middle)
      (more : Writes rest later middle after) :
      Writes (entry :: rest) ((entry.key, value) :: later) before after
  | absent {entry : Attribute ρ} {rest : List (Attribute ρ)} {later : List (String × Value)}
      {before after : ρ} (spared : entry.presence ≠ .required)
      (more : Writes rest later before after) : Writes (entry :: rest) later before after

namespace Writes

variable {rest : List (Attribute ρ)} {later : List (String × Value)} {before after : ρ}
  {key : String} {read : Decoder α}

theorem of {presence : Presence} {store : ρ → α → ρ} {value : Value} {result : α}
    (reads : Decoder.Reads read value result)
    (more : Writes rest later (store before result) after) :
    Writes (Attribute.of key presence read store :: rest) ((key, value) :: later) before after := by
  have entered : Decoder.Reads (fun node => (Attribute.of key presence read store).read node before)
      value (store before result) := by
    intro node carries
    change (read node).map (store before) = _
    rw [reads node carries]
    rfl
  exact .present entered more

theorem required {store : ρ → α → ρ} {value : Value} {result : α}
    (reads : Decoder.Reads read value result)
    (more : Writes rest later (store before result) after) :
    Writes (Attribute.required key read store :: rest) ((key, value) :: later) before after :=
  of reads more

theorem defaulted {store : ρ → α → ρ} {value : Value} {result : α}
    (reads : Decoder.Reads read value result)
    (more : Writes rest later (store before result) after) :
    Writes (Attribute.defaulted key read store :: rest) ((key, value) :: later) before after :=
  of reads more

/-- A member that is left out when there is nothing to write. -/
theorem optional {store : ρ → Option α → ρ} {encode : α → Value} (result : Option α)
    (reads : ∀ value, Decoder.Reads read (encode value) value)
    (some : ∀ value, encode value ≠ .null) (blank : store before none = before)
    (more : Writes rest later (store before result) after) :
    Writes (Attribute.optional key read store :: rest)
      (((result.map encode).map fun present => (key, present)).toList ++ later) before after := by
  cases result with
  | none =>
      have spared : (Attribute.optional key read store).presence ≠ .required := nofun
      rw [blank] at more
      exact .absent spared more
  | some value => exact of (Decode.reads_optional (some value) (reads value)) more

/-- What the members write is what is read from them, behind attributes that were read. -/
theorem fill {attributes done : List (Attribute ρ)} {members : List (String × Value)}
    (writes : Writes rest members before after) (split : attributes = done ++ rest)
    (distinct : (attributes.map Attribute.key).Nodup) {seen : List String}
    (isSeen : SeenOf done seen) {entries : Members} (carries : CarriesMembers entries members) :
    Record.fill attributes seen before entries = .ok after := by
  induction writes generalizing done seen entries with
  | nil record =>
      cases carries
      have complete : attributes.find? (fun entry =>
          entry.presence == .required && !seen.contains entry.key) = none := by
        rw [List.append_nil] at split
        rw [List.find?_eq_none, split]
        intro entry member
        simpa [or_iff_not_imp_left] using isSeen.met entry member
      simp only [Record.fill, complete]
  | @present entry value rest later before middle after reads more ih =>
      have whole : attributes = (done ++ [entry]) ++ rest := by
        rw [split, List.append_assoc, List.singleton_append]
      have found := find?_of_nodup distinct (show entry ∈ attributes by simp [split])
      have unseen := isSeen.not_contains (split ▸ distinct)
      cases carries with
      | member _ keyStop first others =>
          simp only [Record.fill, found, unseen, reads _ first]
          exact ih whole isSeen.present others
  | @absent entry rest later before after spared more ih =>
      have whole : attributes = (done ++ [entry]) ++ rest := by
        rw [split, List.append_assoc, List.singleton_append]
      exact ih whole (isSeen.absent spared) carries

end Writes

/-- A record is read from the members that write it. -/
theorem Record.reads_decode {record : Record ρ} {members : List (String × Value)} {result : ρ}
    (distinct : (record.attributes.map Attribute.key).Nodup)
    (writes : Writes record.attributes members record.blank result) :
    Decoder.Reads record.decode (.object members) result := by
  rintro node ⟨⟩
  have split : record.attributes = [] ++ record.attributes := rfl
  exact writes.fill split distinct ⟨by simp, by simp⟩ ‹_›

end ApiSchema.Json
