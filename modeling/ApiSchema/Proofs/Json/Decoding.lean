import ApiSchema.Proofs.Json.Faults
import ApiSchema.Tree

set_option autoImplicit false

namespace ApiSchema.Json

variable {α ρ : Type}

namespace Decode

theorem plain_text : Decoder.Plain text := by
  intro node plain
  unfold text
  split
  · exact failsPlainly_ok _
  · exact failsPlainly_error.mpr (plain.mismatch (by decide))

theorem plain_flag : Decoder.Plain flag := by
  intro node plain
  unfold flag
  split
  · exact failsPlainly_ok _
  · exact failsPlainly_error.mpr (plain.mismatch (by decide))

theorem plain_signed : Decoder.Plain signed := by
  intro node plain
  unfold signed
  split
  · split
    · exact failsPlainly_ok _
    · exact failsPlainly_error.mpr (plain_invalidValue _ (by decide) _)
  · exact failsPlainly_error.mpr (plain.mismatch (by decide))

theorem plain_unsigned : Decoder.Plain unsigned := by
  intro node plain
  unfold unsigned
  split
  · split
    · exact failsPlainly_ok _
    · exact failsPlainly_error.mpr (plain_invalidValue _ (by decide) _)
  · exact failsPlainly_error.mpr (plain.mismatch (by decide))

end Decode

mutual

theorem plain_value (node : Node) (plain : node.Plain) : FailsPlainly node.value := by
  cases node with
  | scalar value stop => exact failsPlainly_ok _
  | array start items => exact (plain_values items plain).map _
  | object start members => exact (plain_memberValues members plain).map _
  | tooDeep found start => exact failsPlainly_error.mpr (plain_tooDeepFault start)
  | broken fault => exact failsPlainly_error.mpr plain

theorem plain_values (items : Items) (plain : items.Plain) : FailsPlainly items.values := by
  cases items with
  | item leftover value rest =>
      have first := plain_value value plain.2.1
      have later := plain_values rest plain.2.2
      rw [Items.values]
      split
      · rename_i fault failed
        exact failsPlainly_error.mpr (first fault failed)
      · exact later.map _
  | closed stop => exact failsPlainly_ok _
  | broken fault leftover => exact failsPlainly_error.mpr plain.1

theorem plain_memberValues (members : Members) (plain : members.Plain) :
    FailsPlainly members.values := by
  cases members with
  | member key keyStop value rest =>
      have first := plain_value value plain.1
      have later := plain_memberValues rest plain.2
      rw [Members.values]
      split
      · rename_i fault failed
        exact failsPlainly_error.mpr (first fault failed)
      · exact later.map _
  | closed stop => exact failsPlainly_ok _
  | broken fault => exact failsPlainly_error.mpr plain

end

namespace Decode

theorem plain_looseText : Decoder.Plain looseText := by
  intro node plain
  unfold looseText
  split
  · rename_i fault failed
    exact failsPlainly_error.mpr (plain_value node plain fault failed)
  · exact failsPlainly_ok _
  · exact failsPlainly_ok _
  · exact failsPlainly_ok _

theorem plain_optional {read : Decoder α} (inner : Decoder.Plain read) :
    Decoder.Plain (optional read) := by
  intro node plain
  unfold optional
  split
  · exact failsPlainly_ok _
  · exact (inner node plain).map _

theorem plain_nullAs (fallback : α) {read : Decoder α} (inner : Decoder.Plain read) :
    Decoder.Plain (nullAs fallback read) := by
  intro node plain
  unfold nullAs
  split
  · exact failsPlainly_ok _
  · exact inner node plain

theorem plain_items {read : Decoder α} (inner : Decoder.Plain read) (entries : Items)
    (plain : entries.Plain) : FailsPlainly (items read entries) := by
  match entries with
  | .item leftover value rest =>
      have later := plain_items inner rest plain.2.2
      rw [items]
      split
      · rename_i fault failed
        exact failsPlainly_error.mpr (inner value plain.2.1 fault failed)
      · exact later.map _
  | .closed stop => exact failsPlainly_ok _
  | .broken fault leftover => exact failsPlainly_error.mpr plain.1

theorem plain_list {read : Decoder α} (inner : Decoder.Plain read) :
    Decoder.Plain (list read) := by
  intro node plain
  unfold list
  split
  · exact plain_items inner _ plain
  · exact failsPlainly_error.mpr (plain_tooDeepFault _)
  · exact failsPlainly_error.mpr (plain.mismatch (by decide))

theorem plain_members {read : Decoder α} (inner : Decoder.Plain read) (entries : Members)
    (plain : entries.Plain) : FailsPlainly (members read entries) := by
  match entries with
  | .member key keyStop value rest =>
      have later := plain_members inner rest plain.2
      rw [members]
      split
      · rename_i fault failed
        exact failsPlainly_error.mpr (inner value plain.1 fault failed)
      · exact later.map _
  | .closed stop => exact failsPlainly_ok _
  | .broken fault => exact failsPlainly_error.mpr plain

theorem plain_table {read : Decoder α} (inner : Decoder.Plain read) :
    Decoder.Plain (table read) := by
  intro node plain
  unfold table
  split
  · exact plain_members inner _ plain
  · exact failsPlainly_error.mpr (plain_tooDeepFault _)
  · exact failsPlainly_error.mpr (plain.mismatch (by decide))

end Decode

/-- An attribute whose key, and whatever is reported of its value, is on one line. -/
structure Attribute.Plain (entry : Attribute ρ) : Prop where
  key : OneLine entry.key
  read : ∀ node : Node, node.Plain → ∀ record, FailsPlainly (entry.read node record)

namespace Attribute.Plain

variable {key : String} {read : Decoder α}

theorem of {presence : Presence} {store : ρ → α → ρ} (word : OneLine key)
    (inner : Decoder.Plain read) : (Attribute.of key presence read store).Plain where
  key := word
  read node plain _ := (inner node plain).map _

theorem required {store : ρ → α → ρ} (word : OneLine key) (inner : Decoder.Plain read) :
    (Attribute.required key read store).Plain := of word inner

theorem optional {store : ρ → Option α → ρ} (word : OneLine key) (inner : Decoder.Plain read) :
    (Attribute.optional key read store).Plain := of word (Decode.plain_optional inner)

theorem defaulted {store : ρ → α → ρ} (word : OneLine key) (inner : Decoder.Plain read) :
    (Attribute.defaulted key read store).Plain := of word inner

theorem ofLabel {entry : Attribute α} (plain : entry.Plain) : entry.ofLabel.Plain where
  key := plain.key
  read node isPlain tree := (plain.read node isPlain tree.label).map _

end Attribute.Plain

structure Record.Plain (record : Record ρ) : Prop where
  title : OneLine record.title
  attributes : ∀ entry ∈ record.attributes, entry.Plain

namespace Record

theorem plain_fill {attributes : List (Attribute ρ)}
    (inner : ∀ entry ∈ attributes, entry.Plain) (seen : List String) (record : ρ)
    (entries : Members) (plain : entries.Plain) :
    FailsPlainly (fill attributes seen record entries) := by
  match entries with
  | .member key keyStop value rest =>
      rw [fill]
      split
      · exact plain_fill inner seen record rest plain.2
      · rename_i entry found
        have isPlain := inner entry (List.mem_of_find?_eq_some found)
        have named : key = entry.key := (eq_of_beq (List.find?_eq_some_iff_append.mp found).1).symm
        split
        · rw [named]
          exact failsPlainly_error.mpr (plain_duplicateField isPlain.key keyStop)
        · split
          · rename_i fault failed
            exact failsPlainly_error.mpr (isPlain.read value plain.1 record fault failed)
          · exact plain_fill inner (key :: seen) _ rest plain.2
  | .closed stop =>
      rw [fill]
      split
      · rename_i entry found
        have isPlain := inner entry (List.mem_of_find?_eq_some found)
        exact failsPlainly_error.mpr (plain_missingField isPlain.key stop)
      · exact failsPlainly_ok _
  | .broken fault =>
      rw [fill]
      exact failsPlainly_error.mpr plain

theorem oneLine_wantedLength {title : String} (word : OneLine title) (count : Nat) :
    OneLine (wantedLength title count) := by
  unfold wantedLength
  split <;> simp +decide [word, oneLine_repr]

theorem plain_fillInOrder {wanted : String} (words : OneLine wanted) (count : Nat) (record : ρ)
    (attributes : List (Attribute ρ)) (inner : ∀ entry ∈ attributes, entry.Plain)
    (entries : Items) (plain : entries.Plain) :
    FailsPlainly (fillInOrder wanted count record attributes entries) := by
  match attributes, entries with
  | entry :: later, .item leftover value rest =>
      rw [List.forall_mem_cons] at inner
      rw [fillInOrder]
      split
      · rename_i fault failed
        exact failsPlainly_error.mpr (inner.1.read value plain.2.1 record fault failed)
      · exact plain_fillInOrder words _ _ later inner.2 rest plain.2.2
  | entry :: later, .closed stop =>
      rw [List.forall_mem_cons] at inner
      rw [fillInOrder]
      split
      · exact plain_fillInOrder words _ _ later inner.2 (.closed stop) plain
      · exact failsPlainly_error.mpr (plain_invalidLength count words stop)
  | entry :: later, .broken fault leftover => exact failsPlainly_error.mpr plain.1
  | [], .closed stop => exact failsPlainly_ok _
  | [], .item leftover value rest => exact failsPlainly_error.mpr plain.1
  | [], .broken fault leftover => exact failsPlainly_error.mpr plain.2

/-- What is reported of a record is on one line. -/
theorem Plain.decode {record : Record ρ} (inner : record.Plain) : Decoder.Plain record.decode := by
  intro node plain
  unfold Record.decode
  split
  · exact plain_fill inner.attributes [] _ _ plain
  · exact plain_fillInOrder (oneLine_wantedLength inner.title _) 0 _ _ inner.attributes _ plain
  · exact failsPlainly_error.mpr (plain_tooDeepFault _)
  · refine failsPlainly_error.mpr (plain.mismatch ?_)
    rw [oneLine_append]
    exact ⟨by decide, inner.title⟩

end Record

/-- What is reported of a text is on one line. -/
theorem oneLine_decodeText {read : Decoder α} (inner : Decoder.Plain read) {text : String}
    {error : Error} (failed : decodeText read text = .error error) : OneLine error.text := by
  have document := plain_readDocument text
  apply oneLine_error
  unfold decodeText at failed
  dsimp only at failed
  split at failed
  · rename_i fault refused
    cases failed
    exact inner _ document.root fault refused
  · split at failed
    · rename_i fault trailing
      cases failed
      exact document.trailing fault trailing
    · cases failed

/-- What is reported of a value is on one line. -/
theorem oneLine_decodeValue {read : Decoder α} (inner : Decoder.Plain read) {value : Value}
    {error : Error} (failed : decodeValue read value = .error error) : OneLine error.text := by
  apply oneLine_error
  unfold decodeValue at failed
  split at failed
  · rename_i fault refused
    cases failed
    exact inner _ (plain_node value) fault refused
  · cases failed

end ApiSchema.Json

namespace ApiSchema

open ApiSchema.Json

/-- What is reported of a tree is on one line, if its attributes are, given how children are read. -/
theorem TreeRecord.plain_decode {α : Type} {record : TreeRecord α} (title : OneLine record.title)
    (attributes : ∀ self : Decoder (Tree α), Decoder.Plain self →
      ∀ entry ∈ record.attributes self, entry.Plain) : Decoder.Plain record.decode := by
  have within (levels : Nat) : Decoder.Plain (record.decodeWithin levels) := by
    induction levels with
    | zero => exact Record.Plain.decode ⟨title, by simp⟩
    | succ levels ih => exact Record.Plain.decode ⟨title, attributes _ ih⟩
  exact fun node plain => within node.height node plain

end ApiSchema
