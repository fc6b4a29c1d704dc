import ApiSchema.Json.Decode
import ApiSchema.Proofs.Text.OneLine

set_option autoImplicit false

namespace ApiSchema.Json

/-- A fault whose report is on one line. -/
def Fault.Plain (fault : Fault) : Prop := OneLine fault.reason.text

theorem oneLine_marked {text : String} : OneLine (marked text) ↔ OneLine text := by
  simp +decide [marked, backquote]

theorem breaksLine_layOut {digits : List Char} (plain : ∀ c ∈ digits, breaksLine c = false)
    (point : Int) : ∀ c ∈ layOut digits point, breaksLine c = false := by
  have zeros (count : Nat) : ∀ c ∈ List.replicate count '0', breaksLine c = false := by
    intro c member
    rw [List.eq_of_mem_replicate member]
    rfl
  have taken (count : Nat) : ∀ c ∈ digits.take count, breaksLine c = false :=
    fun c member => plain c (List.mem_of_mem_take member)
  have dropped (count : Nat) : ∀ c ∈ digits.drop count, breaksLine c = false :=
    fun c member => plain c (List.mem_of_mem_drop member)
  have power (value : Nat) : ∀ c ∈ (toString value).toList, breaksLine c = false :=
    oneLine_repr value
  unfold layOut
  split
  · rw [List.forall_mem_append, List.forall_mem_append]
    exact ⟨⟨by simp [breaksLine], zeros _⟩, plain⟩
  · split
    · dsimp only
      rw [List.forall_mem_append, List.forall_mem_append, List.forall_mem_cons]
      refine ⟨⟨taken _, zeros _⟩, rfl, ?_⟩
      split
      · simp [breaksLine]
      · exact dropped _
    · dsimp only
      rw [List.forall_mem_append, List.forall_mem_append, List.forall_mem_cons,
        List.forall_mem_cons]
      refine ⟨⟨taken _, ?_⟩, rfl, by split <;> rfl, power _⟩
      split
      · simp
      · exact List.forall_mem_cons.mpr ⟨rfl, dropped _⟩

theorem oneLine_realText (value : Float) : OneLine (realText value) := by
  unfold realText
  dsimp only
  rw [oneLine_ofList, List.forall_mem_append]
  constructor
  · split <;> simp [breaksLine]
  · split
    · simp [breaksLine]
    · exact breaksLine_layOut (oneLine_repr _) _

theorem oneLine_repr_int (value : Int) : OneLine value.repr := by
  cases value with
  | ofNat value => exact oneLine_repr value
  | negSucc value =>
      change OneLine ("-" ++ (value + 1).repr)
      simp +decide [oneLine_repr]

/-- What was found is told on one line. -/
theorem oneLine_found (found : Found) : OneLine found.text := by
  cases found with
  | null => decide
  | bool value => cases value <;> decide
  | number value =>
      cases value with
      | integer value => simp +decide [Found.text, oneLine_marked, oneLine_repr_int]
      | real value => simp +decide [Found.text, oneLine_marked, oneLine_realText]
  | string value => simp +decide [Found.text, Text.oneLine_quoted]
  | sequence => decide
  | map => decide

theorem plain_invalidType (found : Found) {wanted : String} (plain : OneLine wanted)
    (place : Place) : Fault.Plain ⟨.invalidType found wanted, place⟩ := by
  unfold Fault.Plain Reason.text
  rw [oneLine_append, oneLine_append, oneLine_append]
  exact ⟨⟨⟨by decide, oneLine_found found⟩, by decide⟩, plain⟩

theorem plain_invalidValue (found : Found) {wanted : String} (plain : OneLine wanted)
    (place : Place) : Fault.Plain ⟨.invalidValue found wanted, place⟩ := by
  unfold Fault.Plain Reason.text
  rw [oneLine_append, oneLine_append, oneLine_append]
  exact ⟨⟨⟨by decide, oneLine_found found⟩, by decide⟩, plain⟩

theorem plain_invalidLength (count : Nat) {wanted : String} (plain : OneLine wanted)
    (place : Place) : Fault.Plain ⟨.invalidLength count wanted, place⟩ := by
  unfold Fault.Plain Reason.text
  rw [oneLine_append, oneLine_append, oneLine_append]
  exact ⟨⟨⟨by decide, oneLine_repr count⟩, by decide⟩, plain⟩

theorem plain_missingField {key : String} (plain : OneLine key) (place : Place) :
    Fault.Plain ⟨.missingField key, place⟩ := by
  unfold Fault.Plain Reason.text
  rw [oneLine_append, oneLine_marked]
  exact ⟨by decide, plain⟩

theorem plain_duplicateField {key : String} (plain : OneLine key) (place : Place) :
    Fault.Plain ⟨.duplicateField key, place⟩ := by
  unfold Fault.Plain Reason.text
  rw [oneLine_append, oneLine_marked]
  exact ⟨by decide, plain⟩

theorem plain_tooDeepFault (start : Nat) : (tooDeepFault start).Plain := by
  change OneLine (Reason.text .recursionLimit)
  decide

/-- The words for a report are on one line, if those for its reason are. -/
theorem oneLine_error {error : Error} (plain : OneLine error.reason.text) : OneLine error.text := by
  unfold Error.text
  split
  · exact plain
  · simp +decide [plain, oneLine_repr]

mutual

def Node.Plain : Node → Prop
  | .array _ items => items.Plain
  | .object _ members => members.Plain
  | .broken fault => fault.Plain
  | .scalar _ _ | .tooDeep _ _ => True

def Items.Plain : Items → Prop
  | .item leftover value rest => leftover.Plain ∧ value.Plain ∧ rest.Plain
  | .closed _ => True
  | .broken fault leftover => fault.Plain ∧ leftover.Plain

def Members.Plain : Members → Prop
  | .member _ _ value rest => value.Plain ∧ rest.Plain
  | .closed _ => True
  | .broken fault => fault.Plain

end

theorem Node.Plain.mismatch {node : Node} (plain : node.Plain) {wanted : String}
    (word : OneLine wanted) : (node.mismatch wanted).Plain := by
  cases node with
  | scalar value stop => exact plain_invalidType _ word stop
  | array start items => exact plain_invalidType _ word start
  | object start members => exact plain_invalidType _ word start
  | tooDeep found start => exact plain_invalidType _ word _
  | broken fault => exact plain

mutual

/-- The faults of a value are reported on one line. -/
theorem plain_node (value : Value) : value.node.Plain := by
  cases value with
  | null => trivial
  | bool value => trivial
  | number value => trivial
  | string value => trivial
  | array items =>
      exact plain_itemNodes (plain_invalidLength items.length (by decide) none) items
  | object members => exact plain_memberNodes members

theorem plain_itemNodes {leftover : Fault} (plain : leftover.Plain) (items : List Value) :
    (itemNodes leftover items).Plain := by
  cases items with
  | nil => trivial
  | cons item rest => exact ⟨plain, plain_node item, plain_itemNodes plain rest⟩

theorem plain_memberNodes (members : List (String × Value)) : (memberNodes members).Plain := by
  cases members with
  | nil => trivial
  | cons member rest =>
      obtain ⟨key, value⟩ := member
      exact ⟨plain_node value, plain_memberNodes rest⟩

end

/-- A failure is reported on one line. -/
def FailsPlainly {α : Type} (result : Except Fault α) : Prop :=
  ∀ fault, result = .error fault → fault.Plain

section

variable {α β : Type}

theorem failsPlainly_ok (value : α) : FailsPlainly (.ok value) := by
  intro fault failed
  cases failed

theorem failsPlainly_error {fault : Fault} :
    FailsPlainly (.error fault : Except Fault α) ↔ fault.Plain := by
  constructor
  · exact fun plainly => plainly fault rfl
  · intro plain other failed
    cases failed
    exact plain

theorem FailsPlainly.map {result : Except Fault α} (plainly : FailsPlainly result)
    (change : α → β) : FailsPlainly (result.map change) := by
  cases result with
  | ok value => exact failsPlainly_ok _
  | error fault => exact failsPlainly_error.mpr (plainly fault rfl)

/-- Where the faults of a document are reported on one line, what a decoder objects to is. -/
def Decoder.Plain (read : Decoder α) : Prop := ∀ node : Node, node.Plain → FailsPlainly (read node)

end

end ApiSchema.Json
