import ApiSchema.Proofs.Platform.Builtin

/-!
Envelopes that tell of failure. A status that is missing or of the kind of its platform is told from
success before anything else of the envelope is looked at, but the documentation must be a value; a
status of another kind is a failure to read the envelope.
-/

set_option autoImplicit false

namespace ApiSchema

namespace Json

/-- The keys and nodes of the members, if the object is closed behind them. -/
def Members.entries? : Members → Option (List (String × Node))
  | .member key _ value rest => rest.entries?.map ((key, value) :: ·)
  | .closed _ => some []
  | .broken _ => none

theorem Members.of_entries?_nil {members : Members} (listed : members.entries? = some []) :
    ∃ stop, members = .closed stop := by
  cases members with
  | member key keyStop node rest => simp [entries?] at listed
  | closed stop => exact ⟨stop, rfl⟩
  | broken fault => cases listed

theorem Members.of_entries?_cons {members : Members} {key : String} {node : Node}
    {later : List (String × Node)} (listed : members.entries? = some ((key, node) :: later)) :
    ∃ keyStop rest, members = .member key keyStop node rest ∧ rest.entries? = some later := by
  cases members with
  | member first keyStop value rest =>
      obtain ⟨others, listedLater, same⟩ := Option.map_eq_some_iff.mp listed
      cases same
      exact ⟨keyStop, rest, rfl, listedLater⟩
  | closed stop => cases listed
  | broken fault => cases listed

/-- The members of the object that a text writes, if it writes one. -/
def objectEntries? (text : String) : Option (List (String × Node)) :=
  match readDocument text with
  | ⟨.object _ members, none⟩ => members.entries?
  | _ => none

def Decoder.readOr {α : Type} (read : Decoder α) (fallback : α) : Option Node → Except Fault α
  | some node => read node
  | none => .ok fallback

theorem Decoder.readOr_some {α : Type} (read : Decoder α) (fallback : α) (node : Node) :
    read.readOr fallback (some node) = read node := rfl

end Json

open ApiSchema.Json

namespace Envelope

variable {σ : Type}

def layout (key dataKey : String) (presence : Presence) (read : Decoder σ) (blank : σ) :
    Record (Envelope σ) :=
  record (.of key presence read fun envelope status => { envelope with status }) dataKey blank

variable {key dataKey : String} {presence : Presence} {read : Decoder σ} {blank : σ}

theorem find?_status :
    (layout key dataKey presence read blank).attributes.find? (fun entry => entry.key == key) =
      some (.of key presence read fun envelope status => { envelope with status }) := by
  simp [layout, record, Attribute.of]

theorem find?_data (separate : key ≠ dataKey) :
    (layout key dataKey presence read blank).attributes.find? (fun entry => entry.key == dataKey) =
      some (.defaulted dataKey Node.value fun envelope data => { envelope with data }) := by
  simp [layout, record, Attribute.of, Attribute.defaulted, separate]

theorem find?_other {other : String} (noStatus : key ≠ other) (noData : dataKey ≠ other) :
    (layout key dataKey presence read blank).attributes.find? (fun entry => entry.key == other) =
      none := by
  simp [layout, record, Attribute.of, Attribute.defaulted, noStatus, noData]

/-- No part of the envelope must be present. -/
theorem find?_missing (spared : presence ≠ .required) (seen : List String) :
    (layout key dataKey presence read blank).attributes.find? (fun entry =>
      entry.presence == .required && !seen.contains entry.key) = none := by
  simp [layout, record, Attribute.of, Attribute.defaulted, spared]

/-- Members enter the envelope in any order, and other members are passed over. -/
theorem toOption_fill (separate : key ≠ dataKey) (spared : presence ≠ .required) (blank : σ)
    (envelope : Envelope σ) {entries : List (String × Node)} {members : Json.Members}
    {seen : List String} (listed : members.entries? = some entries)
    (distinct : (entries.map Prod.fst).Nodup)
    (fresh : ∀ other ∈ entries.map Prod.fst, other ∉ seen) :
    (Record.fill (layout key dataKey presence read blank).attributes seen envelope
        members).toOption =
      (read.readOr envelope.status (entries.lookup key)).toOption.bind fun status =>
        (Decoder.readOr Node.value envelope.data (entries.lookup dataKey)).toOption.map fun data =>
          ⟨status, data⟩ := by
  induction entries generalizing members seen envelope with
  | nil =>
      obtain ⟨stop, rfl⟩ := Members.of_entries?_nil listed
      rw [Record.fill, find?_missing spared]
      rfl
  | cons entry later ih =>
      obtain ⟨other, node⟩ := entry
      obtain ⟨keyStop, rest, rfl, listedLater⟩ := Members.of_entries?_cons listed
      rw [List.map_cons, List.nodup_cons] at distinct
      rw [List.map_cons, List.forall_mem_cons] at fresh
      obtain ⟨single, distinctLater⟩ := distinct
      obtain ⟨unseen, freshLater⟩ := fresh
      have freshBehind : ∀ key ∈ later.map Prod.fst, key ∉ other :: seen := by
        intro key member again
        rcases List.mem_cons.mp again with rfl | old
        · exact single member
        · exact freshLater key member old
      have absent : later.lookup other = none := by
        rw [List.lookup_eq_none_iff]
        intro entry member
        apply bne_iff_ne.mpr
        intro same
        exact single (List.mem_map.mpr ⟨entry, member, same.symm⟩)
      have unseen : seen.contains other = false := by simpa using unseen
      rw [Record.fill, List.lookup_cons, List.lookup_cons]
      by_cases isStatus : key = other
      · subst isStatus
        have noData : (dataKey == key) = false := beq_false_of_ne (Ne.symm separate)
        simp only [find?_status, unseen, beq_self_eq_true, noData, Bool.false_eq_true, ↓reduceIte,
          Decoder.readOr_some, Attribute.of]
        cases read node with
        | error fault => rfl
        | ok status =>
            simp only [Except.map]
            rw [ih _ listedLater distinctLater freshBehind, absent]
            rfl
      · by_cases isData : dataKey = other
        · subst isData
          have noStatus : (key == dataKey) = false := beq_false_of_ne separate
          simp only [find?_data separate, unseen, beq_self_eq_true, noStatus, Bool.false_eq_true,
            ↓reduceIte, Decoder.readOr_some, Attribute.defaulted, Attribute.of]
          cases node.value with
          | error fault =>
              cases (read.readOr envelope.status (later.lookup key)).toOption <;> rfl
          | ok data =>
              simp only [Except.map]
              rw [ih _ listedLater distinctLater freshBehind, absent]
              rfl
        · rw [find?_other isStatus isData, beq_false_of_ne isStatus, beq_false_of_ne isData]
          exact ih _ listedLater distinctLater freshLater

/-- What is read of a text that writes an object with distinct keys. -/
theorem toOption_decodeText (separate : key ≠ dataKey) (spared : presence ≠ .required)
    (read : Decoder σ) (blank : σ) {text : String} {entries : List (String × Node)}
    (isObject : objectEntries? text = some entries)
    (distinct : (entries.map Prod.fst).Nodup) :
    (decodeText (layout key dataKey presence read blank).decode text).toOption =
      (read.readOr blank (entries.lookup key)).toOption.bind fun status =>
        (Decoder.readOr Node.value .null (entries.lookup dataKey)).toOption.map fun data =>
          ⟨status, data⟩ := by
  unfold objectEntries? at isObject
  split at isObject
  · rename_i start members document
    have isBlank : (layout key dataKey presence read blank).blank = ⟨blank, .null⟩ := rfl
    rw [← toOption_fill separate spared blank ⟨blank, .null⟩ isObject distinct
      fun _ _ => List.not_mem_nil, decodeText, document]
    simp only [Record.decode, isBlank]
    cases Record.fill (layout key dataKey presence read blank).attributes [] ⟨blank, .null⟩
        members <;> rfl
  · cases isObject

end Envelope

/-- What a status may be, and when it tells of success: an integer of sixty-four bits or a text that
is a given one, or a truth value. -/
inductive StatusKind where
  | integer (success : Int)
  | text (success : String)
  | flag

/-- Whether a status tells of success, if it is of its kind. A missing one does not; for a missing
integer or text `null` may stand. -/
def StatusKind.succeeds? : StatusKind → Option Node → Option Bool
  | _, none => some false
  | .integer success, some (.scalar (.number (.integer value)) _) =>
      if Int64.minValue.toInt ≤ value ∧ value ≤ Int64.maxValue.toInt then some (value == success)
      else none
  | .text success, some (.scalar (.string value) _) => some (value == success)
  | .flag, some (.scalar (.bool value) _) => some value
  | .integer _, some (.scalar .null _) | .text _, some (.scalar .null _) => some false
  | _, some _ => none

/-- What the kinds of status say is what is read of them. -/
theorem StatusKind.succeeds?_integer (success : Int) (status : Option Node) :
    (Decoder.readOr (Decode.optional Decode.signed) none status).toOption.map
        (fun found => found == some success) =
      (StatusKind.integer success).succeeds? status := by
  cases status with
  | none => rfl
  | some node =>
      cases node with
      | scalar value stop =>
          cases value with
          | number value =>
              cases value with
              | integer value =>
                  simp only [Decoder.readOr_some, Decode.optional, Decode.signed, succeeds?,
                    Bool.and_eq_true, decide_eq_true_eq]
                  split
                  · simp [Except.map, Except.toOption]
                  · rfl
              | real value => rfl
          | null | bool | string => rfl
      | array | object | tooDeep | broken => rfl

theorem StatusKind.succeeds?_text (success : String) (status : Option Node) :
    (Decoder.readOr (Decode.optional Decode.text) none status).toOption.map
        (fun found => found == some success) =
      (StatusKind.text success).succeeds? status := by
  cases status with
  | none => rfl
  | some node =>
      cases node with
      | scalar value stop =>
          cases value with
          | string value =>
              simp [Decoder.readOr_some, Decode.optional, Decode.text, succeeds?, Except.map,
                Except.toOption]
          | number value => cases value <;> rfl
          | null | bool => rfl
      | array | object | tooDeep | broken => rfl

theorem StatusKind.succeeds?_flag (status : Option Node) :
    (Decoder.readOr Decode.flag false status).toOption.map id = StatusKind.flag.succeeds? status := by
  cases status with
  | none => rfl
  | some node =>
      cases node with
      | scalar value stop =>
          cases value with
          | number value => cases value <;> rfl
          | null | bool | string => rfl
      | array | object | tooDeep | broken => rfl

/-- Whether a member that may be missing is a value, with no number out of range, no text that is not
Unicode, and not too many containers in each other. -/
def IsValue (member : Option Node) : Prop :=
  ∀ node, member = some node → ∃ value, node.value = .ok value

theorem isValue_iff {member : Option Node} :
    IsValue member ↔ (Decoder.readOr Node.value .null member).toOption.isSome = true := by
  unfold IsValue
  cases member with
  | none => simp [Decoder.readOr, Except.toOption]
  | some node =>
      rw [Decoder.readOr_some]
      cases held : node.value with
      | error fault => simp [held, Except.toOption]
      | ok value => simp [held, Except.toOption]

instance (member : Option Node) : Decidable (IsValue member) := decidable_of_iff _ isValue_iff.symm

/-- What becomes of an envelope. One that tells of failure is answered by a notice; one whose status
is not of its kind, or whose documentation is no value, cannot be read. -/
structure Answers (kind : StatusKind) (status documentation : Option Node)
    (answer : Lookup Method) : Prop where
  refused : kind.succeeds? status = some false → IsValue documentation →
    answer = noted requestFailed
  mistyped : kind.succeeds? status = none → (∀ stop, status ≠ some (.scalar .null stop)) →
    ∃ error, answer = .fail (.json error)
  unreadable : ¬ IsValue documentation → ∃ error, answer = .fail (.json error)

section

variable {α β : Type} {read : Decoder α} {text : String} {next : α → Lookup β}

theorem bind_readJson_ok {value : α} (decoded : (decodeText read text).toOption = some value) :
    readJson read text >>= next = next value := by
  unfold readJson
  cases result : decodeText read text with
  | error error =>
      rw [result] at decoded
      cases decoded
  | ok found =>
      rw [result] at decoded
      obtain rfl := Option.some.inj decoded
      rfl

theorem bind_readJson_error (undecoded : (decodeText read text).toOption = none) :
    ∃ error, readJson read text >>= next = .fail (.json error) := by
  unfold readJson
  cases result : decodeText read text with
  | error error => exact ⟨error, rfl⟩
  | ok found =>
      rw [result] at undecoded
      cases undecoded

end

/-- The status is looked at once the envelope is read, before the documentation is. -/
theorem answers_of_layout {σ : Type} {key dataKey : String} {presence : Presence} {read : Decoder σ}
    {blank : σ} {succeeds : σ → Bool} {kind : StatusKind} {text : String}
    {entries : List (String × Node)} {next : Envelope σ → Lookup Method} (separate : key ≠ dataKey)
    (spared : presence ≠ .required)
    (verdict : ∀ status, (read.readOr blank status).toOption.map succeeds = kind.succeeds? status)
    (isObject : objectEntries? text = some entries) (distinct : (entries.map Prod.fst).Nodup) :
    Answers kind (entries.lookup key) (entries.lookup dataKey)
      (readJson (Envelope.layout key dataKey presence read blank).decode text >>= fun envelope =>
        if !succeeds envelope.status then noted requestFailed else next envelope) := by
  have decoded := Envelope.toOption_decodeText separate spared read blank isObject distinct
  have verdict := verdict (entries.lookup key)
  refine ⟨?_, ?_, ?_⟩
  · intro failed isValue
    rw [failed] at verdict
    obtain ⟨status, readStatus, noSuccess⟩ := Option.map_eq_some_iff.mp verdict
    obtain ⟨data, readData⟩ := Option.isSome_iff_exists.mp (isValue_iff.mp isValue)
    rw [readStatus, readData] at decoded
    rw [bind_readJson_ok decoded]
    simp only [noSuccess]
    rfl
  · intro mistyped _
    rw [mistyped, Option.map_eq_none_iff] at verdict
    rw [verdict] at decoded
    exact bind_readJson_error decoded
  · intro unreadable
    rw [isValue_iff, Option.not_isSome_iff_eq_none] at unreadable
    simp only [unreadable, Option.map_none, Option.bind_fun_none] at decoded
    exact bind_readJson_error decoded

/-- The platforms whose payloads are envelopes, with the keys of the status and of the documentation
and with what the status may be. -/
inductive HasEnvelope : Platform → String → String → StatusKind → Prop
  | doudian : HasEnvelope Doudian.platform "code" "data" (.integer 0)
  | taobao : HasEnvelope Taobao.platform "success" "data" .flag
  | alipay : HasEnvelope Alipay.platform "stat" "data" (.text "ok")
  | alibaba : HasEnvelope Alibaba.platform "success" "result" .flag
  | kuaishou : HasEnvelope Kuaishou.platform "status" "data" (.integer 200)

/-- What a platform makes of an envelope. -/
theorem HasEnvelope.answers {platform : Platform} {key dataKey : String} {kind : StatusKind}
    (enveloped : HasEnvelope platform key dataKey kind) (context : Context) {text : String}
    {entries : List (String × Node)} (isObject : objectEntries? text = some entries)
    (distinct : (entries.map Prod.fst).Nodup) :
    Answers kind (entries.lookup key) (entries.lookup dataKey) (platform.parse context text) := by
  cases enveloped with
  | doudian =>
      exact answers_of_layout (by decide) (by decide) (StatusKind.succeeds?_integer 0) isObject
        distinct
  | taobao =>
      exact answers_of_layout (by decide) (by decide) StatusKind.succeeds?_flag isObject distinct
  | alipay =>
      exact answers_of_layout (by decide) (by decide) (StatusKind.succeeds?_text "ok") isObject
        distinct
  | alibaba =>
      exact answers_of_layout (by decide) (by decide) StatusKind.succeeds?_flag isObject distinct
  | kuaishou =>
      exact answers_of_layout (by decide) (by decide) (StatusKind.succeeds?_integer 200) isObject
        distinct

namespace Generator

/-- Where a payload is an envelope with distinct keys, one that tells of failure yields a notice and
asks for nothing, whatever else it holds and whatever the source is. -/
theorem answers_parse (generator : Generator) {platform : Platform} {key dataKey : String}
    {kind : StatusKind} (enveloped : HasEnvelope platform key dataKey kind) {text : String}
    {entries : List (String × Node)} (isObject : objectEntries? text = some entries)
    (distinct : (entries.map Prod.fst).Nodup) (sourceUrl : Option String) :
    Answers kind (entries.lookup key) (entries.lookup dataKey)
      (generator.parse platform (.payload text) sourceUrl) := by
  have read := enveloped.answers ⟨sourceUrl, generator.source⟩ isObject distinct
  have parsed : generator.parse platform (.payload text) sourceUrl =
      (platform.parse ⟨sourceUrl, generator.source⟩ text).bind fun method => .ok method.unify := rfl
  rw [parsed]
  refine ⟨?_, ?_, ?_⟩
  · intro failed isValue
    rw [read.refused failed isValue]
    rfl
  · intro mistyped notNull
    obtain ⟨error, failed⟩ := read.mistyped mistyped notNull
    rw [failed]
    exact ⟨error, rfl⟩
  · intro unreadable
    obtain ⟨error, failed⟩ := read.unreadable unreadable
    rw [failed]
    exact ⟨error, rfl⟩

def refusal (code : Json.Value) : String :=
  (Json.Value.object [("message", .string "expired"), ("data", .array [.bool true]), ("code", code),
    ("log", .object [])]).compact

theorem answers_parse_refusal :
    HasEnvelope Doudian.platform "code" "data" (.integer 0) ∧
      ∃ entries, objectEntries? (refusal (.ofNat 40001)) = some entries ∧
        (entries.map Prod.fst).Nodup ∧
        (StatusKind.integer 0).succeeds? (entries.lookup "code") = some false ∧
        IsValue (entries.lookup "data") ∧
        offline.parse Doudian.platform (.payload (refusal (.ofNat 40001))) none =
          noted requestFailed := by
  have facts : (objectEntries? (refusal (.ofNat 40001))).any (fun entries =>
      (entries.map Prod.fst).Nodup ∧
        (StatusKind.integer 0).succeeds? (entries.lookup "code") = some false ∧
        IsValue (entries.lookup "data")) = true := by
    decide +kernel
  obtain ⟨entries, isObject, held⟩ := (Option.any_eq_true _ _).mp facts
  obtain ⟨distinct, failed, isValue⟩ := of_decide_eq_true held
  exact ⟨.doudian, entries, isObject, distinct, failed, isValue,
    (offline.answers_parse .doudian isObject distinct none).refused failed isValue⟩

/-- A refusal with documentation that is a number out of range. -/
def refusalOutOfRange : String := "\x7b\"success\":false,\"data\":1e999\x7d"

/-- A code that is a text, or a number out of range beside a refusal, is a failure to read. -/
theorem parse_refusal_unread :
    ((objectEntries? (refusal (.string "40001"))).map fun entries => entries.map Prod.fst) =
        some ["message", "data", "code", "log"] ∧
      (∀ method, (offline.parse Doudian.platform (.payload (refusal (.string "40001")))
        none).result ≠ .ok method) ∧
      ((objectEntries? refusalOutOfRange).map fun entries => entries.map Prod.fst) =
        some ["success", "data"] ∧
      ∀ method, (offline.parse Taobao.platform (.payload refusalOutOfRange) none).result ≠
        .ok method := by
  have unread : ∀ {result : Except Failure Method}, result.toOption.isNone = true →
      ∀ method, result ≠ .ok method := by
    rintro result nothing method rfl
    cases nothing
  exact ⟨by decide +kernel, unread (by decide +kernel), by decide +kernel,
    unread (by decide +kernel)⟩

end Generator

end ApiSchema
