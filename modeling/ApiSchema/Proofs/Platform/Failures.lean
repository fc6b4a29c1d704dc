import ApiSchema.Generator
import ApiSchema.Proofs.Json.Decoding
import ApiSchema.Proofs.Platform.Weixin.Tables
import ApiSchema.Proofs.Structure.Gathering

set_option autoImplicit false

namespace ApiSchema

open ApiSchema.Json

/-- What a failure is put down to, given the structures that were asked for. -/
inductive Blamed (source : Source) (platform : String) (requested : List String) : Failure → Prop
  | report {failure : Failure} (plain : OneLine failure.text) :
      Blamed source platform requested failure
  | refused {id : String} {failure : Failure} (asked : id ∈ requested)
      (refused : source.fetch platform id = .error failure) :
      Blamed source platform requested failure
  | memberless {id : String} (asked : id ∈ requested) :
      Blamed source platform requested (.lookup id "payload carries no structure members")

/-- Whatever goes wrong in a computation can be put down to something. -/
def Lookup.Blames {α : Type} (lookup : Lookup α) (source : Source) (platform : String) : Prop :=
  ∀ failure, lookup.result = .error failure → Blamed source platform lookup.requested failure

section

variable {α β : Type} {source : Source} {platform : String}

theorem Blamed.mono {few many : List String} {failure : Failure}
    (blamed : Blamed source platform few failure) (more : few ⊆ many) :
    Blamed source platform many failure := by
  cases blamed with
  | report plain => exact .report plain
  | refused asked refused => exact .refused (more asked) refused
  | memberless asked => exact .memberless (more asked)

namespace Lookup.Blames

theorem ok (value : α) : (Lookup.ok value).Blames source platform := by
  intro failure failed
  cases failed

theorem bind {first : Lookup α} {next : α → Lookup β} (blames : first.Blames source platform)
    (later : ∀ value, (next value).Blames source platform) :
    (first >>= next).Blames source platform := by
  change (first.bind next).Blames source platform
  intro failure failed
  unfold Lookup.bind at failed ⊢
  split at failed
  · rename_i earlier refused
    cases failed
    exact blames failure refused
  · rename_i value found
    exact (later value failure failed).mono (List.subset_append_right _ _)

theorem ite {condition : Prop} [Decidable condition] {first second : Lookup α}
    (blames : first.Blames source platform) (other : second.Blames source platform) :
    (if condition then first else second).Blames source platform := by
  split
  · exact blames
  · exact other

theorem noted (comment : String) : (ApiSchema.noted comment).Blames source platform := ok _

theorem ofExcept {result : Except Failure α}
    (plain : ∀ failure, result = .error failure → OneLine failure.text) :
    (Lookup.ofExcept result).Blames source platform :=
  fun failure failed => .report (plain failure failed)

end Lookup.Blames

theorem oneLine_ofJson {result : Except Json.Error α}
    (plain : ∀ error, result = .error error → OneLine error.text) {failure : Failure}
    (failed : Failure.ofJson result = .error failure) : OneLine failure.text := by
  cases result with
  | ok value => cases failed
  | error error =>
      cases failed
      change OneLine ("invalid JSON payload: " ++ error.text)
      rw [oneLine_append]
      exact ⟨by decide, plain error rfl⟩

theorem Lookup.Blames.readJson {read : Decoder α} (inner : Decoder.Plain read) (text : String) :
    (ApiSchema.readJson read text).Blames source platform :=
  .ofExcept fun _ failed => oneLine_ofJson (fun _ refused => oneLine_decodeText inner refused) failed

theorem Lookup.Blames.readJsonValue {read : Decoder α} (inner : Decoder.Plain read)
    (value : Value) : (ApiSchema.readJsonValue read value).Blames source platform :=
  .ofExcept fun _ failed => oneLine_ofJson (fun _ refused => oneLine_decodeValue inner refused) failed

/-- An expansion fails for what the source says of the last structure that was asked for, or for what
is found in its documentation. -/
theorem Lookup.Blames.expand {structures : Structures α} (inner : Decoder.Plain structures.decode)
    (forest : List (Tree α)) :
    (expand source platform structures forest).lookup.Blames source platform := by
  have answered {requested : List String} {id : String} (asked : id ∈ requested)
      {failure : Failure} (refused : source.answer platform structures id = .error failure) :
      Blamed source platform requested failure := by
    unfold Source.answer at refused
    split at refused
    · rename_i error fetched
      cases refused
      exact .refused asked fetched
    · unfold Structures.members at refused
      split at refused
      · cases refused
        exact .memberless asked
      · exact .report (oneLine_ofJson (fun _ unread => oneLine_decodeValue inner unread) refused)
  have derived := expanded source platform structures forest
  revert derived
  generalize ApiSchema.expand source platform structures forest = run
  intro derived failure failed
  cases derived with
  | complete _ => cases failed
  | unavailable _ _ => cases failed
  | grafted _ _ => cases failed
  | failed _ run =>
      cases failed
      obtain ⟨earlier, last, split, refused, _⟩ := run.fails
      refine answered ?_ refused
      rw [split]
      exact List.mem_append_right _ (List.mem_singleton_self last)

end

section

variable {α : Type}

theorem plain_nullableText : Decoder.Plain nullableText := Decode.plain_nullAs _ Decode.plain_text

theorem plain_nullableFlag : Decoder.Plain nullableFlag := Decode.plain_nullAs _ Decode.plain_flag

theorem plain_nullableList {read : Decoder α} (inner : Decoder.Plain read) :
    Decoder.Plain (nullableList read) := Decode.plain_nullAs _ (Decode.plain_list inner)

theorem Envelope.plain_record {σ : Type} {status : Attribute (Envelope σ)} {dataKey : String}
    {blank : σ} (isPlain : status.Plain) (word : OneLine dataKey) :
    (Envelope.record status dataKey blank).Plain where
  title := by
    change OneLine "Envelope"
    decide
  attributes := by
    have value : Decoder.Plain Node.value := plain_value
    exact List.forall_mem_cons.mpr ⟨isPlain, List.forall_mem_singleton.mpr (.defaulted word value)⟩

end

namespace Structured

structure Keys.Plain (keys : Keys) : Prop where
  name : OneLine keys.name
  type : OneLine keys.type
  sample : OneLine keys.sample
  members : OneLine keys.members
  params : OneLine keys.params
  responses : OneLine keys.responses

theorem Keys.Plain.tree {keys : Keys} (plain : keys.Plain) :
    Decoder.Plain (Structured.tree keys).decode := by
  apply TreeRecord.plain_decode
  · change OneLine "Field"
    decide
  · intro self inner
    simp only [Structured.tree, Entry.attributes, List.map_cons, List.map_nil, List.cons_append,
      List.nil_append, List.forall_mem_cons]
    refine ⟨.ofLabel (.defaulted plain.name plain_nullableText),
      .ofLabel (.defaulted plain.type plain_nullableText),
      .ofLabel (.defaulted (by decide) Decode.plain_looseText),
      .ofLabel (.defaulted plain.sample Decode.plain_looseText),
      .ofLabel (.defaulted (by decide) plain_nullableFlag),
      .ofLabel (.defaulted (by decide) (Decode.plain_optional plain_value)),
      .defaulted plain.members (plain_nullableList inner), by simp⟩

theorem Keys.Plain.outline {keys : Keys} (plain : keys.Plain) :
    Decoder.Plain (Structured.outline keys).decode := by
  apply Record.Plain.decode
  refine ⟨by change OneLine "Data"; decide, ?_⟩
  simp only [Structured.outline, List.forall_mem_cons]
  exact ⟨.defaulted (by decide) plain_nullableText,
    .defaulted plain.params (plain_nullableList plain.tree),
    .defaulted plain.responses (plain_nullableList plain.tree), by simp⟩

theorem Outline.blames {keys : Keys} (plain : keys.Plain) (outline : Outline) (platform : String)
    (dialect : Dialect Entry) (context : Context) :
    (outline.method platform dialect (structures keys) context).Blames context.source platform := by
  have members : Decoder.Plain (structures keys).decode := Decode.plain_list plain.tree
  unfold Outline.method
  split
  · exact .noted _
  · refine .bind (.expand members _) fun _ => .bind (.expand members _) fun _ => ?_
    exact .ite (.ok _) (.ok _)

theorem blames {σ : Type} {envelope : Record (Envelope σ)}
    (plainEnvelope : Decoder.Plain envelope.decode) {keys : Keys} (plain : keys.Plain)
    (succeeds : σ → Bool) (platform : String) (dialect : Dialect Entry) (context : Context)
    (payload : String) :
    (parse envelope succeeds keys platform dialect context payload).Blames context.source
      platform := by
  refine .bind (.readJson plainEnvelope payload) fun _ => .ite (.noted _) (.ite (.noted _) ?_)
  exact .bind (.readJsonValue plain.outline _) fun outline => outline.blames plain _ _ context

end Structured

theorem Taobao.blames (context : Context) (payload : String) :
    (Taobao.parse context payload).Blames context.source "taobao" := by
  have keys : Taobao.keys.Plain := by constructor <;> decide
  have envelope : Decoder.Plain Taobao.envelope.decode :=
    (Envelope.plain_record (.defaulted (by decide) Decode.plain_flag) (by decide)).decode
  exact Structured.blames envelope keys _ _ _ context payload

theorem Kuaishou.blames (context : Context) (payload : String) :
    (Kuaishou.parse context payload).Blames context.source "kuaishou" := by
  have keys : Kuaishou.keys.Plain := by constructor <;> decide
  have envelope : Decoder.Plain Kuaishou.envelope.decode :=
    (Envelope.plain_record (.optional (by decide) Decode.plain_signed) (by decide)).decode
  exact Structured.blames envelope keys _ _ _ context payload

namespace Alibaba

theorem plain_tree : Decoder.Plain tree.decode := by
  apply TreeRecord.plain_decode
  · decide
  · intro self inner
    simp only [tree, Entry.attributes, List.map_cons, List.map_nil, List.cons_append,
      List.nil_append, List.forall_mem_cons]
    exact ⟨.ofLabel (.defaulted (by decide) plain_nullableText),
      .ofLabel (.defaulted (by decide) plain_nullableText),
      .ofLabel (.defaulted (by decide) Decode.plain_looseText),
      .ofLabel (.defaulted (by decide) Decode.plain_looseText),
      .ofLabel (.defaulted (by decide) (Decode.plain_optional Decode.plain_flag)),
      .ofLabel (.defaulted (by decide) plain_nullableFlag),
      .defaulted (by decide) (plain_nullableList inner), by simp⟩

theorem plain_outline : Decoder.Plain outline.decode := by
  apply Record.Plain.decode
  refine ⟨by decide, ?_⟩
  simp only [outline, List.forall_mem_cons]
  exact ⟨.defaulted (by decide) plain_nullableText,
    .defaulted (by decide) (plain_nullableList plain_tree),
    .defaulted (by decide) (plain_nullableList plain_tree), by simp⟩

theorem blames (context : Context) (payload : String) :
    (parse context payload).Blames context.source "alibaba" := by
  have envelope : Decoder.Plain envelope.decode :=
    (Envelope.plain_record (.defaulted (by decide) Decode.plain_flag) (by decide)).decode
  refine .bind (.readJson envelope payload) fun _ => .ite (.noted _) (.ite (.noted _) ?_)
  refine .bind (.readJsonValue plain_outline _) fun outline => ?_
  split
  · exact .noted _
  · exact .ok _

end Alibaba

namespace Alipay

theorem plain_value : Decoder.Plain valueRecord.decode := by
  apply Record.Plain.decode
  refine ⟨by decide, ?_⟩
  simp only [valueRecord, List.forall_mem_cons]
  exact ⟨.defaulted (by decide) Decode.plain_flag,
    .defaulted (by decide) Decode.plain_looseText, .defaulted (by decide) Decode.plain_text,
    .defaulted (by decide) Decode.plain_looseText, .defaulted (by decide) Decode.plain_text,
    .defaulted (by decide) Decode.plain_text, .defaulted (by decide) Decode.plain_text,
    .defaulted (by decide) Decode.plain_flag,
    .defaulted (by decide) (Decode.plain_optional Decode.plain_unsigned), by simp⟩

theorem plain_tree : Decoder.Plain tree.decode := by
  apply TreeRecord.plain_decode
  · decide
  · intro self inner
    simp only [tree, List.forall_mem_cons]
    exact ⟨.defaulted (by decide) (Decode.plain_optional (Decode.plain_list inner)),
      .defaulted (by decide) plain_value, by simp⟩

theorem plain_content : Decoder.Plain content.decode := by
  have data : Decoder.Plain apiData.decode := by
    apply Record.Plain.decode
    refine ⟨by decide, ?_⟩
    simp only [apiData, List.forall_mem_cons]
    exact ⟨.defaulted (by decide) Decode.plain_text,
      .defaulted (by decide) (Decode.plain_optional Decode.plain_text),
      .defaulted (by decide) (Decode.plain_optional Decode.plain_text), by simp⟩
  exact Record.Plain.decode
    ⟨by decide, List.forall_mem_singleton.mpr (.defaulted (by decide) data)⟩

theorem fields_blames (source : Source) (text : Option String) :
    (fields text).Blames source "alipay" :=
  .ite (.ok _) (.readJson (Decode.plain_list plain_tree) _)

theorem blames (context : Context) (payload : String) :
    (parse context payload).Blames context.source "alipay" := by
  have envelope : Decoder.Plain envelope.decode :=
    (Envelope.plain_record (.optional (by decide) Decode.plain_text) (by decide)).decode
  refine .bind (.readJson envelope payload) fun _ => .ite (.noted _) ?_
  split
  · exact .noted _
  · refine .bind (.readJson plain_content _) fun api => ?_
    split
    · exact .noted _
    · exact .bind (fields_blames _ _) fun _ => .bind (fields_blames _ _) fun _ => .ok _

end Alipay

namespace Doudian

theorem plain_tree : Decoder.Plain tree.decode := by
  apply TreeRecord.plain_decode
  · decide
  · intro self inner
    simp only [tree, List.forall_mem_cons]
    exact ⟨.ofLabel (.defaulted (by decide) (Decode.plain_optional Decode.plain_signed)),
      .ofLabel (.defaulted (by decide) (Decode.plain_optional Decode.plain_signed)),
      .ofLabel (.defaulted (by decide) Decode.plain_looseText),
      .ofLabel (.defaulted (by decide) Decode.plain_looseText),
      .ofLabel (.defaulted (by decide) (Decode.plain_optional Decode.plain_text)),
      .ofLabel (.defaulted (by decide) (Decode.plain_optional Decode.plain_text)),
      .ofLabel (.defaulted (by decide) (Decode.plain_optional Decode.plain_flag)),
      .ofLabel (.defaulted (by decide) (Decode.plain_optional Decode.plain_flag)),
      .ofLabel (.defaulted (by decide) (Decode.plain_optional Decode.plain_flag)),
      .defaulted (by decide) (Decode.plain_optional (Decode.plain_list inner)), by simp⟩

theorem plain_data : Decoder.Plain data.decode := by
  have info : Decoder.Plain info.decode := Record.Plain.decode
    ⟨by decide, List.forall_mem_singleton.mpr (.defaulted (by decide) Decode.plain_text)⟩
  have article : Decoder.Plain article.decode := by
    apply Record.Plain.decode
    refine ⟨by decide, ?_⟩
    simp only [Doudian.article, List.forall_mem_cons]
    exact ⟨.defaulted (by decide) info, .defaulted (by decide) Decode.plain_text, by simp⟩
  exact Record.Plain.decode
    ⟨by decide, List.forall_mem_singleton.mpr (.required (by decide) article)⟩

theorem plain_content : Decoder.Plain content.decode := by
  have part {title key : String} (word : OneLine title) (wordToo : OneLine key) :
      Decoder.Plain (fieldSection title key).decode := Record.Plain.decode
    ⟨word, List.forall_mem_singleton.mpr
      (.defaulted wordToo (Decode.plain_optional (Decode.plain_list plain_tree)))⟩
  apply Record.Plain.decode
  refine ⟨by decide, ?_⟩
  simp only [content, List.forall_mem_cons]
  exact ⟨.defaulted (by decide) (part (by decide) (by decide)),
    .defaulted (by decide) (part (by decide) (by decide)), by simp⟩

theorem blames (context : Context) (payload : String) :
    (parse context payload).Blames context.source "doudian" := by
  have envelope : Decoder.Plain envelope.decode :=
    (Envelope.plain_record (.optional (by decide) Decode.plain_signed) (by decide)).decode
  refine .bind (.readJson envelope payload) fun _ => .ite (.noted _) (.ite (.noted _) ?_)
  refine .bind (.readJsonValue plain_data _) fun article => ?_
  split
  · exact .noted _
  · exact .bind (.ite (.ok _) (.readJson plain_content _)) fun _ => .ok _

end Doudian

theorem Page.plain_record : Decoder.Plain record.decode := by
  apply Record.Plain.decode
  refine ⟨by decide, ?_⟩
  simp only [record, List.forall_mem_cons]
  exact ⟨.defaulted (by decide) Decode.plain_text,
    .defaulted (by decide) (Decode.plain_table Decode.plain_text),
    .defaulted (by decide)
      (Decode.plain_table (Decode.plain_list (Decode.plain_list Decode.plain_text))), by simp⟩

namespace Weixin

/-- The name of a type is one word. -/
theorem oneLine_of_namedType? {text type : String} (named : namedType? text = some type) :
    OneLine type := by
  unfold namedType? at named
  split at named
  · cases named
  · obtain ⟨word, found, rfl⟩ := Option.map_eq_some_iff.mp named
    have isName := (Option.filter_eq_some_iff.mp found).2
    simp only [isTypeName, Bool.and_eq_true, List.all_eq_true] at isName
    have plain : OneLine word := by
      intro c member
      have letter := isName.1.2 c member
      exact breaksLine_of_class (P := fun c => c.isAlphanum || c == '_') (by decide) (by decide) letter
    unfold correctName
    split
    · decide
    · exact plain

theorem eq_error_of_map {α β : Type} {f : α → β} {result : Except Failure α} {failure : Failure}
    (failed : result.map f = .error failure) : result = .error failure := by
  cases result with
  | error other =>
      cases failed
      rfl
  | ok value => cases failed

/-- The only thing that can be missed in the tables of a page is the table of a type. -/
theorem collectRows_error {page : Page} {anchor : String} {failure : Failure}
    (failed : collectRows page anchor = .error failure) :
    ∃ type, failure = .typeNotFound anchor type ∧ OneLine type := by
  rcases collectRows_cases page anchor with ⟨⟨rows, collected⟩, _⟩ | ⟨type, reachable, _, broken⟩
  · cases collected.symm.trans failed
  · cases broken.symm.trans failed
    obtain ⟨_, _, _, _, _, _, _, named⟩ := reachable.names
    exact ⟨type, rfl, oneLine_of_namedType? named⟩

theorem readTable_blames {source : Source} {page : Page} {anchor : String} (word : OneLine anchor) :
    (readTable page anchor).Blames source "weixin" := by
  refine .ofExcept fun failure failed => ?_
  obtain ⟨type, rfl, plain⟩ := collectRows_error (eq_error_of_map failed)
  change OneLine ("未找到 " ++ anchor ++ " 中的 " ++ type ++ " 数据")
  simp +decide [word, plain]

theorem page_blames (context : Context) (page : Page) :
    (parsePage context page).Blames context.source "weixin" := by
  unfold parsePage
  dsimp only
  split
  · exact .noted _
  · rename_i product _
    have response : OneLine product.responseAnchor := by cases product <;> decide
    split
    · exact .noted _
    · refine .bind (readTable_blames (by decide)) fun _ => ?_
      exact .bind (readTable_blames response) fun _ => .ite (.ok _) (.ok _)

theorem blames (context : Context) (payload : String) :
    (parse context payload).Blames context.source "weixin" :=
  .bind (.readJson Page.plain_record payload) fun page => page_blames context page

end Weixin

end ApiSchema
