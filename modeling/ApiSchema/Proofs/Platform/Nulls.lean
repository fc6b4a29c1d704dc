import ApiSchema.Platform.Alibaba
import ApiSchema.Platform.Kuaishou
import ApiSchema.Platform.Taobao
import ApiSchema.Proofs.Json.Nulls
import Mathlib

set_option autoImplicit false

namespace ApiSchema

open ApiSchema.Json

variable {α : Type}

namespace Json.Attribute

theorem toOption_read_of {ρ : Type} (key : String) (presence : Presence) (read : Decoder α)
    (store : ρ → α → ρ) (node : Node) (record : ρ) :
    ((of key presence read store).read node record).toOption =
      (read node).toOption.map (store record) := by
  simp only [of]
  cases read node <;> rfl

theorem Matches.list {ρ : Type} {related : String → Value → Value → Prop} {key : String}
    {presence : Presence} {read readToo : Decoder α} {store : ρ → α → ρ}
    (alike : ∀ value other, related key value other →
      (read value.node).toOption = (readToo other.node).toOption) :
    Matches related (of key presence read store) (of key presence readToo store) where
  key := rfl
  read record value other changed := by
    rw [toOption_read_of, toOption_read_of, alike value other changed]

theorem toOption_read_ofLabel (entry : Attribute α) (node : Node) (tree : Tree α) :
    (entry.ofLabel.read node tree).toOption =
      (entry.read node tree.label).toOption.map tree.withLabel := by
  simp only [ofLabel]
  cases entry.read node tree.label <;> rfl

theorem Commutes.ofLabel {first second : Attribute α} (commutes : first.Commutes second) :
    first.ofLabel.Commutes second.ofLabel := by
  intro node other tree
  have swapped := congrArg (Option.map tree.withLabel) (commutes node other tree.label)
  simp only [toOption_read_ofLabel, Option.map_bind, Option.bind_map] at swapped ⊢
  exact swapped

theorem ofLabel_commutes_children (entry : Attribute α) (key : String) (presence : Presence)
    (read : Decoder (List (Tree α))) :
    entry.ofLabel.Commutes (of key presence read Tree.withChildren) := by
  intro node other tree
  have kept (children : List (Tree α)) : (tree.withChildren children).label = tree.label := rfl
  simp only [toOption_read_ofLabel, toOption_read_of, Option.bind_map, Function.comp_def, kept]
  cases (entry.read node tree.label).toOption <;> cases (read other).toOption <;> rfl

theorem Idle.ofLabel {entry : Attribute α} {tree : Tree α} (idle : entry.Idle tree.label) :
    entry.ofLabel.Idle tree := by
  unfold Idle at idle ⊢
  simp only [Attribute.ofLabel, idle]
  cases tree
  rfl

end Json.Attribute

theorem toOption_nullableList {read readToo : Decoder α} {inner : Layout} {value : Value}
    (alike : ∀ items, value = .array items → ∀ item ∈ items,
      (read item.node).toOption = (readToo (withoutNulls inner inner item).node).toOption) :
    (nullableList read value.node).toOption =
      (nullableList readToo (listWithoutNulls inner value).node).toOption := by
  cases value with
  | array items =>
      rw [listWithoutNulls, itemsWithoutNulls_eq_map]
      exact Decode.toOption_items (alike items rfl) _ _
  | _ => rfl

/-- Attributes that read the same where what is under the keys of lists reads the same and the rest
is unchanged. -/
def Json.Layout.Alike {ρ : Type} (layout : Layout) (read readToo : Decoder α)
    (attributes others : List (Attribute ρ)) : Prop :=
  ∀ related : String → Value → Value → Prop,
    (∀ key value other, related key value other → key ∉ layout.lists → other = value) →
    (∀ key value other, related key value other → key ∈ layout.lists →
      (nullableList read value.node).toOption = (nullableList readToo other.node).toOption) →
    List.Forall₂ (Attribute.Matches related) attributes others

/-- A record is read as without its members that are `null`, where the items of its lists are. -/
theorem Json.Record.toOption_decode_withoutNulls {ρ : Type} {first second : Record ρ}
    (blank : first.blank = second.blank) {inner outer : Layout}
    (keys : first.attributes.map Attribute.key = outer.keys)
    (lenient : Lenient first.attributes first.blank)
    (lenientToo : Lenient second.attributes second.blank) {read readToo : Decoder α}
    (alike : outer.Alike read readToo first.attributes second.attributes) {levels levelsToo : Nat}
    (items : ∀ item : Value, item.Distinct → item.node.height ≤ levels →
      (withoutNulls inner inner item).node.height ≤ levelsToo →
      (read item.node).toOption = (readToo (withoutNulls inner inner item).node).toOption)
    {value : Value} (distinct : value.Distinct) (low : value.node.height ≤ levels + 1)
    (lowToo : (withoutNulls inner outer value).node.height ≤ levelsToo + 1) :
    (first.decode value.node).toOption =
      (second.decode (withoutNulls inner outer value).node).toOption := by
  refine toOption_decode_of_pruned blank (alike _ ?other ?list) lenient lenientToo
    (keys ▸ prunedRecord_withoutNulls distinct low lowToo)
  case other =>
    intro key value other changed single
    rw [changed.same, if_neg (by simpa using single)]
  case list =>
    intro key value other changed listed
    have shorter := changed.lowToo
    rw [changed.same, if_pos (by simpa using listed)] at shorter ⊢
    apply toOption_nullableList
    rintro members rfl item member
    rw [listWithoutNulls, itemsWithoutNulls_eq_map] at shorter
    cases changed.distinct with
    | array each =>
        exact items item (each item member) ((height_item member).le.trans changed.low)
          ((height_item (List.mem_map_of_mem member)).le.trans shorter)

/-- Trees whose attributes are those of the layout, each with a default for which `null` stands, and
whose children are read from its lists alone. -/
structure TreeRecord.Nested (record : TreeRecord α) (layout : Layout) : Prop where
  keys : ∀ self, (record.attributes self).map Attribute.key = layout.keys
  lenient : ∀ self, Lenient (record.attributes self) (.node record.blank [])
  alike : ∀ read readToo,
    layout.Alike read readToo (record.attributes read) (record.attributes readToo)

namespace TreeRecord

theorem lenient_labels {labels : List (Attribute α)} {blank : α} (lenient : Lenient labels blank)
    (key : String) (self : Decoder (Tree α)) :
    Lenient (labels.map Attribute.ofLabel ++
      [.defaulted key (nullableList self) Tree.withChildren]) (.node blank []) where
  defaulted := by
    rw [List.forall_mem_append, List.forall_mem_map, List.forall_mem_singleton]
    exact ⟨lenient.defaulted, rfl⟩
  commuting := by
    rw [List.pairwise_append, List.pairwise_map]
    refine ⟨lenient.commuting.imp .ofLabel, List.pairwise_singleton _ _, ?_⟩
    simp only [List.forall_mem_map, List.forall_mem_singleton]
    exact fun entry _ => Attribute.ofLabel_commutes_children entry _ _ _
  idle := by
    rw [List.forall_mem_append, List.forall_mem_map, List.forall_mem_singleton]
    exact ⟨fun entry member => .ofLabel (lenient.idle entry member), rfl⟩

/-- Attributes of a label and one list of children, which is not under the key of another. -/
theorem nested_labels {title : String} {labels : List (Attribute α)} {blank : α} {key : String}
    (lenient : Lenient labels blank) (apart : ∀ entry ∈ labels, entry.key ≠ key) :
    Nested ⟨title, blank, fun self => labels.map Attribute.ofLabel ++
        [.defaulted key (nullableList self) Tree.withChildren]⟩
      ⟨labels.map Attribute.key ++ [key], [key]⟩ where
  keys self := by
    rw [List.map_append, List.map_map]
    rfl
  lenient := lenient_labels lenient key
  alike read readToo related other list := by
    refine List.rel_append (List.forall₂_same.mpr ?_) (.cons (.list ?_) .nil)
    · rw [List.forall_mem_map]
      intro entry member
      have single : entry.key ∉ [key] := by simpa using apart entry member
      exact .same fun value after changed => other entry.key value after changed single
    · exact fun value after changed => list _ value after changed (List.mem_singleton_self key)

variable {record : TreeRecord α} {inner : Layout}

theorem toOption_decodeWithin (nested : record.Nested inner) {levels levelsToo : Nat}
    {value : Value} (distinct : value.Distinct) (low : value.node.height ≤ levels)
    (lowToo : (withoutNulls inner inner value).node.height ≤ levelsToo) :
    (record.decodeWithin levels value.node).toOption =
      (record.decodeWithin levelsToo (withoutNulls inner inner value).node).toOption := by
  -- What is left may be less deep, so its number of levels is its own.
  induction levels generalizing levelsToo value with
  | zero =>
      cases distinct with
      | object | array => cases low
      | null | bool | number | string => cases levelsToo <;> rfl
  | succ levels ih =>
      cases levelsToo with
      | zero =>
          cases distinct with
          | object | array => cases lowToo
          | null | bool | number | string => rfl
      | succ levelsToo =>
          exact Record.toOption_decode_withoutNulls (by rfl) (nested.keys _) (nested.lenient _)
            (nested.lenient _) (nested.alike _ _) (fun _ => ih) distinct low lowToo

/-- A method is read as without its members that are `null` and those of its fields. -/
theorem toOption_decode_outline (nested : record.Nested inner) {ρ : Type} {outline : Record ρ}
    {outer : Layout} (keys : outline.attributes.map Attribute.key = outer.keys)
    (lenient : Lenient outline.attributes outline.blank)
    (alike : outer.Alike record.decode record.decode outline.attributes outline.attributes)
    {value : Value} (distinct : value.Distinct) :
    (outline.decode value.node).toOption =
      (outline.decode (withoutNulls inner outer value).node).toOption :=
  Record.toOption_decode_withoutNulls rfl keys lenient lenient alike
    (fun _ plain _ _ => toOption_decodeWithin nested plain le_rfl le_rfl) distinct
    (Nat.le_succ _) (Nat.le_succ _)

end TreeRecord

open Json.Attribute

section

variable {ρ : Type} {layout : Layout} {related : String → Value → Value → Prop}

theorem Json.Attribute.Matches.unlisted
    (other : ∀ key value other, related key value other → key ∉ layout.lists → other = value)
    {entry : Attribute ρ} (single : entry.key ∉ layout.lists) : Matches related entry entry :=
  .same fun value after changed => other entry.key value after changed single

variable {name params responses : String} {read : Decoder α} {setName : ρ → String → ρ}
  {setParams setResponses : ρ → List α → ρ}

/-- A name and two lists that are stored apart. -/
theorem lenient_outline {blank : ρ} (nameBlank : setName blank "" = blank)
    (paramsBlank : setParams blank [] = blank) (responsesBlank : setResponses blank [] = blank)
    (paramsApart : ∀ record name params,
      setParams (setName record name) params = setName (setParams record params) name)
    (responsesApart : ∀ record name responses,
      setResponses (setName record name) responses = setName (setResponses record responses) name)
    (listsApart : ∀ record params responses,
      setResponses (setParams record params) responses =
        setParams (setResponses record responses) params) :
    Lenient [
      .defaulted name nullableText setName,
      .defaulted params (nullableList read) setParams,
      .defaulted responses (nullableList read) setResponses] blank where
  defaulted := by
    simp only [List.forall_mem_cons]
    exact ⟨rfl, rfl, rfl, by simp⟩
  commuting := by
    simp only [List.pairwise_cons, List.forall_mem_cons]
    exact ⟨⟨commutes_of paramsApart, commutes_of responsesApart, by simp⟩,
      ⟨commutes_of listsApart, by simp⟩, by simp, .nil⟩
  idle := by
    simp only [List.forall_mem_cons]
    exact ⟨congrArg _ nameBlank, congrArg _ paramsBlank, congrArg _ responsesBlank, by simp⟩

theorem alike_outline (single : name ∉ layout.lists) (first : params ∈ layout.lists)
    (second : responses ∈ layout.lists) :
    let attributes := [
      .defaulted name nullableText setName,
      .defaulted params (nullableList read) setParams,
      .defaulted responses (nullableList read) setResponses]
    layout.Alike read read attributes attributes := by
  intro attributes related other list
  refine .cons (.unlisted other single) <| .cons (.list ?params) <| .cons (.list ?responses) .nil
  case params => exact fun value after changed => list _ value after changed first
  case responses => exact fun value after changed => list _ value after changed second

end

namespace Structured

def Keys.fields (keys : Keys) : Layout where
  keys :=
    [keys.name, keys.type, "description", keys.sample, "required", "structureId", keys.members]
  lists := [keys.members]

def Keys.methods (keys : Keys) : Layout where
  keys := ["name", keys.params, keys.responses]
  lists := [keys.params, keys.responses]

/-- The keys of lists are not those of other attributes. -/
def Keys.Apart (keys : Keys) : Prop :=
  (∀ key ∈ [keys.name, keys.type, "description", keys.sample, "required", "structureId"],
    key ∉ keys.fields.lists) ∧ "name" ∉ keys.methods.lists

instance (keys : Keys) : Decidable keys.Apart := inferInstanceAs (Decidable (_ ∧ _))

variable {keys : Keys}

theorem lenient_attributes :
    Lenient (Entry.attributes keys) ⟨"", "", "", "", false, none⟩ where
  defaulted := by
    simp only [Entry.attributes, List.forall_mem_cons]
    exact ⟨rfl, rfl, rfl, rfl, rfl, rfl, by simp⟩
  commuting := by
    simp only [Entry.attributes, List.pairwise_cons, List.forall_mem_cons]
    and_intros
    all_goals first
      | exact commutes_of fun _ _ _ => rfl
      | simp
  idle := by
    simp only [Entry.attributes, List.forall_mem_cons]
    exact ⟨rfl, rfl, rfl, rfl, rfl, rfl, by simp⟩

theorem nested_tree (apart : keys.Apart) : (tree keys).Nested keys.fields :=
  TreeRecord.nested_labels lenient_attributes (by simpa [Keys.fields, Entry.attributes,
    Attribute.defaulted, Attribute.of] using apart.1)

theorem toOption_decode_outline (apart : keys.Apart) {value : Value} (distinct : value.Distinct) :
    ((outline keys).decode value.node).toOption =
      ((outline keys).decode (withoutNulls keys.fields keys.methods value).node).toOption :=
  TreeRecord.toOption_decode_outline (nested_tree apart) rfl
    (lenient_outline rfl rfl rfl (fun _ _ _ => rfl) (fun _ _ _ => rfl) fun _ _ _ => rfl)
    (alike_outline apart.2 (by simp [Keys.methods]) (by simp [Keys.methods])) distinct

end Structured

namespace Alibaba

def fields : Layout where
  keys := ["name", "type", "description", "exampleValue", "required", "complexTypeFlag", "children"]
  lists := ["children"]

def methods : Layout where
  keys := ["name", "apiAppParamVOList", "apiReturnParamVOList"]
  lists := ["apiAppParamVOList", "apiReturnParamVOList"]

theorem lenient_attributes : Lenient Entry.attributes ⟨"", "", "", "", none, false⟩ where
  defaulted := by
    simp only [Entry.attributes, List.forall_mem_cons]
    exact ⟨rfl, rfl, rfl, rfl, rfl, rfl, by simp⟩
  commuting := by
    simp only [Entry.attributes, List.pairwise_cons, List.forall_mem_cons]
    and_intros
    all_goals first
      | exact commutes_of fun _ _ _ => rfl
      | simp
  idle := by
    simp only [Entry.attributes, List.forall_mem_cons]
    exact ⟨rfl, rfl, rfl, rfl, rfl, rfl, by simp⟩

theorem nested_tree : tree.Nested fields :=
  TreeRecord.nested_labels lenient_attributes (by decide)

theorem toOption_decode_outline {value : Value} (distinct : value.Distinct) :
    (outline.decode value.node).toOption =
      (outline.decode (withoutNulls fields methods value).node).toOption :=
  TreeRecord.toOption_decode_outline nested_tree rfl
    (lenient_outline rfl rfl rfl (fun _ _ _ => rfl) (fun _ _ _ => rfl) fun _ _ _ => rfl)
    (alike_outline (by decide) (by decide) (by decide)) distinct

end Alibaba

theorem toOption_decodeValue (read : Decoder α) (value : Value) :
    (decodeValue read value).toOption = (read value.node).toOption := by
  unfold decodeValue
  cases read value.node <;> rfl

/-- Documentation is decoded as without the members that are `null` in it and in its fields. No
object that was read has a key twice. -/
theorem decodeValue_withoutNulls :
    (∀ (node : Node) (value : Value), node.value = .ok value → value.Distinct) ∧
      ∀ value : Value, value.Distinct →
        (∀ keys ∈ [Taobao.keys, Kuaishou.keys],
          (decodeValue (Structured.outline keys).decode
              (withoutNulls keys.fields keys.methods value)).toOption =
            (decodeValue (Structured.outline keys).decode value).toOption) ∧
        (decodeValue Alibaba.outline.decode
            (withoutNulls Alibaba.fields Alibaba.methods value)).toOption =
          (decodeValue Alibaba.outline.decode value).toOption := by
  refine ⟨fun node value => Node.distinct_value, fun value distinct => ⟨?shared, ?alibaba⟩⟩
  case shared =>
    intro keys listed
    have apart : keys.Apart := by
      have apart : ∀ keys ∈ [Taobao.keys, Kuaishou.keys], keys.Apart := by decide
      exact apart keys listed
    rw [toOption_decodeValue, toOption_decodeValue]
    exact (Structured.toOption_decode_outline apart distinct).symm
  case alibaba =>
    rw [toOption_decodeValue, toOption_decodeValue]
    exact (Alibaba.toOption_decode_outline distinct).symm

theorem decodeValue_withoutNulls_nested :
    let value := Value.object [
      ("name", .string "a.b"),
      ("requestParams", .array [
        .object [
          ("demoValue", .object [("inner", .null)]), ("name", .string "p"), ("required", .null),
          ("subParams", .array [.object [("structureId", .null), ("unknown", .null)]])],
        .array [.null, .string "Long"]]),
      ("responseParams", .null)]
    let kept := Value.object [
      ("name", .string "a.b"),
      ("requestParams", .array [
        .object [
          ("demoValue", .object [("inner", .null)]), ("name", .string "p"),
          ("subParams", .array [.object []])],
        .array [.null, .string "Long"]])]
    value.Distinct ∧ withoutNulls Taobao.keys.fields Taobao.keys.methods value = kept ∧
      (decodeValue (Structured.outline Taobao.keys).decode value).toOption.isSome ∧
      (decodeValue (Structured.outline Taobao.keys).decode kept).toOption =
        (decodeValue (Structured.outline Taobao.keys).decode value).toOption := by
  intro value kept
  have distinct : value.Distinct := by
    repeat' first | constructor | decide | simp
  exact ⟨distinct, rfl, rfl,
    (decodeValue_withoutNulls.2 value distinct).1 Taobao.keys List.mem_cons_self⟩

end ApiSchema
