import ApiSchema.Json.Decode
import Mathlib

/-!
Members that are `null`. Where every attribute has a default that `null` stands for, and attributes
may be read in any order, an object is read as the same record whether such members are there or not.
What is said of a pair of values holds of their reading, up to the reason why nothing is read.
-/

set_option autoImplicit false

namespace ApiSchema.Json

variable {α ρ : Type}

namespace Attribute

/-- The attributes may be read in either order. -/
def Commutes (first second : Attribute ρ) : Prop :=
  ∀ node other record,
    ((first.read node record).toOption.bind fun after => (second.read other after).toOption) =
      (second.read other record).toOption.bind fun after => (first.read node after).toOption

theorem Commutes.symm {first second : Attribute ρ} (commutes : first.Commutes second) :
    second.Commutes first :=
  fun node other record => (commutes other node record).symm

instance : Std.Symm (@Commutes ρ) := ⟨fun _ _ => Commutes.symm⟩

theorem commutes_of {β : Type} {key other : String} {presence presenceToo : Presence}
    {read : Decoder α} {readToo : Decoder β} {store : ρ → α → ρ} {storeToo : ρ → β → ρ}
    (apart : ∀ record value valueToo,
      storeToo (store record value) valueToo = store (storeToo record valueToo) value) :
    (of key presence read store).Commutes (of other presenceToo readToo storeToo) := by
  intro node nodeToo record
  simp only [of]
  cases read node with
  | error fault => cases readToo nodeToo <;> rfl
  | ok value =>
      cases readToo nodeToo with
      | error fault => rfl
      | ok valueToo => exact congrArg some (apart record value valueToo)

def Idle (entry : Attribute ρ) (record : ρ) : Prop := entry.read Value.null.node record = .ok record

/-- Reading another attribute does not change that. -/
theorem Idle.read {first second : Attribute ρ} (commutes : first.Commutes second) {node : Node}
    {record after : ρ} (idle : second.Idle record) (read : first.read node record = .ok after) :
    second.Idle after := by
  have swapped := commutes node Value.null.node record
  rw [read, show second.read Value.null.node record = .ok record from idle] at swapped
  change (second.read Value.null.node after).toOption = (first.read node record).toOption at swapped
  rw [read] at swapped
  unfold Idle
  cases result : second.read Value.null.node after with
  | error fault =>
      rw [result] at swapped
      cases swapped
  | ok final =>
      rw [result] at swapped
      exact congrArg _ (Option.some.inj swapped)

/-- Attributes of one key that read the same of related values, or both read nothing. -/
structure Matches (related : String → Value → Value → Prop) (first second : Attribute ρ) :
    Prop where
  key : first.key = second.key
  read : ∀ record value other, related first.key value other →
    (first.read value.node record).toOption = (second.read other.node record).toOption

theorem Matches.same {related : String → Value → Value → Prop} {entry : Attribute ρ}
    (equal : ∀ value other, related entry.key value other → other = value) :
    Matches related entry entry where
  key := rfl
  read := by
    intro record value other same
    rw [equal value other same]

end Attribute

/-- Attributes in any order, each with a default for which `null` stands. -/
structure Lenient (attributes : List (Attribute ρ)) (blank : ρ) : Prop where
  defaulted : ∀ entry ∈ attributes, entry.presence = .defaulted
  commuting : attributes.Pairwise Attribute.Commutes
  idle : ∀ entry ∈ attributes, entry.Idle blank

/-- Related members in order, where those that are `null` may be missing. -/
inductive Pruned (related : String → Value → Value → Prop) :
    List (String × Value) → List (String × Value) → Prop
  | nil : Pruned related [] []
  | null {members kept : List (String × Value)} (key : String)
      (rest : Pruned related members kept) : Pruned related ((key, .null) :: members) kept
  | member {key : String} {value other : Value} {members kept : List (String × Value)}
      (same : related key value other) (rest : Pruned related members kept) :
      Pruned related ((key, value) :: members) ((key, other) :: kept)

/-- Related parts in the order of the keys. -/
inductive PrunedParts (related : String → Value → Value → Prop) :
    List String → List Value → List Value → Prop
  | nil (keys : List String) : PrunedParts related keys [] []
  | part {key : String} {keys : List String} {value other : Value} {parts kept : List Value}
      (same : related key value other) (rest : PrunedParts related keys parts kept) :
      PrunedParts related (key :: keys) (value :: parts) (other :: kept)
  | leftover (value : Value) (parts : List Value) :
      PrunedParts related [] (value :: parts) (value :: parts)

/-- An object or an array of parts with what is related to it; another value is no record. -/
inductive PrunedRecord (related : String → Value → Value → Prop) (keys : List String) :
    Value → Value → Prop
  | object {members kept : List (String × Value)} (distinct : (members.map Prod.fst).Nodup)
      (pruned : Pruned related members kept) :
      PrunedRecord related keys (.object members) (.object kept)
  | array {parts kept : List Value} (pruned : PrunedParts related keys parts kept) :
      PrunedRecord related keys (.array parts) (.array kept)
  | null : PrunedRecord related keys .null .null
  | bool (value : Bool) : PrunedRecord related keys (.bool value) (.bool value)
  | number (value : Number) : PrunedRecord related keys (.number value) (.number value)
  | string (value : String) : PrunedRecord related keys (.string value) (.string value)

section

variable {related : String → Value → Value → Prop} {attributes others : List (Attribute ρ)}

theorem find?_required {attributes : List (Attribute ρ)}
    (defaulted : ∀ entry ∈ attributes, entry.presence = .defaulted) (seen : List String) :
    attributes.find? (fun entry => entry.presence == .required && !seen.contains entry.key) =
      none := by
  rw [List.find?_eq_none]
  intro entry member
  simp [defaulted entry member]

/-- The record with what a member gives, if it has the key of an attribute. -/
def enter (attributes : List (Attribute ρ)) (key : String) (value : Value) (record : ρ) :
    Option ρ :=
  match attributes.find? fun entry => entry.key == key with
  | none => some record
  | some entry => (entry.read value.node record).toOption

/-- The keys that were read, with that of a member if an attribute has it. -/
def mark (attributes : List (Attribute ρ)) (seen : List String) (key : String) : List String :=
  if (attributes.find? fun entry => entry.key == key).isSome then key :: seen else seen

theorem not_mem_mark {seen : List String} {key : String} {keys : List String} (single : key ∉ keys)
    (fresh : ∀ other ∈ keys, other ∉ seen) : ∀ other ∈ keys, other ∉ mark attributes seen key := by
  intro other member again
  unfold mark at again
  split at again
  · rcases List.mem_cons.mp again with rfl | old
    · exact single member
    · exact fresh other member old
  · exact fresh other member again

/-- Members are read one after the other. -/
theorem toOption_fill_cons {seen : List String} {key : String} (unseen : key ∉ seen) (value : Value)
    (members : List (String × Value)) (record : ρ) :
    (Record.fill attributes seen record (memberNodes ((key, value) :: members))).toOption =
      (enter attributes key value record).bind fun after =>
        (Record.fill attributes (mark attributes seen key) after
          (memberNodes members)).toOption := by
  have unseen : seen.contains key = false := by simpa using unseen
  unfold enter mark
  cases found : attributes.find? fun entry => entry.key == key with
  | none =>
      simp only [memberNodes, Record.fill, found]
      rfl
  | some entry =>
      simp only [memberNodes, Record.fill, found, unseen]
      cases entry.read value.node record <;> rfl

theorem enter_of_matches (alike : List.Forall₂ (Attribute.Matches related) attributes others)
    {key : String} {value other : Value} (same : related key value other) (record : ρ) :
    enter attributes key value record = enter others key other record := by
  induction alike with
  | nil => rfl
  | @cons first second attributes others matching _ ih =>
      unfold enter at ih ⊢
      rw [List.find?_cons, List.find?_cons, ← matching.key]
      cases own : first.key == key with
      | true => exact matching.read record value other (eq_of_beq own ▸ same)
      | false => exact ih

theorem enter_null {key : String} {record : ρ}
    (idle : ∀ entry ∈ attributes, entry.key = key → entry.Idle record) :
    enter attributes key .null record = some record := by
  unfold enter
  split
  · rfl
  · rename_i entry found
    have own : entry.key = key := by simpa using List.find?_some found
    rw [show entry.read Value.null.node record = .ok record from
      idle entry (List.mem_of_find?_eq_some found) own]
    rfl

/-- A member does not change that an attribute of another key has its default. -/
theorem idle_of_enter (commuting : attributes.Pairwise Attribute.Commutes) {key : String}
    {value : Value} {record after : ρ} (entered : enter attributes key value record = some after)
    {later : Attribute ρ} (member : later ∈ attributes) (different : later.key ≠ key)
    (idle : later.Idle record) : later.Idle after := by
  unfold enter at entered
  split at entered
  · obtain rfl := Option.some.inj entered
    exact idle
  · rename_i entry found
    have own : entry.key = key := by simpa using List.find?_some found
    have commutes := commuting.forall (List.mem_of_find?_eq_some found) member
      fun same => different (same ▸ own)
    cases read : entry.read value.node record with
    | error fault =>
        rw [read] at entered
        cases entered
    | ok filled =>
        rw [read] at entered
        obtain rfl := Option.some.inj entered
        exact idle.read commutes read

/-- Members are read as the same record where some that are `null` are missing. What is still to
come has its default in the record read so far. -/
theorem toOption_fill_of_pruned (alike : List.Forall₂ (Attribute.Matches related) attributes others)
    (defaulted : ∀ entry ∈ attributes, entry.presence = .defaulted)
    (defaultedToo : ∀ entry ∈ others, entry.presence = .defaulted)
    (commuting : attributes.Pairwise Attribute.Commutes) {members kept : List (String × Value)}
    (pruned : Pruned related members kept) (distinct : (members.map Prod.fst).Nodup)
    {seen seenToo : List String} (fresh : ∀ key ∈ members.map Prod.fst, key ∉ seen)
    (freshToo : ∀ key ∈ members.map Prod.fst, key ∉ seenToo) {record : ρ}
    (idle : ∀ entry ∈ attributes, entry.key ∈ members.map Prod.fst → entry.Idle record) :
    (Record.fill attributes seen record (memberNodes members)).toOption =
      (Record.fill others seenToo record (memberNodes kept)).toOption := by
  induction pruned generalizing seen seenToo record with
  | nil =>
      simp only [memberNodes, Record.fill, find?_required defaulted, find?_required defaultedToo]
  | @null members kept key rest ih =>
      rw [List.map_cons, List.nodup_cons] at distinct
      rw [List.map_cons, List.forall_mem_cons] at fresh freshToo
      have unchanged : enter attributes key .null record = some record :=
        enter_null fun entry member own => idle entry member (own ▸ List.mem_cons_self)
      rw [toOption_fill_cons fresh.1, unchanged, Option.bind_some]
      exact ih distinct.2 (not_mem_mark distinct.1 fresh.2) freshToo.2
        fun entry member held => idle entry member (List.mem_cons_of_mem _ held)
  | @member key value other members kept same rest ih =>
      rw [List.map_cons, List.nodup_cons] at distinct
      rw [List.map_cons, List.forall_mem_cons] at fresh freshToo
      rw [toOption_fill_cons fresh.1, toOption_fill_cons freshToo.1, ← enter_of_matches alike same]
      cases entered : enter attributes key value record with
      | none => rfl
      | some after =>
          refine ih distinct.2 (not_mem_mark distinct.1 fresh.2)
            (not_mem_mark distinct.1 freshToo.2) ?_
          intro entry member held
          have different : entry.key ≠ key := fun same => distinct.1 (same ▸ held)
          exact idle_of_enter commuting entered member different
            (idle entry member (List.mem_cons_of_mem _ held))

/-- Parts are read as the same record from related arrays. -/
theorem toOption_fillInOrder_of_pruned
    (alike : List.Forall₂ (Attribute.Matches related) attributes others)
    (defaulted : ∀ entry ∈ attributes, entry.presence = .defaulted)
    (defaultedToo : ∀ entry ∈ others, entry.presence = .defaulted) {parts kept : List Value}
    (pruned : PrunedParts related (attributes.map Attribute.key) parts kept)
    (wanted wantedToo : String) (count countToo : Nat) (leftover leftoverToo : Fault) (record : ρ) :
    (Record.fillInOrder wanted count record attributes (itemNodes leftover parts)).toOption =
      (Record.fillInOrder wantedToo countToo record others
        (itemNodes leftoverToo kept)).toOption := by
  induction alike generalizing parts kept count countToo record with
  | nil => cases pruned <;> rfl
  | @cons first second attributes others matching _ ih =>
      rw [List.forall_mem_cons] at defaulted defaultedToo
      cases pruned with
      | nil =>
          simp only [itemNodes, Record.fillInOrder, defaulted.1, defaultedToo.1, beq_self_eq_true]
          exact ih defaulted.2 defaultedToo.2 (.nil _) _ _ _
      | @part _ _ value other parts kept same rest =>
          have read := matching.read record value other same
          simp only [itemNodes, Record.fillInOrder]
          cases entered : first.read value.node record with
          | error fault =>
              rw [entered] at read
              cases enteredToo : second.read other.node record with
              | error faultToo => rfl
              | ok after =>
                  rw [enteredToo] at read
                  cases read
          | ok after =>
              rw [entered] at read
              cases enteredToo : second.read other.node record with
              | error faultToo =>
                  rw [enteredToo] at read
                  cases read
              | ok afterToo =>
                  rw [enteredToo] at read
                  obtain rfl := Option.some.inj read
                  exact ih defaulted.2 defaultedToo.2 rest _ _ _

/-- A record is read from a value as from what is related to it. -/
theorem Record.toOption_decode_of_pruned {first second : Record ρ}
    (same : first.blank = second.blank)
    (alike : List.Forall₂ (Attribute.Matches related) first.attributes second.attributes)
    (lenient : Lenient first.attributes first.blank)
    (lenientToo : Lenient second.attributes second.blank) {value other : Value}
    (pruned : PrunedRecord related (first.attributes.map Attribute.key) value other) :
    (first.decode value.node).toOption = (second.decode other.node).toOption := by
  cases pruned with
  | object distinct members =>
      simp only [Value.node, Record.decode]
      rw [← same]
      exact toOption_fill_of_pruned alike lenient.defaulted lenientToo.defaulted lenient.commuting
        members distinct (by simp) (by simp) fun entry member _ => lenient.idle entry member
  | array parts =>
      simp only [Value.node, Record.decode]
      rw [← same]
      exact toOption_fillInOrder_of_pruned alike lenient.defaulted lenientToo.defaulted parts
        _ _ _ _ _ _ _
  | null | bool | number | string => rfl

end

/-- No object has a key twice. -/
inductive Value.Distinct : Value → Prop
  | null : Value.Distinct .null
  | bool (value : Bool) : Value.Distinct (.bool value)
  | number (value : Number) : Value.Distinct (.number value)
  | string (value : String) : Value.Distinct (.string value)
  | array {items : List Value} (each : ∀ item ∈ items, item.Distinct) :
      Value.Distinct (.array items)
  | object {members : List (String × Value)} (keys : (members.map Prod.fst).Nodup)
      (each : ∀ member ∈ members, member.2.Distinct) : Value.Distinct (.object members)

section

variable {key : String} {value : Value} {members : List (String × Value)}

theorem mem_insertMember {member : String × Value}
    (held : member ∈ insertMember key value members) :
    member = (key, value) ∨ member ∈ members := by
  induction members with
  | nil => exact Or.inl (List.mem_singleton.mp held)
  | cons first rest ih =>
      obtain ⟨other, old⟩ := first
      rw [insertMember] at held
      split_ifs at held with less same
      · exact List.mem_cons.mp held
      · exact (List.mem_cons.mp held).imp_right (List.mem_cons_of_mem _)
      · rcases List.mem_cons.mp held with rfl | later
        · exact Or.inr List.mem_cons_self
        · exact (ih later).imp_right (List.mem_cons_of_mem _)

theorem insertMember_ordered (ordered : members.Pairwise fun first second => first.1 < second.1) :
    (insertMember key value members).Pairwise fun first second => first.1 < second.1 := by
  induction members with
  | nil => exact List.pairwise_singleton _ _
  | cons first rest ih =>
      obtain ⟨other, old⟩ := first
      have ⟨least, later⟩ := List.pairwise_cons.mp ordered
      rw [insertMember]
      split_ifs with less same
      · refine .cons ?_ ordered
        rw [List.forall_mem_cons]
        exact ⟨less, fun member held => less.trans (least member held)⟩
      · rw [beq_iff_eq] at same
        exact .cons (same ▸ least) later
      · have greater : other < key :=
          lt_of_le_of_ne (not_lt.mp less) fun equal => same (beq_iff_eq.mpr equal.symm)
        refine .cons (fun member held => ?_) (ih later)
        rcases mem_insertMember held with rfl | old
        · exact greater
        · exact least member old

/-- Members put in one after the other, of which the last of a key counts, have each key once. -/
theorem Value.distinct_ofMembers (each : ∀ member ∈ members, member.2.Distinct) :
    (Value.ofMembers members).Distinct := by
  suffices kept : ∀ sorted : List (String × Value),
      (sorted.Pairwise fun first second => first.1 < second.1) →
      (∀ member ∈ sorted, member.2.Distinct) →
      (Value.object (members.foldl (fun sorted member => insertMember member.1 member.2 sorted)
        sorted)).Distinct from kept [] .nil (by simp)
  induction members with
  | nil =>
      intro sorted ordered distinct
      exact .object (List.pairwise_map.mpr (ordered.imp ne_of_lt)) distinct
  | cons first rest ih =>
      intro sorted ordered distinct
      rw [List.forall_mem_cons] at each
      refine ih each.2 _ (insertMember_ordered ordered) fun member held => ?_
      rcases mem_insertMember held with rfl | old
      · exact each.1
      · exact distinct member old

end

theorem exists_of_map_eq_ok {β ε : Type} {result : Except ε α} {change : α → β} {changed : β}
    (mapped : result.map change = .ok changed) :
    ∃ value, result = .ok value ∧ change value = changed := by
  cases result with
  | error fault => cases mapped
  | ok value => exact ⟨value, rfl, Except.ok.inj mapped⟩

mutual

/-- No object has a key twice in a value that was read. -/
theorem Node.distinct_value {node : Node} {value : Value} (read : node.value = .ok value) :
    value.Distinct := by
  cases node with
  | scalar scalar stop =>
      obtain rfl := Except.ok.inj read
      cases scalar <;> constructor
  | array start items =>
      obtain ⟨values, inner, rfl⟩ := exists_of_map_eq_ok read
      exact .array (Items.distinct_values inner)
  | object start members =>
      obtain ⟨values, inner, rfl⟩ := exists_of_map_eq_ok read
      exact Value.distinct_ofMembers (Members.distinct_values inner)
  | tooDeep found start => cases read
  | broken fault => cases read

theorem Items.distinct_values {items : Items} {values : List Value}
    (read : items.values = .ok values) : ∀ value ∈ values, value.Distinct := by
  cases items with
  | item leftover node rest =>
      rw [Items.values] at read
      cases first : node.value with
      | error fault =>
          rw [first] at read
          cases read
      | ok value =>
          rw [first] at read
          obtain ⟨later, others, rfl⟩ := exists_of_map_eq_ok read
          exact List.forall_mem_cons.mpr ⟨Node.distinct_value first, Items.distinct_values others⟩
  | closed stop =>
      obtain rfl := Except.ok.inj read
      simp
  | broken fault leftover => cases read

theorem Members.distinct_values {members : Members} {values : List (String × Value)}
    (read : members.values = .ok values) : ∀ member ∈ values, member.2.Distinct := by
  cases members with
  | member key keyStop node rest =>
      rw [Members.values] at read
      cases first : node.value with
      | error fault =>
          rw [first] at read
          cases read
      | ok value =>
          rw [first] at read
          obtain ⟨later, others, rfl⟩ := exists_of_map_eq_ok read
          exact List.forall_mem_cons.mpr ⟨Node.distinct_value first, Members.distinct_values others⟩
  | closed stop =>
      obtain rfl := Except.ok.inj read
      simp
  | broken fault => cases read

end

/-- The keys of a record in the order of its attributes, and those of lists of records. -/
structure Layout where
  keys : List String
  lists : List String

mutual

/-- A record of the outer layout without the members that are `null`, nor those of the records of
the inner layout that are in its lists. -/
def withoutNulls (inner outer : Layout) : Value → Value
  | .object members => .object (membersWithoutNulls inner outer.lists members)
  | .array parts => .array (partsWithoutNulls inner outer.lists outer.keys parts)
  | value => value

def membersWithoutNulls (inner : Layout) (lists : List String) :
    List (String × Value) → List (String × Value)
  | [] => []
  | (_, .null) :: rest => membersWithoutNulls inner lists rest
  | (key, value) :: rest =>
      (key, if lists.contains key then listWithoutNulls inner value else value) ::
        membersWithoutNulls inner lists rest

def partsWithoutNulls (inner : Layout) (lists : List String) :
    List String → List Value → List Value
  | key :: later, value :: rest =>
      (if lists.contains key then listWithoutNulls inner value else value) ::
        partsWithoutNulls inner lists later rest
  | _, rest => rest

def listWithoutNulls (inner : Layout) : Value → Value
  | .array items => .array (itemsWithoutNulls inner items)
  | value => value

def itemsWithoutNulls (inner : Layout) : List Value → List Value
  | [] => []
  | item :: rest => withoutNulls inner inner item :: itemsWithoutNulls inner rest

end

theorem height_le_itemNodes {items : List Value} {item : Value} (member : item ∈ items)
    (leftover : Fault) : item.node.height ≤ (itemNodes leftover items).height := by
  induction items with
  | nil => cases member
  | cons first rest ih =>
      rw [itemNodes, Items.height]
      rcases List.mem_cons.mp member with rfl | later
      · exact le_max_left _ _
      · exact (ih later).trans (le_max_right _ _)

theorem height_item {items : List Value} {item : Value} (member : item ∈ items) :
    item.node.height < (Value.array items).node.height :=
  Nat.lt_succ_of_le (height_le_itemNodes member _)

theorem itemsWithoutNulls_eq_map (inner : Layout) (items : List Value) :
    itemsWithoutNulls inner items = items.map (withoutNulls inner inner) := by
  induction items with
  | nil => rfl
  | cons item rest ih => rw [itemsWithoutNulls, ih, List.map_cons]

/-- How the value of a member changes, and how deep it is before and behind. -/
structure Changed (inner : Layout) (lists : List String) (levels levelsToo : Nat) (key : String)
    (value other : Value) : Prop where
  distinct : value.Distinct
  low : value.node.height ≤ levels
  lowToo : other.node.height ≤ levelsToo
  same : other = if lists.contains key then listWithoutNulls inner value else value

section

variable {inner outer : Layout} {lists : List String} {levels levelsToo : Nat}

theorem pruned_membersWithoutNulls {members : List (String × Value)}
    (each : ∀ member ∈ members, member.2.Distinct) (low : (memberNodes members).height ≤ levels)
    (lowToo : (memberNodes (membersWithoutNulls inner lists members)).height ≤ levelsToo) :
    Pruned (Changed inner lists levels levelsToo) members
      (membersWithoutNulls inner lists members) := by
  induction members with
  | nil => exact .nil
  | cons member rest ih =>
      obtain ⟨key, value⟩ := member
      rw [List.forall_mem_cons] at each
      rw [memberNodes, Members.height, max_le_iff] at low
      by_cases null : value = .null
      · subst null
        exact .null key (ih each.2 low.2 lowToo)
      · have kept : membersWithoutNulls inner lists ((key, value) :: rest) =
            (key, if lists.contains key then listWithoutNulls inner value else value) ::
              membersWithoutNulls inner lists rest := by
          rw [membersWithoutNulls]
          exact null
        rw [kept, memberNodes, Members.height, max_le_iff] at lowToo
        rw [kept]
        exact .member ⟨each.1, low.1, lowToo.1, rfl⟩ (ih each.2 low.2 lowToo.2)

theorem pruned_partsWithoutNulls {keys : List String} {parts : List Value}
    (each : ∀ part ∈ parts, part.Distinct) (leftover : Fault)
    (low : (itemNodes leftover parts).height ≤ levels)
    (lowToo : (itemNodes leftover (partsWithoutNulls inner lists keys parts)).height ≤ levelsToo) :
    PrunedParts (Changed inner lists levels levelsToo) keys parts
      (partsWithoutNulls inner lists keys parts) := by
  induction parts generalizing keys with
  | nil => cases keys <;> exact .nil _
  | cons part rest ih =>
      rw [List.forall_mem_cons] at each
      cases keys with
      | nil => exact .leftover part rest
      | cons key keys =>
          rw [partsWithoutNulls, itemNodes, Items.height, max_le_iff] at lowToo
          rw [itemNodes, Items.height, max_le_iff] at low
          rw [partsWithoutNulls]
          exact .part ⟨each.1, low.1, lowToo.1, rfl⟩ (ih each.2 low.2 lowToo.2)

theorem itemNodes_height (leftover other : Fault) (items : List Value) :
    (itemNodes leftover items).height = (itemNodes other items).height := by
  induction items with
  | nil => rfl
  | cons item rest ih => rw [itemNodes, itemNodes, Items.height, Items.height, ih]

theorem prunedRecord_withoutNulls {value : Value} (distinct : value.Distinct)
    (low : value.node.height ≤ levels + 1)
    (lowToo : (withoutNulls inner outer value).node.height ≤ levelsToo + 1) :
    PrunedRecord (Changed inner outer.lists levels levelsToo) outer.keys value
      (withoutNulls inner outer value) := by
  cases distinct with
  | null => exact .null
  | bool value => exact .bool value
  | number value => exact .number value
  | string value => exact .string value
  | object keys each =>
      exact .object keys (pruned_membersWithoutNulls each (Nat.le_of_succ_le_succ low)
        (Nat.le_of_succ_le_succ lowToo))
  | array each =>
      have lowToo := Nat.le_of_succ_le_succ lowToo
      rw [itemNodes_height] at lowToo
      exact .array (pruned_partsWithoutNulls each _ (Nat.le_of_succ_le_succ low) lowToo)

end

theorem Decode.toOption_items_cons (read : Decoder α) (leftover : Fault) (item : Value)
    (rest : List Value) :
    (Decode.items read (itemNodes leftover (item :: rest))).toOption =
      (read item.node).toOption.bind fun first =>
        (Decode.items read (itemNodes leftover rest)).toOption.map (first :: ·) := by
  simp only [itemNodes, Decode.items]
  cases read item.node with
  | error fault => rfl
  | ok first => cases Decode.items read (itemNodes leftover rest) <;> rfl

/-- Items are read as the same list where each is read as the same. -/
theorem Decode.toOption_items {read readToo : Decoder α} {change : Value → Value}
    {items : List Value}
    (alike : ∀ item ∈ items, (read item.node).toOption = (readToo (change item).node).toOption)
    (leftover leftoverToo : Fault) :
    (Decode.items read (itemNodes leftover items)).toOption =
      (Decode.items readToo (itemNodes leftoverToo (items.map change))).toOption := by
  induction items with
  | nil => rfl
  | cons item rest ih =>
      rw [List.forall_mem_cons] at alike
      rw [List.map_cons, toOption_items_cons, toOption_items_cons, alike.1, ih alike.2]

end ApiSchema.Json
