set_option autoImplicit false

namespace ApiSchema

theorem mem_of_lookup {κ α : Type} [BEq κ] [LawfulBEq κ] {entries : List (κ × α)} {key : κ}
    {value : α} (found : entries.lookup key = some value) : (key, value) ∈ entries := by
  obtain ⟨before, behind, rfl, _⟩ := List.lookup_eq_some_iff.1 found
  simp

theorem lookup_eq_none_of_not_mem {κ α : Type} [BEq κ] [LawfulBEq κ] {key : κ}
    {entries : List (κ × α)} (absent : key ∉ entries.map Prod.fst) :
    entries.lookup key = none := by
  rw [List.lookup_eq_none_iff]
  intro entry member
  rw [bne_iff_ne]
  rintro rfl
  exact absent (List.mem_map_of_mem member)

/-- Where keys are distinct, an item is found by its key. -/
theorem find?_of_nodup {κ α : Type} [BEq κ] [LawfulBEq κ] {key : α → κ} {items : List α}
    (distinct : (items.map key).Nodup) {item : α} (member : item ∈ items) :
    items.find? (fun other => key other == key item) = some item := by
  induction items with
  | nil => cases member
  | cons first rest ih =>
      rw [List.map_cons, List.nodup_cons] at distinct
      rcases List.mem_cons.mp member with rfl | later
      · simp
      · have different : (key first == key item) = false :=
          beq_false_of_ne fun same => distinct.1 (same ▸ List.mem_map_of_mem later)
        rw [List.find?_cons, different]
        exact ih distinct.2 later

/-- The entries with one more: in the place of the entry with its key, or else at the end. -/
def upsert {α : Type} (key : String) (value : α) : List (String × α) → List (String × α)
  | [] => [(key, value)]
  | (other, held) :: rest =>
      if other = key then (key, value) :: rest else (other, held) :: upsert key value rest

theorem lookup_cons {α : Type} (key : String) (value : α) (rest : List (String × α))
    (other : String) : List.lookup other ((key, value) :: rest) =
      if other = key then some value else rest.lookup other := by
  by_cases same : other = key
  · subst same
    rw [List.lookup_cons_self, if_pos rfl]
  · rw [List.lookup_cons, beq_false_of_ne same, if_neg same]

theorem lookup_upsert {α : Type} (key : String) (value : α) (entries : List (String × α))
    (other : String) : (upsert key value entries).lookup other =
      if other = key then some value else entries.lookup other := by
  induction entries with
  | nil => exact lookup_cons key value [] other
  | cons entry rest ih =>
      obtain ⟨name, held⟩ := entry
      rw [upsert]
      by_cases found : name = key
      · subst found
        rw [if_pos rfl, lookup_cons, lookup_cons]
        split <;> rfl
      · rw [if_neg found, lookup_cons, lookup_cons, ih]
        by_cases same : other = name
        · rw [if_pos same, if_pos same, if_neg (same ▸ found)]
        · rw [if_neg same, if_neg same]

theorem keys_upsert {α : Type} (key : String) (value : α) (entries : List (String × α)) :
    (upsert key value entries).map Prod.fst =
      if key ∈ entries.map Prod.fst then entries.map Prod.fst
      else entries.map Prod.fst ++ [key] := by
  induction entries with
  | nil => rfl
  | cons entry rest ih =>
      obtain ⟨name, held⟩ := entry
      rw [upsert]
      by_cases found : name = key
      · subst found
        simp
      · rw [if_neg found, List.map_cons, ih, List.map_cons]
        have other : key ∈ name :: rest.map Prod.fst ↔ key ∈ rest.map Prod.fst := by
          simp [Ne.symm found]
        simp only [other]
        split <;> rfl

theorem nodup_keys_upsert {α : Type} (key : String) (value : α) (entries : List (String × α))
    (distinct : (entries.map Prod.fst).Nodup) :
    ((upsert key value entries).map Prod.fst).Nodup := by
  rw [keys_upsert]
  split
  · exact distinct
  · rename_i absent
    refine List.nodup_append.mpr ⟨distinct, List.pairwise_singleton _ _, ?_⟩
    intro name member other isKey same
    rw [List.mem_singleton] at isKey
    exact absent (isKey ▸ same ▸ member)

/-- Entries are told by their keys, which are distinct, and the values under these. -/
theorem entries_eq_of_lookup {α : Type} {first second : List (String × α)}
    (distinct : (first.map Prod.fst).Nodup) (keys : first.map Prod.fst = second.map Prod.fst)
    (values : ∀ key, first.lookup key = second.lookup key) : first = second := by
  induction first generalizing second with
  | nil => exact (List.map_eq_nil_iff.mp keys.symm).symm
  | cons entry rest ih =>
      obtain ⟨name, value⟩ := entry
      cases second with
      | nil => cases keys
      | cons other others =>
          obtain ⟨otherName, otherValue⟩ := other
          obtain ⟨sameName, sameKeys⟩ := List.cons.inj keys
          obtain rfl : name = otherName := sameName
          rw [List.map_cons, List.nodup_cons] at distinct
          have head := values name
          rw [lookup_cons, lookup_cons, if_pos rfl, if_pos rfl, Option.some.injEq] at head
          have tails : rest = others := by
            refine ih distinct.2 sameKeys fun key => ?_
            by_cases same : key = name
            · rw [same, lookup_eq_none_of_not_mem distinct.1,
                lookup_eq_none_of_not_mem (sameKeys ▸ distinct.1)]
            · have value := values key
              rwa [lookup_cons, lookup_cons, if_neg same, if_neg same] at value
          rw [head, tails]

/-- A map whose keys are distinct and keep their first places. -/
structure OrderedMap (α : Type) where
  entries : List (String × α)
  distinct : (entries.map Prod.fst).Nodup

namespace OrderedMap

variable {α : Type}

def empty : OrderedMap α := ⟨[], List.nodup_nil⟩

/-- The map with a value for the key. -/
def insert (map : OrderedMap α) (key : String) (value : α) : OrderedMap α :=
  ⟨upsert key value map.entries, nodup_keys_upsert key value map.entries map.distinct⟩

/-- The map of the entries; of entries with one key the last counts. -/
def ofList (entries : List (String × α)) : OrderedMap α :=
  entries.foldl (fun map (key, value) => map.insert key value) empty

def get? (map : OrderedMap α) (key : String) : Option α := map.entries.lookup key

def keys (map : OrderedMap α) : List String := map.entries.map Prod.fst

theorem get?_insert (map : OrderedMap α) (key : String) (value : α) (other : String) :
    (map.insert key value).get? other = if other = key then some value else map.get? other :=
  lookup_upsert key value map.entries other

theorem keys_insert (map : OrderedMap α) (key : String) (value : α) :
    (map.insert key value).keys = if key ∈ map.keys then map.keys else map.keys ++ [key] :=
  keys_upsert key value map.entries

/-- Maps with the same keys in the same order and the same values are the same. -/
theorem ext_of_keys {first second : OrderedMap α} (keys : first.keys = second.keys)
    (values : ∀ key, first.get? key = second.get? key) : first = second := by
  obtain ⟨firstEntries, distinct⟩ := first
  obtain ⟨secondEntries, _⟩ := second
  obtain rfl := entries_eq_of_lookup distinct keys values
  rfl

end OrderedMap

end ApiSchema
