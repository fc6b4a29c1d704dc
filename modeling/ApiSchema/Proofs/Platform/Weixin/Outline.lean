import ApiSchema.Platform.Weixin.Platform
import ApiSchema.Proofs.Flatten.Derivation
import ApiSchema.Proofs.Platform.Weixin.Insertion

/-!
The tree of fields that rows describe. Its paths are the paths of the rows and their beginnings, and
no field is there twice, so flattening passes none over. The first row whose path leads to a field
or through it decides what the field tells: a row that comes after one for a field below its own is
lost, and a placeholder stays in its place.
-/

set_option autoImplicit false

namespace ApiSchema.Weixin

open ApiSchema.Naming

section

variable {forest : List (Tree Entry)} {path : List String} {entry : Entry}

/-- The fields that stand beside each other somewhere in a forest: the outermost ones, or those in a
field. -/
inductive Level (forest : List (Tree Entry)) : List (Tree Entry) → Prop
  | outermost : Level forest forest
  | inside {above : List Entry} {label : Entry} {children : List (Tree Entry)}
      (below : Below forest above (.node label children)) : Level forest children

theorem Apart.within (apart : Apart forest) {above : List Entry} {children : List (Tree Entry)}
    (below : Below forest above (.node entry children)) : Apart children := by
  induction apart generalizing above with
  | nil => exact absurd below not_below_nil
  | cons _ inner _ inside later =>
      rcases below_cons.mp below with ⟨_, same⟩ | ⟨others, _, lower⟩ | beside
      · cases same
        exact inner
      · exact inside lower
      · exact later beside

theorem Apart.nodup (apart : Apart forest) :
    (forest.map fun tree => tree.label.name).Nodup := by
  induction apart with
  | nil => exact List.nodup_nil
  | cons new _ _ _ later =>
      rw [List.map_cons, List.nodup_cons, List.mem_map]
      exact ⟨fun ⟨tree, member, same⟩ => new tree member same, later⟩

theorem Apart.nodup_level (apart : Apart forest) {level : List (Tree Entry)}
    (beside : Level forest level) : (level.map fun tree => tree.label.name).Nodup := by
  cases beside with
  | outermost => exact apart.nodup
  | inside below => exact (apart.within below).nodup

end

variable {rows : List Row} {row : Row} {path : List String} {entry : Entry}

theorem inserted_forestOf (rows : List Row) (row : Row) :
    Inserted row true (nameParts row.name) (forestOf rows) (forestOf (rows ++ [row])) := by
  have step : forestOf (rows ++ [row]) = insertRow row true (nameParts row.name) (forestOf rows) := by
    simp [forestOf, List.foldl_append]
  rw [step]
  exact inserted row true (nameParts row.name) (forestOf rows)

theorem apart_forestOf (rows : List Row) : Apart (forestOf rows) := by
  induction rows using List.reverseRecOn with
  | nil => exact .nil
  | append_singleton rows row ih => exact (inserted_forestOf rows row).apart ih

/-- The paths in the tree are the paths of the rows and their beginnings. -/
theorem hasPath_forestOf :
    HasPath (forestOf rows) path ↔ path ≠ [] ∧ ∃ row ∈ rows, path <+: row.path := by
  induction rows using List.reverseRecOn with
  | nil =>
      refine ⟨fun ⟨_, stands⟩ => absurd stands not_entryAt_nil, ?_⟩
      rintro ⟨_, row, member, _⟩
      cases member
  | append_singleton rows row ih =>
      have step := inserted_forestOf rows row
      constructor
      · rintro ⟨entry, stands⟩
        refine ⟨stands.ne_nil, ?_⟩
        rcases step.origin (apart_forestOf rows) stands with held | ⟨_, leads, _⟩
        · obtain ⟨_, other, member, leads⟩ := ih.mp ⟨entry, held⟩
          exact ⟨other, List.mem_append_left _ member, leads⟩
        · exact ⟨row, List.mem_append_right _ (List.mem_singleton_self row), leads⟩
      · rintro ⟨filled, other, member, leads⟩
        rcases List.mem_append.mp member with earlier | last
        · obtain ⟨entry, stands⟩ := ih.mpr ⟨filled, other, earlier, leads⟩
          exact ⟨entry, step.kept stands⟩
        · rw [List.mem_singleton.mp last] at leads
          exact step.reached filled leads

/-- The first row whose path leads to a field or through it made the field. -/
theorem made_forestOf (stands : EntryAt (forestOf rows) path entry) :
    ∃ row, rows.find? (fun row => path <+: row.path) = some row ∧
      row.Made row.path path entry := by
  induction rows using List.reverseRecOn with
  | nil => exact absurd stands not_entryAt_nil
  | append_singleton rows row ih =>
      rcases (inserted_forestOf rows row).origin (apart_forestOf rows) stands with
        held | ⟨fresh, leads, made⟩
      · obtain ⟨first, found, made⟩ := ih held
        exact ⟨first, by rw [List.find?_append, found, Option.some_or], made⟩
      · have unled : rows.find? (fun row => path <+: row.path) = none := by
          rw [List.find?_eq_none]
          intro other member leadsToo
          exact fresh (hasPath_forestOf.mpr
            ⟨stands.ne_nil, other, member, of_decide_eq_true leadsToo⟩)
        refine ⟨row, ?_, made⟩
        rw [List.find?_append, unled, Option.none_or]
        exact List.find?_cons_of_pos (decide_eq_true leads)

/-- Where the first row whose path starts so has this path, it is the first row with this path. -/
theorem find?_path_of_leads (found : rows.find? (fun row => path <+: row.path) = some row)
    (same : row.path = path) : rows.find? (fun row => row.path = path) = some row := by
  obtain ⟨_, before, after, rfl, unled⟩ := List.find?_eq_some_iff_append.mp found
  refine List.find?_eq_some_iff_append.mpr ⟨decide_eq_true same, before, after, rfl, ?_⟩
  intro other member
  have notThrough : ¬ path <+: other.path := by simpa using unled other member
  have different : other.path ≠ path := fun equal => notThrough (equal ▸ List.prefix_rfl)
  simpa using different

/-- Each field on the way to that of a row is there once. It is a placeholder if it is the field of no
row. If it is that of a row, the first such row describes it, provided that no earlier row leads
through it, or that the row says what a placeholder does. -/
theorem described_forestOf_iff (rows : List Row) {path : List String} (filled : path ≠ [])
    (leads : ∃ row ∈ rows, path <+: row.path) :
    ∃ entry, EntryAt (forestOf rows) path entry ∧
      (∀ other, EntryAt (forestOf rows) path other → other = entry) ∧
      ((∀ row ∈ rows, row.path ≠ path) → entry.IsPlaceholder) ∧
      ∀ row, rows.find? (fun row => row.path = path) = some row →
        (row.Describes entry ↔
          rows.find? (fun row => path <+: row.path) = some row ∨
            (row.required = false ∧ row.description = placeholderDescription)) := by
  obtain ⟨entry, stands⟩ := hasPath_forestOf.mpr ⟨filled, leads⟩
  obtain ⟨first, found, made⟩ := made_forestOf stands
  refine ⟨entry, stands, fun other held => (apart_forestOf rows).unique held stands, ?_, ?_⟩
  · intro none
    have different : path ≠ first.path := (none first (List.mem_of_find?_eq_some found)).symm
    exact (if_neg different).mp made
  · intro row foundRow
    rw [found, Option.some.injEq]
    have rowPath : row.path = path := by simpa using List.find?_some foundRow
    by_cases same : first.path = path
    · have isFirst : first = row := by
        have foundFirst := find?_path_of_leads found same
        rw [foundRow] at foundFirst
        exact (Option.some.inj foundFirst).symm
      subst isFirst
      exact ⟨fun _ => .inl rfl, fun _ => (if_pos same.symm).mp made⟩
    · have different : first ≠ row := fun equal => same (equal ▸ rowPath)
      have bare : entry.IsPlaceholder := (if_neg (Ne.symm same)).mp made
      rw [or_iff_right different, Row.Describes, bare.1, bare.2]
      exact ⟨fun told => ⟨told.1.symm, told.2.symm⟩, fun told => ⟨told.1.symm, told.2.symm⟩⟩

def orderRow : Row := ⟨"order", "Object", true, "订单", true⟩

def orderNumberRow : Row := ⟨"order.id", "string", true, "订单号", true⟩

/-- The row of an order before those of its fields describes it, and not the row of another order. -/
theorem described_forestOf_order :
    let rows := [orderRow, orderNumberRow, { orderRow with required := false }]
    ["order"] ≠ [] ∧ (∃ row ∈ rows, ["order"] <+: row.path) ∧
      ∃ entry, EntryAt (forestOf rows) ["order"] entry ∧ orderRow.Describes entry := by
  intro rows
  have leads : ∃ row ∈ rows, ["order"] <+: row.path :=
    ⟨orderRow, List.mem_cons_self, by decide +kernel⟩
  obtain ⟨entry, stands, _, _, described⟩ :=
    described_forestOf_iff rows (List.cons_ne_nil "order" []) leads
  have found : rows.find? (fun row => row.path = ["order"]) = some orderRow :=
    List.find?_cons_of_pos (by decide +kernel)
  have first : rows.find? (fun row => ["order"] <+: row.path) = some orderRow :=
    List.find?_cons_of_pos (by decide +kernel)
  exact ⟨List.cons_ne_nil _ _, leads, entry, stands, (described orderRow found).mpr (.inl first)⟩

/-- The row of an order behind that of its number is lost: what is required looks optional. -/
theorem lost_forestOf_order :
    let rows := [orderNumberRow, orderRow]
    rows.find? (fun row => row.path = ["order"]) = some orderRow ∧
      ∃ entry, EntryAt (forestOf rows) ["order"] entry ∧ entry.IsPlaceholder ∧
        ¬ orderRow.Describes entry := by
  intro rows
  have through : ["order"] <+: orderNumberRow.path := by decide +kernel
  have lower : ["order"] ≠ orderNumberRow.path := by decide +kernel
  have found : rows.find? (fun row => row.path = ["order"]) = some orderRow := by
    rw [List.find?_cons_of_neg (by simpa using lower.symm)]
    exact List.find?_cons_of_pos (by decide +kernel)
  have isFirst : rows.find? (fun row => ["order"] <+: row.path) = some orderNumberRow :=
    List.find?_cons_of_pos (decide_eq_true through)
  have leads : ∃ row ∈ rows, ["order"] <+: row.path :=
    ⟨orderNumberRow, List.mem_cons_self, through⟩
  obtain ⟨entry, stands⟩ := hasPath_forestOf.mpr ⟨List.cons_ne_nil "order" [], leads⟩
  obtain ⟨first, foundFirst, made⟩ := made_forestOf stands
  cases isFirst.symm.trans foundFirst
  have bare : entry.IsPlaceholder := (if_neg lower).mp made
  refine ⟨found, entry, stands, bare, ?_⟩
  rintro ⟨required, _⟩
  rw [bare.1] at required
  cases required

end ApiSchema.Weixin
