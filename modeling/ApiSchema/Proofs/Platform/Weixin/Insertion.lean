import ApiSchema.Platform.Weixin.Outline
import ApiSchema.Proofs.Tree

/-!
Rows in a tree of fields. A row adds the fields on the way to its own that are not there yet, and
nothing else: fields that are there stay, and no two fields beside each other get one name.
-/

set_option autoImplicit false

namespace ApiSchema.Weixin

open ApiSchema.Naming

/-- The names of the fields on the way to the field of a row. -/
def Row.path (row : Row) : List String := (nameParts row.name).map elementName

/-- At the end of a path of names, from the outermost field on, stands this field. -/
def EntryAt (forest : List (Tree Entry)) (path : List String) (entry : Entry) : Prop :=
  ∃ above children, Below forest above (.node entry children) ∧
    path = above.map Entry.name ++ [entry.name]

def HasPath (forest : List (Tree Entry)) (path : List String) : Prop :=
  ∃ entry, EntryAt forest path entry

/-- No two fields that stand beside each other, at any depth, have one name. -/
inductive Apart : List (Tree Entry) → Prop
  | nil : Apart []
  | cons {label : Entry} {children rest : List (Tree Entry)}
      (new : ∀ tree ∈ rest, tree.label.name ≠ label.name) (inside : Apart children)
      (later : Apart rest) : Apart (.node label children :: rest)

section

variable {forest before after children rest : List (Tree Entry)} {label entry : Entry}
  {path : List String} {name : String}

theorem not_entryAt_nil : ¬ EntryAt [] path entry := by
  rintro ⟨above, children, below, _⟩
  exact not_below_nil below

theorem entryAt_cons :
    EntryAt (.node label children :: rest) path entry ↔
      (path = [label.name] ∧ entry = label) ∨
        (∃ others, path = label.name :: others ∧ EntryAt children others entry) ∨
        EntryAt rest path entry := by
  constructor
  · rintro ⟨above, inner, below, rfl⟩
    rcases below_cons.mp below with ⟨rfl, same⟩ | ⟨others, rfl, lower⟩ | beside
    · cases same
      exact .inl ⟨rfl, rfl⟩
    · exact .inr (.inl ⟨_, rfl, others, inner, lower, rfl⟩)
    · exact .inr (.inr ⟨above, inner, beside, rfl⟩)
  · rintro (⟨rfl, rfl⟩ | ⟨others, rfl, above, inner, below, rfl⟩ | ⟨above, inner, below, rfl⟩)
    · exact ⟨[], children, .root List.mem_cons_self, rfl⟩
    · exact ⟨label :: above, inner, .inside List.mem_cons_self below, rfl⟩
    · exact ⟨above, inner, below_cons.mpr (.inr (.inr below)), rfl⟩

theorem entryAt_append :
    EntryAt (before ++ after) path entry ↔
      EntryAt before path entry ∨ EntryAt after path entry := by
  induction before with
  | nil => simp [not_entryAt_nil]
  | cons tree rest ih =>
      obtain ⟨label, children⟩ := tree
      rw [List.cons_append, entryAt_cons, entryAt_cons, ih, or_assoc, or_assoc]

theorem EntryAt.ne_nil (stands : EntryAt forest path entry) : path ≠ [] := by
  obtain ⟨above, children, _, rfl⟩ := stands
  exact List.append_ne_nil_of_right_ne_nil _ (List.cons_ne_nil _ _)

/-- A path starts with the name of an outermost field. -/
theorem EntryAt.starts (stands : EntryAt forest (name :: path) entry) :
    ∃ tree ∈ forest, tree.label.name = name := by
  induction forest with
  | nil => exact absurd stands not_entryAt_nil
  | cons tree rest ih =>
      obtain ⟨label, children⟩ := tree
      rcases entryAt_cons.mp stands with ⟨same, _⟩ | ⟨others, same, _⟩ | later
      · exact ⟨_, List.mem_cons_self, (List.cons.inj same).1.symm⟩
      · exact ⟨_, List.mem_cons_self, (List.cons.inj same).1.symm⟩
      · obtain ⟨tree, member, named⟩ := ih later
        exact ⟨tree, List.mem_cons_of_mem _ member, named⟩

theorem not_entryAt_of_names (new : ∀ tree ∈ forest, tree.label.name ≠ name) :
    ¬ EntryAt forest (name :: path) entry := by
  intro stands
  obtain ⟨tree, member, named⟩ := stands.starts
  exact new tree member named

theorem apart_cons :
    Apart (.node label children :: rest) ↔
      (∀ tree ∈ rest, tree.label.name ≠ label.name) ∧ Apart children ∧ Apart rest :=
  ⟨fun | .cons new inside later => ⟨new, inside, later⟩,
    fun ⟨new, inside, later⟩ => .cons new inside later⟩

theorem apart_append :
    Apart (before ++ after) ↔ Apart before ∧ Apart after ∧
      ∀ tree ∈ after, ∀ other ∈ before, tree.label.name ≠ other.label.name := by
  induction before with
  | nil => simp [Apart.nil]
  | cons tree rest ih =>
      obtain ⟨label, children⟩ := tree
      simp only [List.cons_append, apart_cons, ih, List.forall_mem_append, List.forall_mem_cons,
        Tree.label]
      grind

theorem Apart.snoc (apart : Apart forest) (inside : Apart children)
    (new : ∀ tree ∈ forest, tree.label.name ≠ label.name) :
    Apart (forest ++ [.node label children]) := by
  refine apart_append.mpr ⟨apart, .cons (by simp) inside .nil, ?_⟩
  rw [List.forall_mem_singleton]
  exact fun other member => (new other member).symm

/-- Through a field lead a path to it and those that lead on from it. -/
theorem hasPath_through (leads : path = [] ∨ HasPath children path) :
    HasPath (before ++ .node label children :: after) (label.name :: path) := by
  rcases leads with rfl | ⟨entry, inner⟩
  · exact ⟨label, entryAt_append.mpr (.inr (entryAt_cons.mpr (.inl ⟨rfl, rfl⟩)))⟩
  · exact ⟨entry, entryAt_append.mpr (.inr (entryAt_cons.mpr (.inr (.inl ⟨path, rfl, inner⟩))))⟩

/-- Where names are distinct, a path leads to one field. -/
theorem Apart.unique (apart : Apart forest) {other : Entry} (stands : EntryAt forest path entry)
    (standsToo : EntryAt forest path other) : entry = other := by
  induction apart generalizing path with
  | nil => exact absurd stands not_entryAt_nil
  | @cons label children rest new _ _ inside later =>
      have outside {others : List String} {held : Entry} :
          ¬ EntryAt rest (label.name :: others) held := not_entryAt_of_names new
      rcases entryAt_cons.mp stands with ⟨rfl, rfl⟩ | ⟨others, rfl, inner⟩ | behind
      · rcases entryAt_cons.mp standsToo with ⟨_, rfl⟩ | ⟨none, same, inner⟩ | behind
        · rfl
        · exact absurd (List.cons.inj same).2.symm inner.ne_nil
        · exact absurd behind outside
      · rcases entryAt_cons.mp standsToo with ⟨same, _⟩ | ⟨others, same, innerToo⟩ | behind
        · exact absurd (List.cons.inj same).2 inner.ne_nil
        · cases same
          exact inside inner innerToo
        · exact absurd behind outside
      · rcases entryAt_cons.mp standsToo with ⟨rfl, _⟩ | ⟨others, rfl, _⟩ | behindToo
        · exact absurd behind outside
        · exact absurd behind outside
        · exact later behind behindToo

end

/-- How the field of a row is put at the end of a path into a forest. -/
inductive Inserted (row : Row) :
    Bool → List String → List (Tree Entry) → List (Tree Entry) → Prop
  | nameless (outermost : Bool) (forest : List (Tree Entry)) :
      Inserted row outermost [] forest forest
  | present {outermost : Bool} {last : String} {forest : List (Tree Entry)}
      (known : ∃ tree ∈ forest, tree.label.name = elementName last) :
      Inserted row outermost [last] forest forest
  | added {outermost : Bool} {last : String} {forest : List (Tree Entry)}
      (new : ∀ tree ∈ forest, tree.label.name ≠ elementName last) :
      Inserted row outermost [last] forest (forest ++ [.node (entryOf row last outermost) []])
  | entered {outermost : Bool} {part : String} {rest : List String} {label : Entry}
      {before children changed after : List (Tree Entry)} (deeper : rest ≠ [])
      (named : label.name = elementName part) (below : Inserted row false rest children changed) :
      Inserted row outermost (part :: rest) (before ++ .node label children :: after)
        (before ++ .node label changed :: after)
  | stoodIn {outermost : Bool} {part : String} {rest : List String}
      {forest changed : List (Tree Entry)} (deeper : rest ≠ [])
      (new : ∀ tree ∈ forest, tree.label.name ≠ elementName part)
      (below : Inserted row false rest [] changed) :
      Inserted row outermost (part :: rest) forest (forest ++ [.node (placeholder part) changed])

/-- The first tree of a name is changed; if there is none, a new tree comes to the end. -/
theorem updateFirst_cases (name : String) (change : List (Tree Entry) → List (Tree Entry))
    (fallback : Entry) (forest : List (Tree Entry)) :
    (∃ before label children after, forest = before ++ .node label children :: after ∧
        label.name = name ∧ updateFirst name change fallback forest =
          before ++ .node label (change children) :: after) ∨
      ((∀ tree ∈ forest, tree.label.name ≠ name) ∧
        updateFirst name change fallback forest = forest ++ [.node fallback (change [])]) := by
  induction forest with
  | nil => exact .inr ⟨by simp, rfl⟩
  | cons tree rest ih =>
      obtain ⟨label, children⟩ := tree
      rw [updateFirst]
      by_cases same : label.name = name
      · rw [if_pos (beq_iff_eq.mpr same)]
        exact .inl ⟨[], label, children, rest, rfl, same, rfl⟩
      · rw [if_neg (mt beq_iff_eq.mp same)]
        rcases ih with ⟨before, held, inner, after, rfl, named, changed⟩ | ⟨new, changed⟩
        · rw [changed]
          exact .inl ⟨.node label children :: before, held, inner, after, rfl, named, rfl⟩
        · rw [changed]
          exact .inr ⟨List.forall_mem_cons.mpr ⟨same, new⟩, rfl⟩

/-- Rows are inserted by these rules. -/
theorem inserted (row : Row) (outermost : Bool) (parts : List String) (forest : List (Tree Entry)) :
    Inserted row outermost parts forest (insertRow row outermost parts forest) := by
  induction parts generalizing outermost forest with
  | nil => exact .nameless outermost forest
  | cons part rest ih =>
      cases rest with
      | nil =>
          rw [insertRow]
          split
          · rename_i known
            exact .present (by simpa using known)
          · rename_i new
            exact .added (by simpa using new)
      | cons next others =>
          have deeper : next :: others ≠ [] := List.cons_ne_nil next others
          have step : insertRow row outermost (part :: next :: others) forest =
              updateFirst (elementName part) (insertRow row false (next :: others))
                (placeholder part) forest := rfl
          rw [step]
          rcases updateFirst_cases (elementName part) (insertRow row false (next :: others))
              (placeholder part) forest with
            ⟨before, label, children, after, rfl, named, changed⟩ | ⟨new, changed⟩
          · rw [changed]
            exact .entered deeper named (ih false children)
          · rw [changed]
            exact .stoodIn deeper new (ih false [])

def Entry.IsPlaceholder (entry : Entry) : Prop :=
  entry.required = false ∧ entry.description = placeholderDescription

def Row.Describes (row : Row) (entry : Entry) : Prop :=
  entry.required = row.required ∧ entry.description = row.description

/-- A field that a row made on the way along a path, at the end of which its own field is. -/
def Row.Made (row : Row) (whole path : List String) (entry : Entry) : Prop :=
  if path = whole then row.Describes entry else entry.IsPlaceholder

theorem Row.made_cons {row : Row} {name : String} {whole path : List String} {entry : Entry} :
    row.Made (name :: whole) (name :: path) entry ↔ row.Made whole path entry := by
  simp only [Row.Made, List.cons.injEq, true_and]

namespace Inserted

variable {row : Row} {outermost : Bool} {parts path : List String}
  {forest placed : List (Tree Entry)} {entry : Entry}

/-- Names stay distinct. -/
theorem apart (run : Inserted row outermost parts forest placed) (distinct : Apart forest) :
    Apart placed := by
  induction run with
  | nameless outermost forest => exact distinct
  | present _ => exact distinct
  | added new => exact distinct.snoc .nil new
  | entered _ _ _ ih =>
      rw [apart_append, apart_cons, List.forall_mem_cons] at distinct ⊢
      obtain ⟨before, ⟨new, inside, after⟩, apart⟩ := distinct
      exact ⟨before, ⟨new, ih inside, after⟩, apart⟩
  | stoodIn _ new _ ih => exact distinct.snoc (ih .nil) new

/-- Fields that are there stay. -/
theorem kept (run : Inserted row outermost parts forest placed)
    (stands : EntryAt forest path entry) : EntryAt placed path entry := by
  induction run generalizing path with
  | nameless outermost forest => exact stands
  | present _ => exact stands
  | added _ => exact entryAt_append.mpr (.inl stands)
  | entered _ _ _ ih =>
      rw [entryAt_append, entryAt_cons] at stands ⊢
      rcases stands with before | here | ⟨others, rfl, inner⟩ | after
      · exact .inl before
      · exact .inr (.inl here)
      · exact .inr (.inr (.inl ⟨others, rfl, ih inner⟩))
      · exact .inr (.inr (.inr after))
  | stoodIn _ _ _ _ => exact entryAt_append.mpr (.inl stands)

/-- The path leads to a field then, and so do its beginnings. -/
theorem reached (run : Inserted row outermost parts forest placed) (filled : path ≠ [])
    (leads : path <+: parts.map elementName) : HasPath placed path := by
  induction run generalizing path with
  | nameless outermost forest => exact absurd (List.prefix_nil.mp leads) filled
  | present known =>
      obtain ⟨⟨label, children⟩, member, named⟩ := known
      obtain ⟨others, rfl, behind⟩ := (List.prefix_cons_iff.mp leads).resolve_left filled
      obtain ⟨before, after, rfl⟩ := List.append_of_mem member
      rw [← named]
      exact hasPath_through (.inl (List.prefix_nil.mp behind))
  | @added outermost last forest _ =>
      obtain ⟨others, rfl, behind⟩ := (List.prefix_cons_iff.mp leads).resolve_left filled
      change HasPath _ ((entryOf row last outermost).name :: others)
      exact hasPath_through (.inl (List.prefix_nil.mp behind))
  | entered _ named _ ih =>
      obtain ⟨others, rfl, behind⟩ := (List.prefix_cons_iff.mp leads).resolve_left filled
      rw [← named]
      exact hasPath_through (or_iff_not_imp_left.mpr fun filled => ih filled behind)
  | @stoodIn outermost part rest forest changed _ _ _ ih =>
      obtain ⟨others, rfl, behind⟩ := (List.prefix_cons_iff.mp leads).resolve_left filled
      change HasPath _ ((placeholder part).name :: others)
      exact hasPath_through (or_iff_not_imp_left.mpr fun filled => ih filled behind)

/-- A field that was not there is on the path, and the row made it. -/
theorem origin (run : Inserted row outermost parts forest placed) (distinct : Apart forest)
    (stands : EntryAt placed path entry) :
    EntryAt forest path entry ∨ (¬ HasPath forest path ∧ path <+: parts.map elementName ∧
      row.Made (parts.map elementName) path entry) := by
  induction run generalizing path with
  | nameless outermost forest => exact .inl stands
  | present _ => exact .inl stands
  | @added outermost last forest new =>
      rw [entryAt_append, entryAt_cons] at stands
      rcases stands with before | ⟨rfl, rfl⟩ | ⟨others, _, inner⟩ | after
      · exact .inl before
      · refine .inr ⟨fun ⟨_, held⟩ => not_entryAt_of_names new held, List.prefix_rfl, ?_⟩
        rw [Row.Made]
        exact (if_pos rfl).mpr ⟨rfl, rfl⟩
      · exact absurd inner not_entryAt_nil
      · exact absurd after not_entryAt_nil
  | @entered outermost part rest label before children changed after deeper named _ ih =>
      rw [apart_append, apart_cons] at distinct
      obtain ⟨_, ⟨newAfter, inside, _⟩, apart⟩ := distinct
      have newBefore : ∀ tree ∈ before, tree.label.name ≠ label.name := fun tree member =>
        (apart _ List.mem_cons_self tree member).symm
      rw [entryAt_append, entryAt_cons] at stands
      rcases stands with held | held | ⟨others, rfl, inner⟩ | held
      · exact .inl (entryAt_append.mpr (.inl held))
      · exact .inl (entryAt_append.mpr (.inr (entryAt_cons.mpr (.inl held))))
      · rcases ih inside inner with held | ⟨fresh, leads, made⟩
        · exact .inl (entryAt_append.mpr (.inr (entryAt_cons.mpr (.inr (.inl ⟨others, rfl, held⟩)))))
        · rw [List.map_cons, ← named, Row.made_cons]
          refine .inr ⟨?_, (List.prefix_cons_inj label.name).mpr leads, made⟩
          rintro ⟨other, held⟩
          rw [entryAt_append, entryAt_cons] at held
          rcases held with held | ⟨same, _⟩ | ⟨_, same, held⟩ | held
          · exact not_entryAt_of_names newBefore held
          · exact inner.ne_nil (List.cons.inj same).2
          · cases same
            exact fresh ⟨other, held⟩
          · exact not_entryAt_of_names newAfter held
      · exact .inl (entryAt_append.mpr (.inr (entryAt_cons.mpr (.inr (.inr held)))))
  | @stoodIn outermost part rest forest changed deeper new _ ih =>
      rw [entryAt_append, entryAt_cons] at stands
      rcases stands with held | ⟨rfl, rfl⟩ | ⟨others, rfl, inner⟩ | held
      · exact .inl held
      · refine .inr ⟨fun ⟨_, held⟩ => not_entryAt_of_names new held, ?_, ?_⟩
        · exact List.prefix_cons_iff.mpr (.inr ⟨[], rfl, List.nil_prefix⟩)
        · have above : [(placeholder part).name] ≠ (part :: rest).map elementName := by
            intro same
            exact deeper (List.map_eq_nil_iff.mp (List.cons.inj same).2.symm)
          rw [Row.Made]
          exact (if_neg above).mpr ⟨rfl, rfl⟩
      · rcases ih .nil inner with held | ⟨_, leads, made⟩
        · exact absurd held not_entryAt_nil
        · refine .inr ⟨fun ⟨_, held⟩ => not_entryAt_of_names new held, ?_, ?_⟩
          · exact (List.prefix_cons_inj _).mpr leads
          · exact Row.made_cons.mpr made
      · exact absurd held not_entryAt_nil

end Inserted

end ApiSchema.Weixin
