import ApiSchema.OrderedMap
import ApiSchema.Proofs.Unify.Ledger

set_option autoImplicit false

namespace ApiSchema

open ApiSchema.Naming

def HasChild (models : List Model) (name : String) : Prop :=
  ∃ model ∈ models, model.kind = .child ∧ model.name = name

/-- Each reference of a model names a nested model before it. -/
def RefersBack (models : List Model) : Prop :=
  ∀ place : Fin models.length, ∀ field ∈ models[place].fields, ∀ name ∈ field.references,
    HasChild (models.take place) name

/-- Each reference of a model names a nested model before it, or is one of the loose names. -/
def RefersBackExcept (loose : String → Prop) (models : List Model) : Prop :=
  ∀ before model after, models = before ++ model :: after →
    ∀ field ∈ model.fields, ∀ name ∈ field.references, HasChild before name ∨ loose name

instance (models : List Model) (name : String) : Decidable (HasChild models name) :=
  inferInstanceAs (Decidable (∃ model ∈ models, model.kind = .child ∧ model.name = name))

instance (models : List Model) : Decidable (RefersBack models) :=
  inferInstanceAs (Decidable (∀ place : Fin models.length, ∀ field ∈ models[place].fields,
    ∀ name ∈ field.references, HasChild (models.take place) name))

theorem refersBack_iff (models : List Model) :
    RefersBack models ↔ RefersBackExcept (fun _ => False) models := by
  constructor
  · rintro back before model after rfl field inside name refers
    have here := back ⟨before.length, by simp⟩ field
    simp only [Fin.getElem_fin, List.getElem_append_right (Nat.le_refl _), Nat.sub_self,
      List.getElem_cons_zero, List.take_left] at here
    exact Or.inl (here inside name refers)
  · intro back place field inside name refers
    have split : models = models.take place ++ models[place] :: models.drop (place + 1) := by
      rw [Fin.getElem_fin, List.getElem_cons_drop, List.take_append_drop]
    exact (back _ _ _ split field inside name refers).resolve_right id

theorem HasChild.append_left {models : List Model} {name : String} (held : HasChild models name)
    (later : List Model) : HasChild (models ++ later) name := by
  obtain ⟨model, member, facts⟩ := held
  exact ⟨model, List.mem_append_left _ member, facts⟩

theorem hasChild_append_right {models later : List Model} {name : String}
    (held : HasChild later name) : HasChild (models ++ later) name := by
  obtain ⟨model, member, facts⟩ := held
  exact ⟨model, List.mem_append_right _ member, facts⟩

theorem refersBackExcept_nil (loose : String → Prop) : RefersBackExcept loose [] := by
  intro before model after split
  simp at split

/-- What holds of each item and those before it holds with one more item, if it holds of the last. -/
theorem forall_split_snoc {α : Type} {items : List α} {last : α} {P : List α → α → Prop}
    (earlier : ∀ before item after, items = before ++ item :: after → P before item)
    (final : P items last) :
    ∀ before item after, items ++ [last] = before ++ item :: after → P before item := by
  intro before item after split
  rcases List.eq_nil_or_concat after with rfl | ⟨inner, other, rfl⟩
  · obtain ⟨rfl, same⟩ := List.append_inj' split rfl
    obtain rfl : last = item := by simpa using same
    exact final
  · have shorter : items ++ [last] = (before ++ item :: inner) ++ [other] := by
      simpa using split
    obtain ⟨rfl, _⟩ := List.append_inj' shorter rfl
    exact earlier before item inner rfl

/-- One more model may refer to all models before it. -/
theorem RefersBackExcept.snoc {loose : String → Prop} {models : List Model} {model : Model}
    (back : RefersBackExcept loose models)
    (last : ∀ field ∈ model.fields, ∀ name ∈ field.references, HasChild models name ∨ loose name) :
    RefersBackExcept loose (models ++ [model]) :=
  forall_split_snoc back last

namespace Field

def types (field : Field) : List String := field.type :: field.element.toList

theorem mem_types {field : Field} {type : String} :
    type ∈ field.types ↔ type = field.type ∨ field.element = some type := by
  rw [types, List.mem_cons, Option.mem_toList]

/-- A reference is a type that is no tag. -/
theorem mem_references_iff {field : Field} {name : String} :
    name ∈ field.references ↔ name ∈ field.types ∧ isReference name = true :=
  List.mem_filter

theorem mem_references {field : Field} {name : String} :
    name ∈ field.references ↔
      (name = field.type ∨ field.element = some name) ∧ isReference name = true := by
  rw [mem_references_iff, mem_types]

end Field

namespace Naming.Ledger

theorem rename_of_lookup {ledger : Ledger} {type name : String}
    (found : ledger.renames.lookup type = some name) : ledger.rename type = name := by
  rw [rename, found, Option.getD_some]

theorem rename_of_unknown {ledger : Ledger} {type : String}
    (unknown : ledger.renames.lookup type = none) : ledger.rename type = type := by
  rw [rename, unknown, Option.getD_none]

/-- A renamed type is a name that was given, or it is as it was. -/
theorem rename_cases (ledger : Ledger) (type : String) :
    (∃ entry ∈ ledger.renames, entry.2 = ledger.rename type) ∨
      (ledger.renames.lookup type = none ∧ ledger.rename type = type) := by
  cases found : ledger.renames.lookup type with
  | none => exact Or.inr ⟨rfl, rename_of_unknown found⟩
  | some name =>
      rw [rename_of_lookup found]
      exact Or.inl ⟨(type, name), mem_of_lookup found, rfl⟩

theorem types_renameField (ledger : Ledger) (field : Field) :
    (ledger.renameField field).types = field.types.map ledger.rename := by
  unfold renameField Field.types
  cases field.element <;> rfl

/-- A type of a renamed field is a name that was given, or a type of the field itself. -/
theorem mem_types_renameField {ledger : Ledger} {field : Field} {type : String}
    (named : type ∈ (ledger.renameField field).types) :
    (∃ entry ∈ ledger.renames, entry.2 = type) ∨
      (ledger.renames.lookup type = none ∧ type ∈ field.types) := by
  rw [types_renameField] at named
  obtain ⟨old, held, rfl⟩ := List.mem_map.mp named
  rcases ledger.rename_cases old with given | ⟨unknown, same⟩
  · exact Or.inl given
  · rw [same]
    exact Or.inr ⟨unknown, held⟩

/-- A reference of a renamed field is a name that was given, or a reference of the field itself. -/
theorem references_renameField {ledger : Ledger} {field : Field} {name : String}
    (refers : name ∈ (ledger.renameField field).references) :
    (∃ entry ∈ ledger.renames, entry.2 = name) ∨
      (ledger.renames.lookup name = none ∧ name ∈ field.references) := by
  obtain ⟨named, isReference⟩ := Field.mem_references_iff.mp refers
  refine (mem_types_renameField named).imp_right ?_
  exact fun ⟨unknown, held⟩ => ⟨unknown, Field.mem_references_iff.mpr ⟨held, isReference⟩⟩

/-- The nested models before are known, every name that was given is the name of a nested model that
was kept, and the models that were kept refer back. -/
structure Closed (loose : String → Prop) (before : List Model) (ledger : Ledger)
    (kept : List Model) : Prop where
  known : ∀ name, HasChild before name → ledger.renames.lookup name ≠ none
  renamed : ∀ entry ∈ ledger.renames, HasChild kept entry.2
  survived : ∀ entry ∈ ledger.survivors, HasChild kept entry.2
  back : RefersBackExcept loose kept

theorem closed_start (loose : String → Prop) (outer : List String) :
    Closed loose [] (start outer) [] where
  known := by
    rintro name ⟨model, member, _⟩
    cases member
  renamed := by simp [start]
  survived := by simp [start]
  back := refersBackExcept_nil loose

variable {loose : String → Prop} {before kept : List Model} {ledger : Ledger} {model : Model}

/-- The references of a model that is kept, where those of the model itself refer back. -/
theorem Closed.renameFields (closed : Closed loose before ledger kept)
    (back : ∀ field ∈ model.fields, ∀ name ∈ field.references, HasChild before name ∨ loose name) :
    ∀ field ∈ ledger.renameFields model.fields, ∀ name ∈ field.references,
      HasChild kept name ∨ loose name := by
  intro field member name refers
  obtain ⟨original, inside, rfl⟩ := List.mem_map.mp member
  rcases references_renameField refers with ⟨entry, given, rfl⟩ | ⟨unknown, refersBefore⟩
  · exact Or.inl (closed.renamed entry given)
  · rcases back original inside name refersBefore with named | isLoose
    · exact absurd unknown (closed.known name named)
    · exact Or.inr isLoose

theorem known_cons (known : ∀ name, HasChild before name → ledger.renames.lookup name ≠ none)
    (given : String) : ∀ name, HasChild (before ++ [model]) name →
      ((model.name, given) :: ledger.renames).lookup name ≠ none := by
  rintro name ⟨other, member, kind, rfl⟩
  rw [List.lookup_cons]
  split
  · simp
  · rename_i different
    rcases List.mem_append.mp member with earlier | last
    · exact known other.name ⟨other, earlier, kind, rfl⟩
    · rw [List.mem_singleton.mp last] at different
      simp at different

/-- One entry keeps the ledger closed. -/
theorem Closed.entered (closed : Closed loose before ledger kept)
    (back : ∀ field ∈ model.fields, ∀ name ∈ field.references, HasChild before name ∨ loose name)
    {next : Ledger} {added : Option Model} (entered : Entered ledger model next added) :
    Closed loose (before ++ [model]) next (kept ++ added.toList) := by
  have references := closed.renameFields back
  cases entered with
  | outer kind =>
      refine ⟨?_, ?_, ?_, closed.back.snoc references⟩
      · rintro name ⟨other, member, child, rfl⟩
        rcases List.mem_append.mp member with earlier | last
        · exact closed.known other.name ⟨other, earlier, child, rfl⟩
        · rw [List.mem_singleton.mp last] at child
          exact absurd child kind
      · exact fun entry given => (closed.renamed entry given).append_left _
      · exact fun entry given => (closed.survived entry given).append_left _
  | @unified survivor kind found =>
      have survives := closed.survived _ (mem_of_lookup found)
      simp only [Option.toList_none, List.append_nil]
      refine ⟨known_cons closed.known survivor, ?_, closed.survived, closed.back⟩
      intro entry given
      rcases List.mem_cons.mp given with rfl | earlier
      · exact survives
      · exact closed.renamed entry earlier
  | named kind new =>
      have isKept : HasChild (kept ++ [⟨freeName ledger.taken (localName model.name), .child,
          ledger.renameFields model.fields⟩]) (freeName ledger.taken (localName model.name)) :=
        hasChild_append_right ⟨_, List.mem_singleton_self _, rfl, rfl⟩
      refine ⟨known_cons closed.known _, ?_, ?_, closed.back.snoc references⟩
      · intro entry given
        rcases List.mem_cons.mp given with rfl | earlier
        · exact isKept
        · exact (closed.renamed entry earlier).append_left _
      · intro entry given
        rcases List.mem_cons.mp given with rfl | earlier
        · exact isKept
        · exact (closed.survived entry earlier).append_left _

/-- The ledger after all models is closed. -/
theorem closed_enterAll (outer : List String) {models : List Model}
    (back : RefersBackExcept loose models) :
    Closed loose models ((start outer).enterAll models).1 ((start outer).enterAll models).2 := by
  apply enterAll_invariant outer models (Closed loose) (closed_start loose outer)
  intro before model after split ledger kept _ closed
  exact closed.entered (back before model after split) (ledger.entered model)

/-- Unification adds no loose reference. -/
theorem refersBackExcept_enterAll (outer : List String) {models : List Model}
    (back : RefersBackExcept loose models) :
    RefersBackExcept loose ((start outer).enterAll models).2 :=
  (closed_enterAll outer back).back

end Naming.Ledger

namespace Method

/-- The names in a list, each once, behind those that were met before. -/
theorem mem_foldl_missing (names met : List String) (name : String) :
    name ∈ names.foldl
        (fun missing name => if missing.contains name then missing else missing ++ [name]) met ↔
      name ∈ met ∨ name ∈ names := by
  induction names generalizing met with
  | nil => simp
  | cons first rest ih =>
      rw [List.foldl_cons, ih]
      split
      · rename_i known
        have known : first ∈ met := by simpa using known
        constructor
        · rintro (old | later)
          · exact Or.inl old
          · exact Or.inr (List.mem_cons_of_mem _ later)
        · rintro (old | listed)
          · exact Or.inl old
          · rcases List.mem_cons.mp listed with rfl | later
            · exact Or.inl known
            · exact Or.inr later
      · simp only [List.mem_append, List.mem_cons, List.not_mem_nil, false_or, or_assoc]

/-- A name is unresolved if a field refers to it and no model has it. -/
theorem mem_unresolved {method : Method} {name : String} :
    name ∈ method.unresolved ↔
      (∃ model ∈ method.models, ∃ field ∈ model.fields, name ∈ field.references) ∧
        ∀ model ∈ method.models, model.name ≠ name := by
  unfold unresolved
  dsimp only
  rw [mem_foldl_missing, List.mem_filter]
  simp only [List.not_mem_nil, false_or, List.mem_flatMap, Bool.not_eq_true',
    List.contains_eq_mem, decide_eq_false_iff_not, List.mem_map, not_exists, not_and, ne_eq]

/-- Where references refer back but for the loose names, only these can be unresolved. -/
theorem loose_of_mem_unresolved {method : Method} {loose : String → Prop}
    (back : RefersBackExcept loose method.models) {name : String}
    (missing : name ∈ method.unresolved) : loose name := by
  obtain ⟨⟨model, member, field, inside, refers⟩, undefined⟩ := mem_unresolved.mp missing
  obtain ⟨before, after, split⟩ := List.append_of_mem member
  rcases back before model after split field inside name refers with named | isLoose
  · obtain ⟨target, earlier, _, same⟩ := named
    exact absurd same (undefined target (by rw [split]; exact List.mem_append_left _ earlier))
  · exact isLoose

/-- What may be loose after unification was loose before it. -/
theorem refersBackExcept_unify {method : Method} {loose : String → Prop}
    (back : RefersBackExcept loose method.models) :
    RefersBackExcept loose method.unify.models := by
  rw [unify_models]
  exact Naming.Ledger.refersBackExcept_enterAll method.outerNames back

/-- Unification keeps references closed and behind the models that they refer to. Models may have
one name, also in both lists, and any of them may be unified. -/
theorem refersBack_unify (method : Method) (back : RefersBack method.models) :
    RefersBack method.unify.models ∧ method.unify.unresolved = [] := by
  have kept := refersBackExcept_unify ((refersBack_iff method.models).mp back)
  refine ⟨(refersBack_iff method.unify.models).mpr kept, ?_⟩
  rw [List.eq_nil_iff_forall_not_mem]
  intro name missing
  exact loose_of_mem_unresolved kept missing

def onePath : Method where
  name := some "Get"
  requestName := some "get"
  params := [
    ⟨"x@Page", .child, [Field.of "number" "int"]⟩,
    ⟨"x@Page", .child, [Field.of "next" "x@Page"]⟩,
    ⟨"Page", .param, [Field.of "page" "x@Page"]⟩]
  responses := [
    ⟨"x@Page", .child, [Field.of "number" "int"]⟩,
    ⟨"y@Rows", .child, [Field.listOf "pages" (some "x@Page"), Field.of "tag" "str"]⟩,
    ⟨"GetResponse", .response, [Field.of "rows" "y@Rows"]⟩]
  comments := []

theorem refersBack_unify_onePath :
    RefersBack onePath.models ∧ RefersBack onePath.unify.models ∧ onePath.unify.unresolved = [] :=
  ⟨by decide +kernel, refersBack_unify onePath (by decide +kernel)⟩

end Method

end ApiSchema
