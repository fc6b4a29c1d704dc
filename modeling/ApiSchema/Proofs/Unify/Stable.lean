import ApiSchema.Proofs.Naming.Place
import ApiSchema.Proofs.Unify.LocalNames
import ApiSchema.Proofs.Unify.Survivors

set_option autoImplicit false

namespace ApiSchema

open ApiSchema.Naming

theorem freeName_of_not_mem {taken : List String} {localPart : String}
    (unused : localPart ∉ taken) : freeName taken localPart = localPart := by
  obtain ⟨number, chosen, _, smaller⟩ := freeName_spec taken localPart
  cases number with
  | zero => exact chosen
  | succ number => exact absurd (smaller 0 (Nat.succ_pos number)) unused

theorem unmarked_candidate {localPart : String} (unmarked : '@' ∉ localPart.toList) (number : Nat) :
    '@' ∉ (candidate localPart number).toList := by
  obtain ⟨digits, areDigits, spelled⟩ := toList_candidate localPart number
  rw [spelled, List.mem_append, not_or]
  exact ⟨unmarked, fun marked => absurd (areDigits '@' marked) (by decide)⟩

namespace Naming.Ledger

/-- Nested models can be entered under the names that they have: each is its own local name, the
names differ, and the ledger has given none of them. -/
structure Spares (ledger : Ledger) (models : List Model) : Prop where
  unmoved : ∀ entry ∈ ledger.renames, entry.1 = entry.2
  short : ∀ model ∈ models, model.kind = .child → localName model.name = model.name
  free : ∀ model ∈ models, model.kind = .child → model.name ∉ ledger.taken
  unknown : ∀ model ∈ models, model.kind = .child →
    ∀ entry ∈ ledger.survivors, entry.1.1 ≠ model.name
  apart : models.Pairwise fun first second =>
    first.kind = .child → second.kind = .child → first.name ≠ second.name

variable {ledger : Ledger} {model : Model} {rest : List Model}

theorem rename_of_unmoved (unmoved : ∀ entry ∈ ledger.renames, entry.1 = entry.2) (type : String) :
    ledger.rename type = type := by
  cases found : ledger.renames.lookup type with
  | none => exact rename_of_unknown found
  | some name =>
      rw [rename_of_lookup found]
      exact (unmoved _ (mem_of_lookup found)).symm

theorem renameFields_of_unmoved (unmoved : ∀ entry ∈ ledger.renames, entry.1 = entry.2)
    (fields : List Field) : ledger.renameFields fields = fields := by
  have each : ledger.renameField = id := by
    funext field
    have element : field.element.map ledger.rename = field.element := by
      rw [funext (rename_of_unmoved unmoved), Option.map_id_fun', id]
    rw [renameField, rename_of_unmoved unmoved, element, id]
  rw [renameFields, each, List.map_id]

/-- A model that is spared is kept as it is, and those behind it are spared still. -/
theorem Spares.entered (spares : Spares ledger (model :: rest)) {next : Ledger}
    {added : Option Model} (entered : Entered ledger model next added) :
    added = some model ∧ Spares next rest := by
  obtain ⟨unmoved, short, free, unknown, apart⟩ := spares
  rw [List.forall_mem_cons] at short free unknown
  rw [List.pairwise_cons] at apart
  have fields := renameFields_of_unmoved unmoved model.fields
  cases entered with
  | outer kind =>
      rw [fields]
      exact ⟨rfl, unmoved, short.2, free.2, unknown.2, apart.2⟩
  | unified kind found => exact absurd (short.1 kind) (unknown.1 kind _ (mem_of_lookup found))
  | named kind new =>
      have own : freeName ledger.taken (localName model.name) = model.name := by
        rw [short.1 kind]
        exact freeName_of_not_mem (free.1 kind)
      rw [own, fields]
      refine ⟨by rw [← kind], ?_, short.2, ?_, ?_, apart.2⟩
      · rw [List.forall_mem_cons]
        exact ⟨rfl, unmoved⟩
      · intro other member child inUse
        rcases List.mem_cons.mp inUse with same | earlier
        · exact apart.1 other member kind child same.symm
        · exact free.2 other member child earlier
      · intro other member child
        rw [List.forall_mem_cons]
        refine ⟨?_, unknown.2 other member child⟩
        change localName model.name ≠ other.name
        rw [short.1 kind]
        exact apart.1 other member kind child

/-- With a list of models, the first ones of it are spared. -/
theorem Spares.left {first second : List Model} (spares : Spares ledger (first ++ second)) :
    Spares ledger first where
  unmoved := spares.unmoved
  short := fun model member => spares.short model (List.mem_append_left _ member)
  free := fun model member => spares.free model (List.mem_append_left _ member)
  unknown := fun model member => spares.unknown model (List.mem_append_left _ member)
  apart := (List.pairwise_append.mp spares.apart).1

/-- Models that are spared are all kept as they are. -/
theorem Spares.enterAll (spares : Spares ledger rest) : (ledger.enterAll rest).2 = rest := by
  induction rest generalizing ledger with
  | nil => rfl
  | cons model rest ih =>
      obtain ⟨kept, later⟩ := spares.entered (ledger.entered model)
      rw [enterAll_cons, kept, ih later]
      rfl

end Naming.Ledger

namespace Method

open Naming (Ledger)

/-- The names that were given to nested models are local names. -/
theorem localName_unify {method : Method} {nested : Model} (member : nested ∈ method.unify.models)
    (child : nested.kind = .child) : localName nested.name = nested.name := by
  have spelled := Ledger.spelled_enterAll method.outerNames method.models
  rw [← unify_models] at spelled
  obtain ⟨original, inside, ⟨outer, same⟩ | ⟨_, number, chosen⟩⟩ := spelled.origin nested member
  · have isOuter : nested.name ∈ method.outerNames :=
      mem_outerNamesOf.mpr ⟨original, inside, outer, same.symm⟩
    exact absurd isOuter (not_mem_outerNames_unify member child)
  · rw [chosen]
    exact localName_of_unmarked (unmarked_candidate (unmarked_localName _) number)

/-- A ledger for the models that were kept spares them. -/
theorem spares_unify (method : Method) :
    (Ledger.start method.outerNames).Spares method.unify.models where
  unmoved := by simp [Ledger.start]
  short := fun _ => localName_unify
  free := fun _ => not_mem_outerNames_unify
  unknown := by simp [Ledger.start]
  apart := by
    have distinct := method.nodup_children_unify
    rw [List.Nodup, List.pairwise_map, List.pairwise_filter] at distinct
    simpa only [beq_iff_eq] using distinct

/-- Unification is idempotent, whatever the models and their references are. -/
theorem unify_unify (method : Method) : method.unify.unify = method.unify := by
  have spares := method.spares_unify
  rw [← outerNames_unify] at spares
  have params : method.unify.unify.params = method.unify.params := by
    rw [unify_params]
    exact spares.left.enterAll
  have models : method.unify.unify.models = method.unify.models := by
    rw [unify_models]
    exact spares.enterAll
  have responses : method.unify.unify.responses = method.unify.responses := by
    unfold Method.models at models
    rw [params] at models
    exact List.append_cancel_left models
  -- Unification changes the two lists of models only.
  calc method.unify.unify
      = { method.unify with
          params := method.unify.unify.params, responses := method.unify.unify.responses } := rfl
    _ = method.unify := by rw [params, responses]

end Method

end ApiSchema
