import ApiSchema.Proofs.Naming.FreeName
import ApiSchema.Proofs.Unify.References

set_option autoImplicit false

namespace ApiSchema

open ApiSchema.Naming

def outerNamesOf (models : List Model) : List String :=
  (models.filter fun model => model.kind != .child).map Model.name

theorem mem_outerNamesOf {models : List Model} {name : String} :
    name ∈ outerNamesOf models ↔
      ∃ model ∈ models, model.kind ≠ .child ∧ model.name = name := by
  simp only [outerNamesOf, List.mem_map, List.mem_filter, bne_iff_ne, and_assoc]

theorem outerNamesOf_append (first second : List Model) :
    outerNamesOf (first ++ second) = outerNamesOf first ++ outerNamesOf second := by
  simp only [outerNamesOf, List.filter_append, List.map_append]

theorem outerNamesOf_cons {model : Model} (kind : model.kind ≠ .child) (rest : List Model) :
    outerNamesOf (model :: rest) = model.name :: outerNamesOf rest := by
  simp only [outerNamesOf, bne_iff_ne, ne_eq, kind, not_false_eq_true, List.filter_cons_of_pos,
    List.map_cons]

namespace Naming.Ledger

/-- The names of the models that were kept are in use, and so are the outer names. -/
structure InUse (outer : List String) (ledger : Ledger) (kept : List Model) : Prop where
  taken : ∀ model ∈ kept, model.name ∈ ledger.taken
  reserved : ∀ name ∈ outer, name ∈ ledger.taken

variable {outer : List String} {before kept models : List Model} {ledger : Ledger} {model : Model}

theorem inUse_start (outer : List String) : InUse outer (start outer) [] where
  taken := by simp
  reserved := fun _ member => member

theorem InUse.entered (inUse : InUse outer ledger kept)
    (isReserved : model.kind ≠ .child → model.name ∈ outer) {next : Ledger} {added : Option Model}
    (entered : Entered ledger model next added) : InUse outer next (kept ++ added.toList) := by
  cases entered with
  | outer kind =>
      refine ⟨?_, inUse.reserved⟩
      rw [Option.toList_some, List.forall_mem_append, List.forall_mem_singleton]
      exact ⟨inUse.taken, inUse.reserved model.name (isReserved kind)⟩
  | unified kind found =>
      rw [Option.toList_none, List.append_nil]
      exact ⟨inUse.taken, inUse.reserved⟩
  | named kind new =>
      refine ⟨?_, fun name member => List.mem_cons_of_mem _ (inUse.reserved name member)⟩
      rw [Option.toList_some, List.forall_mem_append, List.forall_mem_singleton]
      exact ⟨fun other member => List.mem_cons_of_mem _ (inUse.taken other member),
        List.mem_cons_self⟩

theorem inUse_enterAll
    (reserved : ∀ model ∈ models, model.kind ≠ .child → model.name ∈ outer) :
    InUse outer ((start outer).enterAll models).1 ((start outer).enterAll models).2 := by
  apply enterAll_invariant outer models (fun _ => InUse outer) (inUse_start outer)
  intro before model after split ledger kept _ inUse
  exact inUse.entered (reserved model (by rw [split]; simp)) (ledger.entered model)

/-- Names are in use before all models were entered, also those of the outer models to come. -/
theorem inUse_of_reached {after : List Model}
    (reached : (start (outerNamesOf (before ++ after))).enterAll before = (ledger, kept)) :
    InUse (outerNamesOf (before ++ after)) ledger kept := by
  have inUse := inUse_enterAll fun (other : Model) (member : other ∈ before) kind =>
    mem_outerNamesOf.mpr ⟨other, List.mem_append_left after member, kind, rfl⟩
  rwa [reached] at inUse

/-- A model that is kept under a free name is found under it. -/
theorem find?_freeName (inUse : InUse outer ledger kept) (localPart : String)
    (fields : List Field) :
    List.find? (fun other : Model => other.name == freeName ledger.taken localPart)
        (kept ++ [⟨freeName ledger.taken localPart, .child, fields⟩]) =
      some ⟨freeName ledger.taken localPart, .child, fields⟩ := by
  have new : kept.find? (fun other => other.name == freeName ledger.taken localPart) = none := by
    rw [List.find?_eq_none]
    intro other member same
    apply freeName_not_mem ledger.taken localPart
    rw [← beq_iff_eq.mp same]
    exact inUse.taken other member
  rw [List.find?_append, new, Option.none_or]
  simp

/-- The models that were kept have different names. Those with outer names are outer models from
before. -/
structure Distinct (outer : List String) (before kept : List Model) : Prop where
  nodup : (kept.map Model.name).Nodup
  outer : ∀ model ∈ kept, model.name ∈ outer → model.name ∈ outerNamesOf before

theorem distinct_start (outer : List String) : Distinct outer [] [] where
  nodup := List.nodup_nil
  outer := by simp

/-- A model with a new name keeps names different. -/
theorem nodup_snoc {kept : List Model} (nodup : (kept.map Model.name).Nodup) {model : Model}
    (new : ∀ other ∈ kept, other.name ≠ model.name) :
    ((kept ++ [model]).map Model.name).Nodup := by
  rw [List.map_append, List.map_singleton, List.nodup_append]
  refine ⟨nodup, List.nodup_singleton _, ?_⟩
  intro name member last same
  obtain ⟨other, inside, rfl⟩ := List.mem_map.mp member
  rw [List.mem_singleton] at same
  exact fun eq => new other inside (eq.trans same)

theorem Distinct.entered {after : List Model}
    (nodupOuter : (outerNamesOf (before ++ model :: after)).Nodup)
    (inUse : InUse (outerNamesOf (before ++ model :: after)) ledger kept)
    (distinct : Distinct (outerNamesOf (before ++ model :: after)) before kept)
    {next : Ledger} {added : Option Model} (entered : Entered ledger model next added) :
    Distinct (outerNamesOf (before ++ model :: after)) (before ++ [model])
      (kept ++ added.toList) := by
  have earlier : ∀ other ∈ kept, other.name ∈ outerNamesOf (before ++ model :: after) →
      other.name ∈ outerNamesOf (before ++ [model]) := by
    intro other member isOuter
    rw [outerNamesOf_append]
    exact List.mem_append_left _ (distinct.outer other member isOuter)
  cases entered with
  | outer kind =>
      have isOuter : model.name ∈ outerNamesOf (before ++ model :: after) :=
        mem_outerNamesOf.mpr ⟨model, by simp, kind, rfl⟩
      rw [Option.toList_some]
      refine ⟨nodup_snoc distinct.nodup ?_, ?_⟩
      · intro other member same
        have again := distinct.outer other member (by rw [same]; exact isOuter)
        rw [outerNamesOf_append, outerNamesOf_cons kind, List.nodup_append] at nodupOuter
        exact nodupOuter.2.2 _ again _ List.mem_cons_self same
      · rw [List.forall_mem_append, List.forall_mem_singleton]
        exact ⟨earlier, fun _ => mem_outerNamesOf.mpr ⟨model, by simp, kind, rfl⟩⟩
  | unified kind found =>
      rw [Option.toList_none, List.append_nil]
      exact ⟨distinct.nodup, earlier⟩
  | named kind new =>
      have free := freeName_not_mem ledger.taken (localName model.name)
      rw [Option.toList_some]
      refine ⟨nodup_snoc distinct.nodup ?_, ?_⟩
      · intro other member same
        have named : other.name = freeName ledger.taken (localName model.name) := same
        rw [← named] at free
        exact free (inUse.taken other member)
      · rw [List.forall_mem_append, List.forall_mem_singleton]
        exact ⟨earlier, fun isOuter => absurd (inUse.reserved _ isOuter) free⟩

/-- Where outer models have different names, all models that are kept do. -/
theorem distinct_enterAll (nodupOuter : (outerNamesOf models).Nodup) :
    Distinct (outerNamesOf models) models ((start (outerNamesOf models)).enterAll models).2 := by
  apply enterAll_invariant (outerNamesOf models) models
    (fun before _ => Distinct (outerNamesOf models) before) (distinct_start _)
  intro before model after split ledger kept reached distinct
  subst split
  exact distinct.entered nodupOuter (inUse_of_reached reached) (ledger.entered model)

/-- The fields of a model that was kept are those of a model before, renamed by names of nested
models. -/
structure Traced (before : List Model) (ledger : Ledger) (kept : List Model) : Prop where
  keys : ∀ entry ∈ ledger.renames, HasChild before entry.1
  origin : ∀ model ∈ kept, ∃ original ∈ before, ∃ earlier : Ledger,
    (∀ entry ∈ earlier.renames, HasChild before entry.1) ∧
      model.kind = original.kind ∧ model.fields = earlier.renameFields original.fields

theorem traced_start (outer : List String) : Traced [] (start outer) [] where
  keys := by simp [start]
  origin := by simp

theorem Traced.entered (traced : Traced before ledger kept) {next : Ledger} {added : Option Model}
    (entered : Entered ledger model next added) :
    Traced (before ++ [model]) next (kept ++ added.toList) := by
  have keys : ∀ entry ∈ ledger.renames, HasChild (before ++ [model]) entry.1 :=
    fun entry member => (traced.keys entry member).append_left _
  have own : model.kind = .child → HasChild (before ++ [model]) model.name :=
    fun kind => ⟨model, by simp, kind, rfl⟩
  have origin : ∀ other ∈ kept, ∃ original ∈ before ++ [model], ∃ earlier : Ledger,
      (∀ entry ∈ earlier.renames, HasChild (before ++ [model]) entry.1) ∧
        other.kind = original.kind ∧ other.fields = earlier.renameFields original.fields := by
    intro other member
    obtain ⟨original, inside, earlier, known, facts⟩ := traced.origin other member
    exact ⟨original, List.mem_append_left _ inside, earlier,
      fun entry given => (known entry given).append_left _, facts⟩
  cases entered with
  | outer kind =>
      refine ⟨keys, ?_⟩
      rw [Option.toList_some, List.forall_mem_append, List.forall_mem_singleton]
      exact ⟨origin, model, by simp, ledger, keys, rfl, rfl⟩
  | unified kind found =>
      rw [Option.toList_none, List.append_nil]
      exact ⟨List.forall_mem_cons.mpr ⟨own kind, keys⟩, origin⟩
  | named kind new =>
      refine ⟨List.forall_mem_cons.mpr ⟨own kind, keys⟩, ?_⟩
      rw [Option.toList_some, List.forall_mem_append, List.forall_mem_singleton]
      exact ⟨origin, model, by simp, ledger, keys, kind.symm, rfl⟩

theorem traced_enterAll (outer : List String) (models : List Model) :
    Traced models ((start outer).enterAll models).1 ((start outer).enterAll models).2 := by
  apply enterAll_invariant outer models Traced (traced_start outer)
  intro before model after _ ledger kept _ traced
  exact traced.entered (ledger.entered model)

theorem Entered.child {next : Ledger} {added : Option Model}
    (entered : Entered ledger model next added) (child : model.kind = .child) :
    ∀ kept ∈ added.toList, kept.kind = .child := by
  cases entered with
  | outer kind => exact absurd child kind
  | unified kind found => simp
  | named kind new => simp

/-- Nested models stay nested. -/
theorem child_enterAll (child : ∀ model ∈ models, model.kind = .child) (ledger : Ledger) :
    ∀ model ∈ (ledger.enterAll models).2, model.kind = .child := by
  induction models generalizing ledger with
  | nil => simp
  | cons model rest ih =>
      rw [List.forall_mem_cons] at child
      rw [enterAll_cons, List.forall_mem_append]
      exact ⟨(ledger.entered model).child child.1, ih child.2 _⟩

end Naming.Ledger

namespace Method

/-- Where outer models have different names, all models have after unification. -/
theorem nodup_names_unify {method : Method} (outer : method.outerNames.Nodup) :
    (method.unify.models.map Model.name).Nodup := by
  rw [unify_models]
  exact (Naming.Ledger.distinct_enterAll outer).nodup

/-- What a model is for, and its fields but for their types, it has from before. -/
theorem origin_unify {method : Method} {model : Model} (member : model ∈ method.unify.models) :
    ∃ original ∈ method.models, ∃ ledger : Naming.Ledger,
      (∀ entry ∈ ledger.renames, HasChild method.models entry.1) ∧
        model.kind = original.kind ∧ model.fields = ledger.renameFields original.fields := by
  rw [unify_models] at member
  exact (Naming.Ledger.traced_enterAll method.outerNames method.models).origin model member

end Method

end ApiSchema
