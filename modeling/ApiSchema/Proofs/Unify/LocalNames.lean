import ApiSchema.Proofs.Unify.Names

set_option autoImplicit false

namespace ApiSchema

open ApiSchema.Naming

/-- A candidate that does not end in a digit is the local name itself. -/
theorem eq_of_candidate_eq {localPart name : String} {number : Nat}
    (ends : ∀ last ∈ name.toList.getLast?, last.isDigit = false)
    (spelled : candidate localPart number = name) : localPart = name := by
  obtain ⟨digits, areDigits, appended⟩ := toList_candidate localPart number
  have nothing : digits = [] := by
    by_contra some
    have last := List.getLast?_eq_some_getLast some
    rw [spelled] at appended
    rw [appended, List.getLast?_append_of_ne_nil _ some] at ends
    have noDigit := ends _ last
    rw [areDigits _ (List.getLast_mem some)] at noDigit
    cases noDigit
  rw [nothing, List.append_nil, spelled] at appended
  exact (String.toList_inj.mp appended).symm

namespace Naming.Ledger

/-- The names in use are outer names or names of models that were kept, and the local names of all
models are among them. An outer model was kept under its name, a nested one under a candidate. -/
structure Spelled (outer : List String) (before : List Model) (ledger : Ledger)
    (kept : List Model) : Prop where
  taken : ∀ name ∈ ledger.taken, name ∈ outer ∨ name ∈ kept.map Model.name
  survivors : ∀ entry ∈ ledger.survivors, entry.1.1 ∈ ledger.taken
  locals : ∀ model ∈ before, model.kind = .child → localName model.name ∈ ledger.taken
  origin : ∀ model ∈ kept, ∃ original ∈ before,
    (original.kind ≠ .child ∧ model.name = original.name) ∨
      (original.kind = .child ∧ ∃ number, model.name = candidate (localName original.name) number)

variable {outer : List String} {before kept models : List Model} {ledger : Ledger} {model : Model}

theorem spelled_start (outer : List String) : Spelled outer [] (start outer) [] where
  taken := fun _ member => .inl member
  survivors := by simp [start]
  locals := by simp
  origin := by simp

/-- Of the candidates for a local name, the local name itself is taken first. -/
theorem mem_taken_freeName (taken : List String) (localPart : String) :
    localPart ∈ freeName taken localPart :: taken := by
  obtain ⟨number, chosen, _, smaller⟩ := freeName_spec taken localPart
  rw [chosen]
  cases number with
  | zero => exact List.mem_cons_self
  | succ number => exact List.mem_cons_of_mem _ (smaller 0 (Nat.succ_pos number))

theorem Spelled.entered (spelled : Spelled outer before ledger kept) {next : Ledger}
    {added : Option Model} (entered : Entered ledger model next added) :
    Spelled outer (before ++ [model]) next (kept ++ added.toList) := by
  have origin : ∀ other ∈ kept, ∃ original ∈ before ++ [model],
      (original.kind ≠ .child ∧ other.name = original.name) ∨
        (original.kind = .child ∧
          ∃ number, other.name = candidate (localName original.name) number) := by
    intro other member
    obtain ⟨original, inside, rest⟩ := spelled.origin other member
    exact ⟨original, List.mem_append_left _ inside, rest⟩
  cases entered with
  | outer kind =>
      refine ⟨?_, spelled.survivors, ?_, ?_⟩
      · intro name member
        rw [List.map_append, List.mem_append]
        exact (spelled.taken name member).imp_right .inl
      · rw [List.forall_mem_append, List.forall_mem_singleton]
        exact ⟨spelled.locals, fun child => absurd child kind⟩
      · rw [Option.toList_some, List.forall_mem_append, List.forall_mem_singleton]
        exact ⟨origin, model, by simp, .inl ⟨kind, rfl⟩⟩
  | unified kind found =>
      rw [Option.toList_none, List.append_nil]
      refine ⟨spelled.taken, spelled.survivors, ?_, origin⟩
      rw [List.forall_mem_append, List.forall_mem_singleton]
      exact ⟨spelled.locals, fun _ => spelled.survivors _ (mem_of_lookup found)⟩
  | named kind new =>
      have first := mem_taken_freeName ledger.taken (localName model.name)
      refine ⟨?_, ?_, ?_, ?_⟩
      · rw [List.forall_mem_cons]
        refine ⟨.inr (by simp), fun name member => ?_⟩
        rw [List.map_append, List.mem_append]
        exact (spelled.taken name member).imp_right .inl
      · rw [List.forall_mem_cons]
        exact ⟨first, fun entry member => List.mem_cons_of_mem _ (spelled.survivors entry member)⟩
      · rw [List.forall_mem_append, List.forall_mem_singleton]
        exact ⟨fun other member child => List.mem_cons_of_mem _ (spelled.locals other member child),
          fun _ => first⟩
      · rw [Option.toList_some, List.forall_mem_append, List.forall_mem_singleton]
        obtain ⟨number, chosen, _⟩ := freeName_spec ledger.taken (localName model.name)
        exact ⟨origin, model, by simp, .inr ⟨kind, number, chosen⟩⟩

theorem spelled_enterAll (outer : List String) (models : List Model) :
    Spelled outer models ((start outer).enterAll models).1 ((start outer).enterAll models).2 := by
  apply enterAll_invariant outer models (Spelled outer) (spelled_start outer)
  intro before model after _ ledger kept _ spelled
  exact spelled.entered (ledger.entered model)

end Naming.Ledger

/-- A name that no outer model has and that does not end in a digit is given exactly if it is the
local name of a nested model. -/
theorem Method.mem_names_unify {method : Method} {name : String}
    (ends : ∀ last ∈ name.toList.getLast?, last.isDigit = false)
    (inner : name ∉ method.outerNames) :
    name ∈ method.unify.models.map Model.name ↔
      ∃ model ∈ method.models, model.kind = .child ∧ localName model.name = name := by
  have spelled := Naming.Ledger.spelled_enterAll method.outerNames method.models
  rw [← unify_models] at spelled
  constructor
  · intro member
    obtain ⟨model, kept, named⟩ := List.mem_map.mp member
    obtain ⟨original, inside, ⟨outer, same⟩ | ⟨child, number, chosen⟩⟩ := spelled.origin model kept
    · have isOuter : name ∈ method.outerNames :=
        mem_outerNamesOf.mpr ⟨original, inside, outer, same.symm.trans named⟩
      exact absurd isOuter inner
    · exact ⟨original, inside, child, eq_of_candidate_eq ends (chosen.symm.trans named)⟩
  · rintro ⟨model, member, child, rfl⟩
    exact (spelled.taken _ (spelled.locals model member child)).resolve_left inner

end ApiSchema
