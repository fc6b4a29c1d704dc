import ApiSchema.Proofs.Naming.FreeName

/-!
Unification without numbers. The number kept for a local name never passes a free candidate: all
candidates before it are in use. So each model gets the first candidate that is free, as if the
search began at the local name itself every time, and the numbers can be forgotten.
-/

set_option autoImplicit false

namespace ApiSchema

open ApiSchema.Naming

namespace Naming.Ledger

def enter (ledger : Ledger) (model : Model) : Ledger × Option Model :=
  let fields := model.fields.map ledger.renameField
  if model.kind != .child then (ledger, some { model with fields })
  else
    let localPart := localName model.name
    let key := (localPart, fingerprint localPart fields)
    match ledger.survivors.lookup key with
    | some survivor => ({ ledger with renames := (model.name, survivor) :: ledger.renames }, none)
    | none =>
        let name := freeName ledger.taken localPart
        (⟨(model.name, name) :: ledger.renames, (key, name) :: ledger.survivors,
          name :: ledger.taken⟩, some ⟨name, model.kind, fields⟩)

def enterAll (ledger : Ledger) : List Model → Ledger × List Model
  | [] => (ledger, [])
  | model :: rest =>
      let (entered, kept) := ledger.enter model
      let (final, models) := enterAll entered rest
      (final, kept.toList ++ models)

end Naming.Ledger

namespace Naming.Numbering

/-- The candidates before the number from which the search goes on are in use. -/
def Tried (numbering : Numbering) : Prop :=
  ∀ localPart, ∀ number < numbering.firstNumber localPart,
    candidate localPart number ∈ numbering.taken

theorem tried_start (taken : List String) : (start taken).Tried := by
  intro localPart number less
  exact absurd less (Nat.not_lt_zero number)

variable {numbering : Numbering}

/-- The number that is found for a local name is that of its first free candidate. -/
theorem Tried.candidate_nextNumber (tried : numbering.Tried) (localPart : String) :
    candidate localPart (numbering.nextNumber localPart) = freeName numbering.taken localPart :=
  candidate_freeNumber (tried localPart)

/-- All candidates up to the one that was found are in use with it. -/
theorem Tried.mem_taken_of_le (tried : numbering.Tried) {localPart : String} {number : Nat}
    (upTo : number < numbering.nextNumber localPart + 1) :
    candidate localPart number ∈
      candidate localPart (numbering.nextNumber localPart) :: numbering.taken := by
  obtain ⟨_, _, passed⟩ :=
    freeNumber_spec numbering.taken localPart (numbering.firstNumber localPart)
  rcases Nat.lt_succ_iff_lt_or_eq.mp upTo with less | rfl
  · rcases Nat.lt_or_ge number (numbering.firstNumber localPart) with before | behind
    · exact List.mem_cons_of_mem _ (tried localPart number before)
    · exact List.mem_cons_of_mem _ (passed number behind less)
  · exact List.mem_cons_self

/-- An entry does the same without numbers, and passes no free candidate. -/
theorem Tried.enter (tried : numbering.Tried) (model : Model) :
    ((numbering.enter model).1.toLedger, (numbering.enter model).2) =
        numbering.toLedger.enter model ∧
      (numbering.enter model).1.Tried := by
  unfold Numbering.enter Ledger.enter
  dsimp only
  split
  · exact ⟨rfl, tried⟩
  · cases found : numbering.survivors.lookup (localName model.name,
        fingerprint (localName model.name) (model.fields.map numbering.renameField)) with
    | some survivor => exact ⟨rfl, tried⟩
    | none =>
      dsimp only
      refine ⟨by rw [tried.candidate_nextNumber], ?_⟩
      intro localPart number less
      unfold firstNumber at less
      rw [List.lookup_cons] at less
      dsimp only
      split at less
      · rename_i same
        obtain rfl := eq_of_beq same
        exact tried.mem_taken_of_le less
      · exact List.mem_cons_of_mem _ (tried localPart number less)

/-- A list of entries does the same without numbers. -/
theorem Tried.enterAll (tried : numbering.Tried) (models : List Model) :
    ((numbering.enterAll models).1.toLedger, (numbering.enterAll models).2) =
        numbering.toLedger.enterAll models ∧
      (numbering.enterAll models).1.Tried := by
  induction models generalizing numbering with
  | nil => exact ⟨rfl, tried⟩
  | cons model rest ih =>
      obtain ⟨first, triedNext⟩ := tried.enter model
      obtain ⟨later, triedLast⟩ := ih triedNext
      refine ⟨?_, triedLast⟩
      simp only [Numbering.enterAll, Ledger.enterAll, ← first, ← later]

end Naming.Numbering

end ApiSchema
