import ApiSchema.Proofs.Unify.Numbering

set_option autoImplicit false

namespace ApiSchema

open ApiSchema.Naming

namespace Naming.Ledger

def start (outer : List String) : Ledger := ⟨[], [], outer⟩

def renameFields (ledger : Ledger) (fields : List Field) : List Field :=
  fields.map ledger.renameField

/-- What tells a nested model from others. -/
def key (ledger : Ledger) (model : Model) : String × String :=
  (localName model.name, fingerprint (localName model.name) (ledger.renameFields model.fields))

/-- The three ways in which a model is entered. -/
inductive Entered (ledger : Ledger) (model : Model) : Ledger → Option Model → Prop
  | outer (kind : model.kind ≠ .child) :
      Entered ledger model ledger (some { model with fields := ledger.renameFields model.fields })
  | unified {survivor : String} (kind : model.kind = .child)
      (found : ledger.survivors.lookup (ledger.key model) = some survivor) :
      Entered ledger model
        { ledger with renames := (model.name, survivor) :: ledger.renames } none
  | named (kind : model.kind = .child)
      (new : ledger.survivors.lookup (ledger.key model) = none) :
      Entered ledger model
        ⟨(model.name, freeName ledger.taken (localName model.name)) :: ledger.renames,
          (ledger.key model, freeName ledger.taken (localName model.name)) :: ledger.survivors,
          freeName ledger.taken (localName model.name) :: ledger.taken⟩
        (some ⟨freeName ledger.taken (localName model.name), .child,
          ledger.renameFields model.fields⟩)

theorem enter_outer (ledger : Ledger) {model : Model} (kind : model.kind ≠ .child) :
    ledger.enter model = (ledger, some { model with fields := ledger.renameFields model.fields }) := by
  have isOuter : (model.kind != .child) = true := by simp [kind]
  simp only [enter, isOuter, ↓reduceIte, renameFields]

theorem entered (ledger : Ledger) (model : Model) :
    Entered ledger model (ledger.enter model).1 (ledger.enter model).2 := by
  by_cases kind : model.kind = .child
  · have isChild : (model.kind != .child) = false := by simp [kind]
    cases found : ledger.survivors.lookup (ledger.key model) with
    | some survivor =>
        have result : ledger.enter model =
            ({ ledger with renames := (model.name, survivor) :: ledger.renames }, none) := by
          unfold key renameFields at found
          simp only [enter, isChild, Bool.false_eq_true, ↓reduceIte, found]
        rw [result]
        exact .unified kind found
    | none =>
        have result : ledger.enter model =
            (⟨(model.name, freeName ledger.taken (localName model.name)) :: ledger.renames,
              (ledger.key model, freeName ledger.taken (localName model.name)) :: ledger.survivors,
              freeName ledger.taken (localName model.name) :: ledger.taken⟩,
            some ⟨freeName ledger.taken (localName model.name), .child,
              ledger.renameFields model.fields⟩) := by
          have new := found
          unfold key renameFields at new
          simp only [enter, new, kind]
          rfl
        rw [result]
        exact .named kind found
  · rw [ledger.enter_outer kind]
    exact .outer kind

@[simp] theorem enterAll_nil (ledger : Ledger) : ledger.enterAll [] = (ledger, []) := rfl

theorem enterAll_cons (ledger : Ledger) (model : Model) (rest : List Model) :
    ledger.enterAll (model :: rest) =
      (((ledger.enter model).1.enterAll rest).1,
        (ledger.enter model).2.toList ++ ((ledger.enter model).1.enterAll rest).2) := rfl

theorem enterAll_append (ledger : Ledger) (first second : List Model) :
    ledger.enterAll (first ++ second) =
      (((ledger.enterAll first).1.enterAll second).1,
        (ledger.enterAll first).2 ++ ((ledger.enterAll first).1.enterAll second).2) := by
  induction first generalizing ledger with
  | nil => simp
  | cons model rest ih =>
      rw [List.cons_append, enterAll_cons, ih, enterAll_cons]
      simp only [List.append_assoc]

theorem enterAll_singleton (ledger : Ledger) (model : Model) :
    ledger.enterAll [model] = ((ledger.enter model).1, (ledger.enter model).2.toList) := by
  rw [enterAll_cons, enterAll_nil, List.append_nil]

/-- An outer model at the end stays there. -/
theorem enterAll_outer (ledger : Ledger) (models : List Model) {root : Model}
    (kind : root.kind ≠ .child) :
    (ledger.enterAll (models ++ [root])).2 = (ledger.enterAll models).2 ++
      [{ root with fields := (ledger.enterAll models).1.renameFields root.fields }] := by
  rw [enterAll_append, enterAll_singleton, enter_outer _ kind, Option.toList_some]

/-- What every entry preserves holds after a list of entries. The invariant speaks of the models that
were entered, the ledger after them and the models that were kept. -/
theorem enterAll_invariant (outer : List String) (all : List Model)
    (Inv : List Model → Ledger → List Model → Prop) (first : Inv [] (start outer) [])
    (step : ∀ before model after, all = before ++ model :: after →
      ∀ ledger kept, (start outer).enterAll before = (ledger, kept) → Inv before ledger kept →
      Inv (before ++ [model]) (ledger.enter model).1 (kept ++ (ledger.enter model).2.toList)) :
    Inv all ((start outer).enterAll all).1 ((start outer).enterAll all).2 := by
  have every : ∀ before after, all = before ++ after →
      Inv before ((start outer).enterAll before).1 ((start outer).enterAll before).2 := by
    intro before
    induction before using List.reverseRecOn with
    | nil =>
        intro after _
        exact first
    | append_singleton before model ih =>
        intro after split
        have split : all = before ++ model :: after := by
          rw [split, List.append_assoc, List.singleton_append]
        have entered := step before model after split _ _ rfl (ih (model :: after) split)
        rw [enterAll_append, enterAll_singleton]
        exact entered
  exact every all [] (List.append_nil all).symm

end Naming.Ledger

namespace Method

open Naming (Ledger Numbering)

/-- The names of the models that are not nested, which unification keeps. -/
def outerNames (method : Method) : List String :=
  (method.models.filter fun model => model.kind != .child).map Model.name

def paramLedger (method : Method) : Ledger :=
  ((Ledger.start method.outerNames).enterAll method.params).1

theorem unify_params (method : Method) :
    method.unify.params = ((Ledger.start method.outerNames).enterAll method.params).2 := by
  have params := ((Numbering.tried_start method.outerNames).enterAll method.params).1
  exact congrArg Prod.snd params

theorem unify_responses (method : Method) :
    method.unify.responses = (method.paramLedger.enterAll method.responses).2 := by
  obtain ⟨params, tried⟩ := (Numbering.tried_start method.outerNames).enterAll method.params
  have responses := (tried.enterAll method.responses).1
  have ledger : _ = method.paramLedger := congrArg Prod.fst params
  rw [← ledger]
  exact congrArg Prod.snd responses

/-- The parameters and the response are entered as one list. -/
theorem unify_models (method : Method) :
    method.unify.models = ((Ledger.start method.outerNames).enterAll method.models).2 := by
  unfold models
  rw [Ledger.enterAll_append, unify_params, unify_responses, paramLedger]

end Method

end ApiSchema
