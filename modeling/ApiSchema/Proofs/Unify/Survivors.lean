import ApiSchema.Proofs.Unify.Fingerprint
import ApiSchema.Proofs.Unify.Names

/-!
The models that survive unification. Each comes from a model of its list, in the order of the list;
its name is the first one that was free when its turn came, and no two survivors with one local name
have the same fields.
-/

set_option autoImplicit false

namespace ApiSchema

open ApiSchema.Naming

/-- The local name if it is not in use, or else the local name with the least number that makes a
name that is not in use. -/
def IsFirstFree (inUse : String → Prop) (localPart name : String) : Prop :=
  (¬ inUse localPart ∧ name = localPart) ∨
    (inUse localPart ∧ ∃ number, 1 ≤ number ∧ name = localPart ++ toString number ∧
      ¬ inUse name ∧ ∀ smaller, 1 ≤ smaller → smaller < number →
        inUse (localPart ++ toString smaller))

theorem candidate_of_pos {localPart : String} {number : Nat} (positive : 1 ≤ number) :
    candidate localPart number = localPart ++ toString number := by
  obtain ⟨before, rfl⟩ := Nat.exists_eq_add_of_le' positive
  exact candidate_succ localPart before

theorem isFirstFree_freeName {taken : List String} {inUse : String → Prop}
    (known : ∀ name, name ∈ taken ↔ inUse name) (localPart : String) :
    IsFirstFree inUse localPart (freeName taken localPart) := by
  obtain ⟨number, chosen, unused, smaller⟩ := freeName_spec taken localPart
  rw [known] at unused
  rw [chosen]
  cases number with
  | zero => exact .inl ⟨unused, rfl⟩
  | succ number =>
      refine .inr ⟨(known _).mp (smaller 0 (Nat.succ_pos number)), number + 1,
        Nat.succ_pos number, rfl, unused, ?_⟩
      intro other positive less
      have taken := (known _).mp (smaller other less)
      rwa [candidate_of_pos positive] at taken

theorem IsFirstFree.not_inUse {inUse : String → Prop} {localPart name : String}
    (first : IsFirstFree inUse localPart name) : ¬ inUse name := by
  rcases first with ⟨unused, rfl⟩ | ⟨_, _, _, _, unused, _⟩
  · exact unused
  · exact unused

/-- Models that were kept, each behind the model that it comes from. -/
abbrev Survivors := List (Model × Model)

/-- Whether a nested model among the survivors has the name. -/
def Survivors.HasName (survivors : Survivors) (name : String) : Prop :=
  ∃ survivor ∈ survivors, survivor.1.kind = .child ∧ survivor.2.name = name

theorem Survivors.hasName_append {first second : Survivors} {name : String} :
    HasName (first ++ second) name ↔ first.HasName name ∨ second.HasName name := by
  simp only [HasName, List.mem_append, or_and_right, exists_or]

namespace Naming.Ledger

def survivor? (ledger : Ledger) (model : Model) : Option (Model × Model) :=
  (ledger.enter model).2.map fun kept => (model, kept)

def survivorsAmong (ledger : Ledger) : List Model → Survivors
  | [] => []
  | model :: rest => (ledger.survivor? model).toList ++ (ledger.enter model).1.survivorsAmong rest

theorem survivorsAmong_append (ledger : Ledger) (first second : List Model) :
    ledger.survivorsAmong (first ++ second) =
      ledger.survivorsAmong first ++ (ledger.enterAll first).1.survivorsAmong second := by
  induction first generalizing ledger with
  | nil => rfl
  | cons model rest ih =>
      rw [List.cons_append, survivorsAmong, survivorsAmong, ih, enterAll_cons, List.append_assoc]

theorem survivorsAmong_singleton (ledger : Ledger) (model : Model) :
    ledger.survivorsAmong [model] = (ledger.survivor? model).toList :=
  List.append_nil _

end Naming.Ledger

/-- The survivors come from the models in their order, among them every model that is not nested,
which keeps its name; they make up the models that are kept. -/
structure Survivors.Of (survivors : Survivors) (models kept : List Model) : Prop where
  kept : survivors.map Prod.snd = kept
  order : (survivors.map Prod.fst).Sublist models
  outer : (survivors.map Prod.fst).filter (fun model => model.kind != .child) =
    models.filter fun model => model.kind != .child
  kind : ∀ survivor ∈ survivors, survivor.2.kind = survivor.1.kind
  name : ∀ survivor ∈ survivors, survivor.1.kind ≠ .child → survivor.2.name = survivor.1.name

namespace Naming.Ledger

theorem Entered.of {ledger next : Ledger} {model : Model} {added : Option Model}
    (entered : Entered ledger model next added) :
    Survivors.Of (added.map fun kept => (model, kept)).toList [model] added.toList := by
  cases entered with
  | outer kind => exact ⟨rfl, List.Sublist.refl _, rfl, by simp, by simp⟩
  | unified kind found => exact ⟨rfl, List.nil_sublist _, by simp [kind], by simp, by simp⟩
  | named kind new => exact ⟨rfl, List.Sublist.refl _, rfl, by simp [kind], by simp [kind]⟩

/-- What is kept of a list comes from it in order. -/
theorem of_survivorsAmong (ledger : Ledger) (models : List Model) :
    (ledger.survivorsAmong models).Of models (ledger.enterAll models).2 := by
  induction models generalizing ledger with
  | nil => exact ⟨rfl, List.Sublist.refl _, rfl, by simp [survivorsAmong], by simp [survivorsAmong]⟩
  | cons model rest ih =>
      have first := (ledger.entered model).of
      have later := ih (ledger.enter model).1
      rw [survivorsAmong, survivor?, enterAll_cons]
      refine ⟨?_, ?_, ?_, ?_, ?_⟩
      · rw [List.map_append, first.kept, later.kept]
      · rw [List.map_append]
        exact first.order.append later.order
      · rw [List.map_append, List.filter_append, first.outer, later.outer, ← List.filter_append,
          List.singleton_append]
      · rw [List.forall_mem_append]
        exact ⟨first.kind, later.kind⟩
      · rw [List.forall_mem_append]
        exact ⟨first.name, later.name⟩

def entryOf (survivor : Model × Model) : (String × String) × String :=
  ((localName survivor.1.name, fingerprint (localName survivor.1.name) survivor.2.fields),
    survivor.2.name)

/-- A nested survivor has the first name that was free when its turn came, and other fields than
the survivors before it that have its local name. -/
structure Fresh (outer : List String) (before : Survivors) (survivor : Model × Model) : Prop where
  named : IsFirstFree (fun name => name ∈ outer ∨ before.HasName name)
    (localName survivor.1.name) survivor.2.name
  told : ∀ other ∈ before, other.1.kind = .child →
    localName other.1.name = localName survivor.1.name →
    other.2.fields.map Field.essence ≠ survivor.2.fields.map Field.essence

/-- The names in use are those of outer models and those that were given, what is known of survivors
is what they are, and each nested one was fresh. -/
structure Recorded (outer : List String) (survivors : Survivors) (ledger : Ledger) : Prop where
  taken : ∀ name, name ∈ ledger.taken ↔ name ∈ outer ∨ survivors.HasName name
  known : ∀ entry, entry ∈ ledger.survivors ↔
    ∃ survivor ∈ survivors, survivor.1.kind = .child ∧ entry = entryOf survivor
  fresh : ∀ before survivor after, survivors = before ++ survivor :: after →
    survivor.1.kind = .child → Fresh outer before survivor

theorem recorded_start (outer : List String) : Recorded outer [] (start outer) where
  taken := by simp [start, Survivors.HasName]
  known := by simp [start]
  fresh := by simp

variable {outer : List String} {survivors : Survivors} {ledger : Ledger} {model : Model}

/-- A model that is new has other fields than the survivors with its local name. -/
theorem Recorded.fresh_freeName (recorded : Recorded outer survivors ledger)
    (new : ledger.survivors.lookup (ledger.key model) = none) :
    Fresh outer survivors (model, ⟨freeName ledger.taken (localName model.name), .child,
      ledger.renameFields model.fields⟩) where
  named := isFirstFree_freeName recorded.taken _
  told := by
    intro other member child sameName sameFields
    have held : entryOf other ∈ ledger.survivors :=
      (recorded.known _).mpr ⟨other, member, child, rfl⟩
    have sameKey : (entryOf other).1 = ledger.key model := by
      unfold entryOf key
      rw [sameName, fingerprint_congr sameFields]
    have unknown := List.lookup_eq_none_iff.mp new _ held
    rw [sameKey] at unknown
    simp at unknown

/-- One entry keeps the record. -/
theorem Recorded.entered (recorded : Recorded outer survivors ledger) {next : Ledger}
    {added : Option Model} (entered : Entered ledger model next added) :
    Recorded outer (survivors ++ (added.map fun kept => (model, kept)).toList) next := by
  cases entered with
  | outer kind =>
      rw [Option.map_some, Option.toList_some]
      refine ⟨?_, ?_, forall_split_snoc recorded.fresh fun child => absurd child kind⟩
      · intro name
        rw [recorded.taken, Survivors.hasName_append]
        simp [Survivors.HasName, kind]
      · intro entry
        rw [recorded.known]
        simp [kind, or_and_right, exists_or]
  | unified kind found =>
      rw [Option.map_none, Option.toList_none, List.append_nil]
      exact ⟨recorded.taken, recorded.known, recorded.fresh⟩
  | named kind new =>
      rw [Option.map_some, Option.toList_some]
      refine ⟨?_, ?_, forall_split_snoc recorded.fresh fun _ => recorded.fresh_freeName new⟩
      · intro name
        rw [List.mem_cons, recorded.taken, Survivors.hasName_append]
        simp only [Survivors.HasName, List.mem_singleton, exists_eq_left, kind, true_and]
        rw [or_comm, or_assoc, eq_comm]
      · intro entry
        rw [List.mem_cons, recorded.known]
        simp only [List.mem_append, List.mem_singleton, or_and_right, exists_or, exists_eq_left,
          kind, true_and]
        exact or_comm

/-- What is recorded of a whole list. -/
theorem recorded_enterAll (outer : List String) (models : List Model) :
    Recorded outer ((start outer).survivorsAmong models) ((start outer).enterAll models).1 := by
  apply enterAll_invariant outer models
    (fun before ledger _ => Recorded outer ((start outer).survivorsAmong before) ledger)
    (recorded_start outer)
  intro before model after _ ledger kept reached recorded
  have grown := recorded.entered (ledger.entered model)
  rw [survivorsAmong_append, survivorsAmong_singleton, reached]
  exact grown

/-- What holds of each item and any item before it holds of all pairs in order. -/
theorem pairwise_of_split {α : Type} {items : List α} {R : α → α → Prop}
    (each : ∀ before item after, items = before ++ item :: after → ∀ other ∈ before, R other item) :
    items.Pairwise R := by
  induction items using List.reverseRecOn with
  | nil => exact .nil
  | append_singleton rest last ih =>
      rw [List.pairwise_append]
      refine ⟨ih ?_, List.pairwise_singleton _ _, ?_⟩
      · intro before item after split
        exact each before item (after ++ [last]) (by rw [split]; simp)
      · intro other member final isLast
        rw [List.mem_singleton.mp isLast]
        exact each rest last [] rfl other member

/-- The nested survivors have different names. -/
theorem Recorded.nodup_names (recorded : Recorded outer survivors ledger) :
    ((survivors.filter fun survivor => survivor.1.kind == .child).map fun survivor =>
      survivor.2.name).Nodup := by
  rw [List.Nodup, List.pairwise_map, List.pairwise_filter]
  apply pairwise_of_split
  intro before survivor after split other member child childToo same
  rw [beq_iff_eq] at child childToo
  apply (recorded.fresh before survivor after split childToo).named.not_inUse
  exact .inr ⟨other, member, child, same⟩

/-- No nested survivor has the name of an outer model. -/
theorem Recorded.not_mem_outer (recorded : Recorded outer survivors ledger)
    {survivor : Model × Model} (member : survivor ∈ survivors) (child : survivor.1.kind = .child) :
    survivor.2.name ∉ outer := by
  obtain ⟨before, after, split⟩ := List.append_of_mem member
  intro isOuter
  exact (recorded.fresh before survivor after split child).named.not_inUse (.inl isOuter)

end Naming.Ledger

/-- The search for a name of a local name passes candidates that are in use only, and ends at one
that is free. -/
structure Naming.Numbering.SearchEnds (numbering : Numbering) (localPart : String) : Prop where
  forward : numbering.firstNumber localPart ≤ numbering.nextNumber localPart
  free : candidate localPart (numbering.nextNumber localPart) ∉ numbering.taken
  passed : ∀ number, numbering.firstNumber localPart ≤ number →
    number < numbering.nextNumber localPart → candidate localPart number ∈ numbering.taken

theorem Naming.Numbering.searchEnds (numbering : Numbering) (localPart : String) :
    numbering.SearchEnds localPart := by
  obtain ⟨forward, free, passed⟩ :=
    freeNumber_spec numbering.taken localPart (numbering.firstNumber localPart)
  exact ⟨forward, free, passed⟩

namespace Method

open Naming (Ledger Numbering)

def paramSurvivors (method : Method) : Survivors :=
  (Ledger.start method.outerNames).survivorsAmong method.params

def responseSurvivors (method : Method) : Survivors :=
  method.paramLedger.survivorsAmong method.responses

def survivors (method : Method) : Survivors := method.paramSurvivors ++ method.responseSurvivors

theorem of_paramSurvivors (method : Method) :
    method.paramSurvivors.Of method.params method.unify.params := by
  rw [unify_params]
  exact Ledger.of_survivorsAmong _ _

theorem of_responseSurvivors (method : Method) :
    method.responseSurvivors.Of method.responses method.unify.responses := by
  rw [unify_responses]
  exact Ledger.of_survivorsAmong _ _

theorem survivors_eq (method : Method) :
    method.survivors = (Ledger.start method.outerNames).survivorsAmong method.models :=
  (Ledger.survivorsAmong_append _ _ _).symm

theorem of_survivors (method : Method) : method.survivors.Of method.models method.unify.models := by
  rw [survivors_eq, unify_models]
  exact Ledger.of_survivorsAmong _ _

theorem recorded_survivors (method : Method) :
    ∃ ledger, Ledger.Recorded method.outerNames method.survivors ledger := by
  rw [survivors_eq]
  exact ⟨_, Ledger.recorded_enterAll method.outerNames method.models⟩

/-- A model that was kept is that of a survivor. -/
theorem exists_survivor {method : Method} {model : Model} (member : model ∈ method.unify.models) :
    ∃ survivor ∈ method.survivors, survivor.2 = model ∧ survivor.1.kind = model.kind := by
  have origin := method.of_survivors
  rw [← origin.kept] at member
  obtain ⟨survivor, inside, rfl⟩ := List.mem_map.mp member
  exact ⟨survivor, inside, rfl, (origin.kind survivor inside).symm⟩

/-- The names of outer models stay as they are. -/
theorem outerNames_unify (method : Method) : method.unify.outerNames = method.outerNames := by
  have origin := method.of_survivors
  unfold outerNames
  rw [← origin.outer, ← origin.kept, List.filter_map, List.filter_map, List.map_map, List.map_map]
  have kinds : ∀ survivor ∈ method.survivors,
      ((fun model : Model => model.kind != .child) ∘ Prod.snd) survivor =
        ((fun model : Model => model.kind != .child) ∘ Prod.fst) survivor := by
    intro survivor member
    simp only [Function.comp_apply, origin.kind survivor member]
  rw [List.filter_congr kinds]
  apply List.map_congr_left
  intro survivor member
  obtain ⟨inside, isOuter⟩ := List.mem_filter.mp member
  exact origin.name survivor inside (by simpa using isOuter)

/-- What unification makes of names. Nested models have different names, which no outer model has.
Each has the first name that was free when its turn came; those with one local name have different
fields. Outer models keep their names and places, and the search for a name ends. -/
structure Shortened (method : Method) : Prop where
  distinct : ((method.unify.models.filter fun model => model.kind == .child).map Model.name).Nodup
  apart : ∀ nested ∈ method.unify.models, nested.kind = .child →
    ∀ outer ∈ method.unify.models, outer.kind ≠ .child → nested.name ≠ outer.name
  fresh : ∀ before survivor after, method.survivors = before ++ survivor :: after →
    survivor.1.kind = .child → Ledger.Fresh method.outerNames before survivor
  params : method.paramSurvivors.Of method.params method.unify.params
  responses : method.responseSurvivors.Of method.responses method.unify.responses
  ends : ∀ before after, method.models = before ++ after →
    ∀ localPart, ((Numbering.start method.outerNames).enterAll before).1.SearchEnds localPart

theorem nodup_children_unify (method : Method) :
    ((method.unify.models.filter fun model => model.kind == .child).map Model.name).Nodup := by
  obtain ⟨_, recorded⟩ := method.recorded_survivors
  have origin := method.of_survivors
  have kinds : ∀ survivor ∈ method.survivors,
      ((fun model : Model => model.kind == .child) ∘ Prod.snd) survivor =
        (survivor.1.kind == .child) := by
    intro survivor member
    simp only [Function.comp_apply, origin.kind survivor member]
  rw [← origin.kept, List.filter_map, List.map_map, List.filter_congr kinds]
  exact recorded.nodup_names

theorem not_mem_outerNames_unify {method : Method} {nested : Model}
    (member : nested ∈ method.unify.models) (child : nested.kind = .child) :
    nested.name ∉ method.outerNames := by
  obtain ⟨_, recorded⟩ := method.recorded_survivors
  obtain ⟨survivor, inside, rfl, kind⟩ := exists_survivor member
  exact recorded.not_mem_outer inside (kind.trans child)

/-- Every method is shortened, whatever its models are. -/
theorem shortened_unify (method : Method) : method.Shortened where
  distinct := method.nodup_children_unify
  apart := by
    intro nested member child outer outerMember isOuter same
    apply not_mem_outerNames_unify member child
    rw [same, ← outerNames_unify]
    exact mem_outerNamesOf.mpr ⟨outer, outerMember, isOuter, rfl⟩
  fresh := by
    obtain ⟨_, recorded⟩ := method.recorded_survivors
    exact recorded.fresh
  params := method.of_paramSurvivors
  responses := method.of_responseSurvivors
  ends := fun _ _ _ localPart => Numbering.searchEnds _ localPart

end Method

end ApiSchema
