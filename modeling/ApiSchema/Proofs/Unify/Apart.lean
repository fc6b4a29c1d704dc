import ApiSchema.Proofs.Platform.Resolved
import ApiSchema.Proofs.Unify.Renaming
import ApiSchema.Proofs.Unify.Survivors

/-!
Nested models with different fields. Where their fields can be read from the texts that are hashed,
two of them with one local name have different texts, and so they get different names. A field whose
name holds a line of such a text is read as two fields.
-/

set_option autoImplicit false

namespace ApiSchema

open ApiSchema.Naming

/-- A nested model as unification meets it: its local name, its fields with the names that their
types have by then, and the name that it gets. -/
structure Meeting where
  localPart : String
  fields : List Field
  name : String

namespace Meeting

def text (meeting : Meeting) : String := fingerprintText meeting.localPart meeting.fields

/-- What tells the model from others of its local name: names, types and elements of the fields, and
whether they are required. -/
def essences (meeting : Meeting) : List (String × String × Option String × Bool) :=
  meeting.fields.map Field.essence

def entry (meeting : Meeting) : (String × String) × String :=
  ((meeting.localPart, Digest.sha256Hex meeting.text), meeting.name)

end Meeting

namespace Naming.Ledger

def meet (ledger : Ledger) (model : Model) : Meeting :=
  ⟨localName model.name, ledger.renameFields model.fields,
    (ledger.enter model).1.rename model.name⟩

/-- How the nested ones of a list of models are met. -/
def meetings (ledger : Ledger) : List Model → List Meeting
  | [] => []
  | model :: rest =>
      (if model.kind = .child then [ledger.meet model] else []) ++
        (ledger.enter model).1.meetings rest

theorem texts_eq (ledger : Ledger) (models : List Model) :
    ledger.texts models = (ledger.meetings models).map Meeting.text := by
  induction models generalizing ledger with
  | nil => rfl
  | cons model rest ih =>
      rw [texts, meetings, List.map_append, ih]
      split <;> rfl

theorem exists_of_mem_meetings {ledger : Ledger} {models : List Model} {meeting : Meeting}
    (member : meeting ∈ ledger.meetings models) :
    ∃ before model after, models = before ++ model :: after ∧ model.kind = .child ∧
      meeting = (ledger.enterAll before).1.meet model := by
  induction models generalizing ledger with
  | nil => cases member
  | cons model rest ih =>
      rw [meetings, List.mem_append] at member
      rcases member with here | later
      · split at here
        · rename_i child
          exact ⟨[], model, rest, rfl, child, List.mem_singleton.mp here⟩
        · cases here
      · obtain ⟨before, other, after, rfl, child, met⟩ := ih later
        exact ⟨model :: before, other, after, rfl, child, met⟩

section

variable {ledger next : Ledger} {model : Model} {added : Option Model}

/-- What is known of survivors is not forgotten. -/
theorem Entered.survivors_subset (entered : Entered ledger model next added) :
    ledger.survivors ⊆ next.survivors := by
  cases entered with
  | outer kind => exact List.Subset.refl _
  | unified kind found => exact List.Subset.refl _
  | named kind new => exact List.subset_cons_self _ _

/-- A nested model is known under the name that it gets, be it new or unified. -/
theorem Entered.key_mem_survivors (entered : Entered ledger model next added)
    (child : model.kind = .child) :
    (ledger.key model, next.rename model.name) ∈ next.survivors := by
  cases entered with
  | outer kind => exact absurd child kind
  | unified kind found =>
      rw [rename_of_lookup List.lookup_cons_self]
      exact mem_of_lookup found
  | named kind new =>
      rw [rename_of_lookup List.lookup_cons_self]
      exact List.mem_cons_self

/-- A nested model that is kept has the fields and the name that it was met with. -/
theorem Entered.of_kept {kept : Model} (entered : Entered ledger model next (some kept))
    (child : model.kind = .child) :
    kept.fields = ledger.renameFields model.fields ∧ kept.name = next.rename model.name := by
  cases entered with
  | outer kind => exact absurd child kind
  | named kind new => exact ⟨rfl, (rename_of_lookup List.lookup_cons_self).symm⟩

end

theorem survivors_subset_enterAll (ledger : Ledger) (models : List Model) :
    ledger.survivors ⊆ (ledger.enterAll models).1.survivors := by
  induction models generalizing ledger with
  | nil => exact List.Subset.refl _
  | cons model rest ih =>
      exact List.Subset.trans (ledger.entered model).survivors_subset (ih (ledger.enter model).1)

theorem entry_mem_survivors {ledger : Ledger} {models : List Model} {meeting : Meeting}
    (member : meeting ∈ ledger.meetings models) :
    meeting.entry ∈ (ledger.enterAll models).1.survivors := by
  obtain ⟨before, model, after, rfl, child, rfl⟩ := exists_of_mem_meetings member
  rw [enterAll_append]
  have known := (((ledger.enterAll before).1).entered model).key_mem_survivors child
  exact survivors_subset_enterAll _ after known

/-- A nested survivor was met with the fields and the name that it has. -/
theorem exists_meeting (ledger : Ledger) {models : List Model} {survivor : Model × Model}
    (member : survivor ∈ ledger.survivorsAmong models) (child : survivor.1.kind = .child) :
    (⟨localName survivor.1.name, survivor.2.fields, survivor.2.name⟩ : Meeting) ∈
      ledger.meetings models := by
  induction models generalizing ledger with
  | nil => cases member
  | cons model rest ih =>
      rw [survivorsAmong, List.mem_append] at member
      rw [meetings, List.mem_append]
      rcases member with here | later
      · obtain ⟨kept, isKept, rfl⟩ := Option.map_eq_some_iff.mp (Option.mem_toList.mp here)
        have entered := ledger.entered model
        rw [isKept] at entered
        obtain ⟨fields, name⟩ := entered.of_kept child
        rw [if_pos child, List.mem_singleton, meet, fields, name]
        exact .inl rfl
      · exact .inr (ih _ later)

variable {outer : List String} {survivors : Survivors} {ledger : Ledger}

/-- No two of the survivors that are known have one name. -/
theorem Recorded.eq_of_name_eq (recorded : Recorded outer survivors ledger)
    {first second : (String × String) × String} (held : first ∈ ledger.survivors)
    (heldToo : second ∈ ledger.survivors) (same : first.2 = second.2) : first = second := by
  obtain ⟨survivor, member, child, rfl⟩ := (recorded.known first).mp held
  obtain ⟨other, memberToo, childToo, rfl⟩ := (recorded.known second).mp heldToo
  have one : survivor = other :=
    List.inj_on_of_nodup_map recorded.nodup_names
      (List.mem_filter.mpr ⟨member, beq_iff_eq.mpr child⟩)
      (List.mem_filter.mpr ⟨memberToo, beq_iff_eq.mpr childToo⟩) same
  rw [one]

/-- The names that were given are not empty and hold no mark. -/
structure GivesLegible (ledger : Ledger) : Prop where
  renames : ∀ entry ∈ ledger.renames, entry.2 ≠ "" ∧ IsLegible entry.2
  survivors : ∀ entry ∈ ledger.survivors, entry.2 ≠ "" ∧ IsLegible entry.2

theorem freeName_ne_empty (taken : List String) {localPart : String} (named : localPart ≠ "") :
    freeName taken localPart ≠ "" := by
  obtain ⟨number, chosen, _, _⟩ := freeName_spec taken localPart
  obtain ⟨digits, _, spelled⟩ := toList_candidate localPart number
  intro empty
  rw [← chosen, empty] at spelled
  exact named (String.toList_eq_nil_iff.mp (List.append_eq_nil_iff.mp spelled.symm).1)

theorem GivesLegible.entered (gives : GivesLegible ledger) {model : Model}
    (legible : model.kind = .child → localName model.name ≠ "" ∧ IsLegible (localName model.name))
    {next : Ledger} {added : Option Model} (entered : Entered ledger model next added) :
    GivesLegible next := by
  cases entered with
  | outer kind => exact gives
  | unified kind found =>
      refine ⟨?_, gives.survivors⟩
      rw [List.forall_mem_cons]
      exact ⟨gives.survivors _ (mem_of_lookup found), gives.renames⟩
  | named kind new =>
      obtain ⟨named, unmarked⟩ := legible kind
      have given := And.intro (freeName_ne_empty ledger.taken named)
        (isLegible_freeName ledger.taken unmarked)
      refine ⟨?_, ?_⟩
      · rw [List.forall_mem_cons]
        exact ⟨given, gives.renames⟩
      · rw [List.forall_mem_cons]
        exact ⟨given, gives.survivors⟩

theorem givesLegible_enterAll (outer : List String) {models : List Model}
    (legible : ∀ model ∈ models, model.kind = .child →
      localName model.name ≠ "" ∧ IsLegible (localName model.name)) :
    GivesLegible ((start outer).enterAll models).1 := by
  apply enterAll_invariant outer models (fun _ ledger _ => GivesLegible ledger)
    ⟨by simp [start], by simp [start]⟩
  intro before model after split ledger kept _ gives
  exact gives.entered (legible model (by rw [split]; simp)) (ledger.entered model)

/-- A type is legible under its present name, if it was given that name or is legible itself. -/
theorem GivesLegible.rename (gives : GivesLegible ledger) {type : String}
    (legible : ledger.renames.lookup type = none → IsLegible type) :
    IsLegible (ledger.rename type) := by
  rcases ledger.rename_cases type with ⟨entry, given, same⟩ | ⟨unknown, same⟩
  · rw [← same]
    exact (gives.renames entry given).2
  · rw [same]
    exact legible unknown

theorem GivesLegible.rename_ne_empty (gives : GivesLegible ledger) {type : String}
    (named : type ≠ "") : ledger.rename type ≠ "" := by
  rcases ledger.rename_cases type with ⟨entry, given, same⟩ | ⟨_, same⟩
  · rw [← same]
    exact (gives.renames entry given).1
  · rw [same]
    exact named

end Naming.Ledger

namespace Method

open Naming (Ledger)

/-- How the nested models of the method are met. -/
def meetings (method : Method) : List Meeting :=
  (Ledger.start method.outerNames).meetings method.models

/-- The fields of nested models can be read from the texts that are hashed: no name of a field holds
a line, elements are named, and local names and the names of models that are not there are free of
marks. -/
structure Readable (method : Method) : Prop where
  names : ∀ model ∈ method.models, model.kind = .child → ∀ field ∈ model.fields,
    ¬ Field.HoldsLine field.name
  elements : ∀ model ∈ method.models, model.kind = .child → ∀ field ∈ model.fields,
    field.element ≠ some ""
  locals : ∀ model ∈ method.models, model.kind = .child →
    localName model.name ≠ "" ∧ IsLegible (localName model.name)
  references : ∀ before model after, method.models = before ++ model :: after →
    model.kind = .child → ∀ field ∈ model.fields, ∀ name ∈ field.references,
    HasChild before name ∨ IsLegible name

/-- Nested models with one local name and different fields are told apart: by the texts that are
hashed, and if these have different digests, by the names that the models get, which are names of
nested models with just their fields. -/
structure ToldApart (method : Method) : Prop where
  texts : ∀ first ∈ method.meetings, ∀ second ∈ method.meetings,
    first.localPart = second.localPart → first.essences ≠ second.essences →
    first.text ≠ second.text
  names : method.CollisionFree → ∀ first ∈ method.meetings, ∀ second ∈ method.meetings,
    first.localPart = second.localPart → first.essences ≠ second.essences →
    first.name ≠ second.name
  kept : method.CollisionFree → ∀ meeting ∈ method.meetings, ∃ model ∈ method.unify.models,
    model.kind = .child ∧ model.name = meeting.name ∧
      model.fields.map Field.essence = meeting.essences

theorem fingerprintTexts_eq (method : Method) :
    method.fingerprintTexts = method.meetings.map Meeting.text :=
  Ledger.texts_eq _ _

/-- The fields of nested models are readable when they are met. -/
theorem Readable.fields {method : Method} (readable : method.Readable) {meeting : Meeting}
    (member : meeting ∈ method.meetings) : ∀ field ∈ meeting.fields, field.Readable := by
  obtain ⟨before, model, after, split, child, rfl⟩ := Ledger.exists_of_mem_meetings member
  have inside : model ∈ method.models := by simp [split]
  have gives := Ledger.givesLegible_enterAll method.outerNames fun other (earlier : other ∈ before) =>
    readable.locals other (by simp [split, earlier])
  have back : RefersBackExcept (fun _ => True) before := fun _ _ _ _ _ _ _ _ => .inr trivial
  have closed := Ledger.closed_enterAll method.outerNames back
  intro renamed renamedMember
  obtain ⟨field, fieldMember, rfl⟩ := List.mem_map.mp renamedMember
  have legible : ∀ type, (type = field.type ∨ field.element = some type) →
      IsLegible (((Ledger.start method.outerNames).enterAll before).1.rename type) := by
    intro type held
    apply gives.rename
    intro unknown
    cases reference : Field.isReference type with
    | false => exact isLegible_of_not_isReference reference
    | true =>
        have refers := Field.mem_references.mpr ⟨held, reference⟩
        rcases readable.references before model after split child field fieldMember type refers
          with known | legible
        · exact absurd unknown (closed.known type known)
        · exact legible
  refine ⟨readable.names model inside child field fieldMember, ⟨legible _ (.inl rfl), ?_⟩, ?_⟩
  · rw [Ledger.renameField]
    cases held : field.element with
    | none => exact ⟨by simp, by simp⟩
    | some element => exact legible element (.inr held)
  · rw [Ledger.renameField]
    cases held : field.element with
    | none => simp
    | some element =>
        have named : element ≠ "" := by
          rintro rfl
          exact readable.elements model inside child field fieldMember held
        rw [Option.map_some, ne_eq, Option.some.injEq]
        exact gives.rename_ne_empty named

/-- Models with different fields have different texts. -/
theorem Readable.text_ne {method : Method} (readable : method.Readable) {first second : Meeting}
    (member : first ∈ method.meetings) (memberToo : second ∈ method.meetings)
    (sameLocal : first.localPart = second.localPart) (different : first.essences ≠ second.essences) :
    first.text ≠ second.text := by
  intro same
  rw [Meeting.text, Meeting.text, sameLocal] at same
  exact different
    (essence_eq_of_fingerprintText_eq (readable.fields member) (readable.fields memberToo) same)

/-- Models with one local name and one digest have the same fields. -/
theorem Readable.essences_eq {method : Method} (readable : method.Readable)
    (free : method.CollisionFree) {first second : Meeting} (member : first ∈ method.meetings)
    (memberToo : second ∈ method.meetings)
    (same : (first.localPart, Digest.sha256Hex first.text) =
      (second.localPart, Digest.sha256Hex second.text)) : first.essences = second.essences := by
  obtain ⟨sameLocal, sameDigest⟩ := Prod.mk.inj same
  have hashed : ∀ meeting ∈ method.meetings, meeting.text ∈ method.fingerprintTexts := by
    intro meeting inside
    rw [fingerprintTexts_eq]
    exact List.mem_map_of_mem inside
  by_contra different
  exact readable.text_ne member memberToo sameLocal different
    (free _ (hashed first member) _ (hashed second memberToo) sameDigest)

end Method

namespace Dialect

variable {α : Type} {dialect : Dialect α}

/-- The names in the forest can be read from the texts that are hashed: those of fields hold no line,
and those of models and of types without members are free of marks. -/
structure ReadableNames (dialect : Dialect α) (forest : List (Tree α)) : Prop where
  fields : ∀ tree ∈ forestNodes forest, ¬ Field.HoldsLine (dialect.name tree.label)
  models : ∀ tree ∈ forestNodes forest, dialect.isNested tree = true →
    localName (dialect.modelName tree.label) ≠ "" ∧
      IsLegible (localName (dialect.modelName tree.label))
  leaves : ∀ tree ∈ forestNodes forest, dialect.isNested tree = false →
    ∀ name ∈ (dialect.field tree.label).references, IsLegible name

theorem nestedModel_ne_empty (path : String) {label : α}
    (named : localName (dialect.modelName label) ≠ "") : dialect.nestedModel path label ≠ "" := by
  intro empty
  rw [← localName_nestedName _ [path, dialect.name label]] at named
  unfold nestedModel at empty
  rw [empty] at named
  exact named rfl

/-- The nested models of a forest have the names and elements that the forest documents. -/
theorem ReadableNames.models_forest {forest : List (Tree α)}
    (readable : dialect.ReadableNames forest) (rootName : String) {kind : ModelKind}
    (outer : kind ≠ .child) :
    ∀ model ∈ dialect.models rootName kind forest, model.kind = .child →
      (∀ field ∈ model.fields, ¬ Field.HoldsLine field.name ∧ field.element ≠ some "") ∧
        localName model.name ≠ "" ∧ IsLegible (localName model.name) := by
  have flattened := dialect.flattened "" [] forest
  obtain ⟨_, inner⟩ := flattened.forall_fields
    (P := fun field => ¬ Field.HoldsLine field.name ∧ field.element ≠ some "")
    (fun tree member _ => ⟨readable.fields tree member, fun empty => (element_field empty).2 rfl⟩)
    (by
      intro tree member branch isList path
      rw [reference_name]
      refine ⟨readable.fields tree member, fun empty => ?_⟩
      exact nestedModel_ne_empty path (readable.models tree member branch).1
        (element_reference empty).2.symm)
  rw [models_eq, List.forall_mem_append, List.forall_mem_singleton]
  refine ⟨?_, fun child => absurd child outer⟩
  intro model member _
  obtain ⟨tree, inside, branch, path, named⟩ := flattened.named model member
  refine ⟨inner model member, ?_⟩
  rw [named, nestedModel, localName_nestedName]
  exact readable.models tree inside branch

/-- A method that is made of forests with such names is readable. -/
theorem readable_of_forests {params responses : List (Tree α)} {method : Method}
    {paramName responseName : String}
    (fromParams : method.params = dialect.models paramName .param params)
    (fromResponses : method.responses = dialect.models responseName .response responses)
    (readableParams : dialect.ReadableNames params)
    (readableResponses : dialect.ReadableNames responses) : method.Readable := by
  have split : method.models = dialect.models paramName .param params ++
      dialect.models responseName .response responses := by
    rw [Method.models, fromParams, fromResponses]
  have nested : ∀ model ∈ method.models, model.kind = .child →
      (∀ field ∈ model.fields, ¬ Field.HoldsLine field.name ∧ field.element ≠ some "") ∧
        localName model.name ≠ "" ∧ IsLegible (localName model.name) := by
    rw [split, List.forall_mem_append]
    exact ⟨readableParams.models_forest paramName (by decide),
      readableResponses.models_forest responseName (by decide)⟩
  have back : RefersBackExcept IsLegible method.models := by
    have backParams := refersBack_models readableParams.leaves (refersBackExcept_nil IsLegible)
      paramName .param
    rw [split]
    exact refersBack_models readableResponses.leaves backParams responseName .response
  exact
    { names := fun model member child field inside =>
        ((nested model member child).1 field inside).1
      elements := fun model member child field inside =>
        ((nested model member child).1 field inside).2
      locals := fun model member child => (nested model member child).2
      references := fun before model after split _ => back before model after split }

end Dialect

namespace Method

open Naming (Ledger)

/-- Where fields are readable, nested models are told apart. -/
theorem toldApart_of_readable {method : Method} (readable : method.Readable) :
    method.ToldApart where
  texts := fun _ member _ memberToo => readable.text_ne member memberToo
  names := by
    intro free first member second memberToo sameLocal different sameName
    have recorded := Ledger.recorded_enterAll method.outerNames method.models
    have one := recorded.eq_of_name_eq (Ledger.entry_mem_survivors member)
      (Ledger.entry_mem_survivors memberToo) sameName
    exact different (readable.essences_eq free member memberToo (congrArg Prod.fst one))
  kept := by
    intro free meeting member
    have recorded := Ledger.recorded_enterAll method.outerNames method.models
    obtain ⟨survivor, inside, child, known⟩ :=
      (recorded.known _).mp (Ledger.entry_mem_survivors member)
    have met := Ledger.exists_meeting _ inside child
    obtain ⟨sameKey, sameName⟩ := Prod.mk.inj known
    rw [← survivors_eq] at inside
    have origin := method.of_survivors
    refine ⟨survivor.2, ?_, (origin.kind survivor inside).trans child, sameName.symm,
      readable.essences_eq free met member sameKey.symm⟩
    rw [← origin.kept]
    exact List.mem_map_of_mem inside

def itemField (name : String) (members : List String) : Tree Alibaba.Entry :=
  .node ⟨name, "com.foo.Item", "", "", none, true⟩
    (members.map fun member => .node ⟨member, "String", "", "", none, false⟩ [])

def itemMethod : Method where
  name := some "Get"
  requestName := some "get"
  params := Alibaba.dialect.models "GetParam" .param
    [itemField "x" ["a|str"], itemField "y" ["a", "b\nc"]]
  responses := Alibaba.dialect.models "GetResponse" .response [itemField "z" ["a|str"]]
  comments := []

/-- Names may hold one of the marks, or both if they hold no line. -/
theorem toldApart_itemMethod :
    itemMethod.Readable ∧ itemMethod.ToldApart ∧ itemMethod.CollisionFree ∧
      itemMethod.meetings.map Meeting.name = ["Item", "Item1", "Item"] := by
  have unbroken : ∀ forest ∈ [[itemField "x" ["a|str"], itemField "y" ["a", "b\nc"]],
      [itemField "z" ["a|str"]]], Alibaba.dialect.ReadableNames forest := by
    intro forest member
    refine ⟨?_, ?_, ?_⟩
    · have plain : ∀ tree ∈ forestNodes forest, '|' ∉ (Alibaba.dialect.name tree.label).toList ∨
          '\n' ∉ (Alibaba.dialect.name tree.label).toList := by
        revert forest
        decide +kernel
      intro tree inside
      exact (plain tree inside).elim Field.not_holdsLine_of_bar Field.not_holdsLine_of_newline
    · revert forest
      decide +kernel
    · revert forest
      decide +kernel
  have readable : itemMethod.Readable := Dialect.readable_of_forests rfl rfl
    (unbroken _ List.mem_cons_self) (unbroken _ (List.mem_cons_of_mem _ List.mem_cons_self))
  exact ⟨readable, toldApart_of_readable readable, by decide +kernel, by decide +kernel⟩

end Method

namespace Generator

def itemParam (name : String) (members : List String) : Json.Value :=
  .object [("name", .string name), ("type", .string "com.foo.Item"),
    ("complexTypeFlag", .bool true),
    ("children", .array (members.map fun member =>
      .object [("name", .string member), ("type", .string "String")]))]

def brokenItems : String :=
  withParams [itemParam "x" ["a|str||0\nb"], itemParam "y" ["a", "b"]]

/-- The two items get one name, though their members differ and no digests collide. -/
theorem read_brokenItems :
    Alibaba.platform ∈ builtinPlatforms ∧
      ∃ method, (offline.read Alibaba.platform (.payload brokenItems) none).result = .ok method ∧
        method.CollisionFree ∧
        ∃ first ∈ method.meetings, ∃ second ∈ method.meetings,
          first.localPart = second.localPart ∧ first.essences ≠ second.essences ∧
            first.text = second.text ∧ first.name = second.name := by
  refine ⟨by simp [builtinPlatforms], ?_⟩
  have read : (offline.read Alibaba.platform (.payload brokenItems) none).result.toOption.any
      (fun method => (∀ first ∈ method.fingerprintTexts, ∀ second ∈ method.fingerprintTexts,
          first = second) ∧
        ∃ first ∈ method.meetings, ∃ second ∈ method.meetings,
          first.localPart = second.localPart ∧ first.essences ≠ second.essences ∧
            first.text = second.text ∧ first.name = second.name) = true := by
    decide +kernel
  obtain ⟨method, success, held⟩ := exists_ok_of_toOption read
  obtain ⟨oneText, merged⟩ := of_decide_eq_true held
  have free : method.CollisionFree := fun first member second memberToo _ =>
    oneText first member second memberToo
  exact ⟨method, success, free, merged⟩

end Generator

end ApiSchema
