import ApiSchema.Proofs.Naming.Place
import ApiSchema.Proofs.Showing
import ApiSchema.Proofs.Unify.Names
import ApiSchema.Proofs.Unify.Renaming

/-!
What unification shows. Which fields are visible is no part of a fingerprint, so a model stands for
another whose visible fields may be others; where the models that become one show the same fields,
every outer model shows the same tree of names as before.
-/

set_option autoImplicit false

namespace ApiSchema

open ApiSchema.Naming

/-- A text is the name of a model if its local name is. -/
theorem isReference_of_localName {name : String}
    (named : Field.isReference (localName name) = true) : Field.isReference name = true := by
  by_cases marked : '@' ∈ name.toList
  · rw [Field.isReference_iff]
    refine ⟨?_, Primitive.not_isTag_of_mem marked rfl⟩
    rintro rfl
    simp at marked
  · rwa [localName_of_unmarked marked] at named

namespace Naming.Ledger

/-- The nested models of a list as they are met: their local names, and their fields with the names
that types have then. -/
def shapes (ledger : Ledger) : List Model → List (String × List Field)
  | [] => []
  | model :: rest =>
      (if model.kind = .child then [(localName model.name, ledger.renameFields model.fields)]
        else []) ++ (ledger.enter model).1.shapes rest

theorem shapes_append (ledger : Ledger) (first second : List Model) :
    ledger.shapes (first ++ second) =
      ledger.shapes first ++ (ledger.enterAll first).1.shapes second := by
  induction first generalizing ledger with
  | nil => rfl
  | cons model rest ih =>
      rw [List.cons_append, shapes, shapes, ih, enterAll_cons, List.append_assoc]

theorem shape_mem_shapes (ledger : Ledger) (before after : List Model) {model : Model}
    (kind : model.kind = .child) :
    (localName model.name, (ledger.enterAll before).1.renameFields model.fields) ∈
      ledger.shapes (before ++ model :: after) := by
  rw [shapes_append, shapes, if_pos kind]
  simp

/-- The references of a renamed field are those of the field, renamed. -/
theorem references_renameField_eq {ledger : Ledger} {field : Field}
    (plain : ∀ type, Field.isReference type = false → ledger.rename type = type)
    (reference : ∀ name ∈ field.references, Field.isReference (ledger.rename name) = true) :
    (ledger.renameField field).references = field.references.map ledger.rename := by
  have types : (ledger.renameField field).type :: (ledger.renameField field).element.toList =
      (field.type :: field.element.toList).map ledger.rename := by
    rw [renameField, List.map_cons]
    cases field.element <;> rfl
  rw [Field.references, types, Field.references, List.filter_map]
  congr 1
  apply List.filter_congr
  intro type member
  cases refers : Field.isReference type with
  | true => exact reference type (List.mem_filter.mpr ⟨member, refers⟩)
  | false => rw [Function.comp_apply, plain type refers, refers]

/-- Models of one local name whose fields differ in name, type, element or mark have different
fingerprints. -/
def ToldApart (shapes : List (String × List Field)) : Prop :=
  ∀ first ∈ shapes, ∀ second ∈ shapes, first.1 = second.1 →
    fingerprint first.1 first.2 = fingerprint second.1 second.2 →
      first.2.map Field.essence = second.2.map Field.essence

/-- Models that unification makes one have the same fields visible. -/
def Alike (visible : Field → Bool) (shapes : List (String × List Field)) : Prop :=
  ∀ first ∈ shapes, ∀ second ∈ shapes, first.1 = second.1 →
    first.2.map Field.essence = second.2.map Field.essence →
      first.2.map visible = second.2.map visible

instance (shapes : List (String × List Field)) : Decidable (ToldApart shapes) :=
  inferInstanceAs (Decidable (∀ first ∈ shapes, ∀ second ∈ shapes, first.1 = second.1 →
    fingerprint first.1 first.2 = fingerprint second.1 second.2 →
      first.2.map Field.essence = second.2.map Field.essence))

instance (visible : Field → Bool) (shapes : List (String × List Field)) :
    Decidable (Alike visible shapes) :=
  inferInstanceAs (Decidable (∀ first ∈ shapes, ∀ second ∈ shapes, first.1 = second.1 →
    first.2.map Field.essence = second.2.map Field.essence →
      first.2.map visible = second.2.map visible))

/-- The model that was kept under the name shows what the model before showed. -/
structure StandsFor (visible : Field → Bool) (before kept : List Model) (model : Model)
    (name : String) : Prop where
  reference : Field.isReference name = true
  shows : ∃ target trees, kept.find? (fun other => other.name == name) = some target ∧
    Shows visible before model.fields trees ∧ Shows visible kept target.fields trees

/-- A model of one of the shapes was kept under its name. -/
structure Survives (shapes : List (String × List Field)) (kept : List Model)
    (entry : (String × String) × String) : Prop where
  reference : Field.isReference entry.2 = true
  shape : ∃ fields, (entry.1.1, fields) ∈ shapes ∧
    entry.1.2 = fingerprint entry.1.1 fields ∧
      kept.find? (fun other => other.name == entry.2) = some ⟨entry.2, .child, fields⟩

/-- Each nested model before is stood for under the name that it has now, and each outer model shows
what it showed. -/
structure Reveals (visible : Field → Bool) (shapes : List (String × List Field))
    (before : List Model) (ledger : Ledger) (kept : List Model) : Prop where
  known : ∀ name, ledger.renames.lookup name ≠ none → HasChild before name
  nested : ∀ model ∈ before, model.kind = .child →
    StandsFor visible before kept model (ledger.rename model.name)
  survived : ∀ entry ∈ ledger.survivors, Survives shapes kept entry
  outer : ∃ shown, ShowsOuter visible before (outerModels before) shown ∧
    ShowsOuter visible kept (outerModels kept) shown

/-- The models that become one of the models can stand for each other. -/
structure Replaceable (visible : Field → Bool) (shapes : List (String × List Field))
    (models : List Model) : Prop where
  distinct : (models.map Model.name).Nodup
  named : ∀ model ∈ models, model.kind = .child →
    Field.isReference (localName model.name) = true
  back : RefersBackExcept (fun _ => False) models
  stable : ∀ ledger : Ledger, ∀ field, visible (ledger.renameField field) = visible field
  apart : ToldApart shapes
  alike : Alike visible shapes

variable {visible : Field → Bool} {shapes : List (String × List Field)}
  {before kept after : List Model} {ledger : Ledger} {model : Model}

/-- Models behind those that are there change nothing that is shown. -/
theorem StandsFor.append {name : String} (stands : StandsFor visible before kept model name)
    (more later : List Model) : StandsFor visible (before ++ more) (kept ++ later) model name where
  reference := stands.reference
  shows := by
    obtain ⟨target, trees, found, shows, showsKept⟩ := stands.shows
    refine ⟨target, trees, ?_, shows.append more, showsKept.append later⟩
    rw [List.find?_append, found, Option.some_or]

theorem Survives.append {entry : (String × String) × String} (survives : Survives shapes kept entry)
    (later : List Model) : Survives shapes (kept ++ later) entry where
  reference := survives.reference
  shape := by
    obtain ⟨fields, met, printed, found⟩ := survives.shape
    exact ⟨fields, met, printed, by rw [List.find?_append, found, Option.some_or]⟩

theorem reveals_start (visible : Field → Bool) (shapes : List (String × List Field))
    (outer : List String) : Reveals visible shapes [] (start outer) [] where
  known := by simp [start]
  nested := by simp
  survived := by simp [start]
  outer := ⟨[], .nil, .nil⟩

namespace Reveals

/-- Only names of models are renamed. -/
theorem rename_plain (reveals : Reveals visible shapes before ledger kept)
    (named : ∀ model ∈ before, model.kind = .child → Field.isReference model.name = true)
    {type : String} (plain : Field.isReference type = false) : ledger.rename type = type := by
  apply rename_of_unknown
  by_contra known
  obtain ⟨model, member, kind, rfl⟩ := reveals.known type known
  rw [named model member kind] at plain
  cases plain

/-- What the models show that stand for names, the models show that had them. -/
theorem targets (reveals : Reveals visible shapes before ledger kept)
    (distinct : (before.map Model.name).Nodup) {names : List String}
    (back : ∀ name ∈ names, HasChild before name) :
    (∀ name ∈ names, Field.isReference (ledger.rename name) = true) ∧
      ∃ models targets trees, Finds before names models ∧
        Finds kept (names.map ledger.rename) targets ∧
        Shows visible before (models.flatMap Model.fields) trees ∧
        Shows visible kept (targets.flatMap Model.fields) trees := by
  induction names with
  | nil => exact ⟨by simp, [], [], [], .nil, .nil, .nil, .nil⟩
  | cons name rest ih =>
      rw [List.forall_mem_cons] at back ⊢
      obtain ⟨⟨model, member, kind, rfl⟩, backRest⟩ := back
      obtain ⟨references, models, targets, trees, found, foundKept, shows, showsKept⟩ :=
        ih backRest
      have stands := reveals.nested model member kind
      obtain ⟨target, here, own, showsHere, showsTarget⟩ := stands.shows
      exact ⟨⟨stands.reference, references⟩, model :: models, target :: targets, here ++ trees,
        .cons (find?_of_nodup distinct member) found, .cons own foundKept,
        showsHere.beside shows, showsTarget.beside showsKept⟩

/-- Renamed fields show what the fields showed. -/
theorem renameFields (reveals : Reveals visible shapes before ledger kept)
    (distinct : (before.map Model.name).Nodup)
    (named : ∀ model ∈ before, model.kind = .child → Field.isReference model.name = true)
    (stable : ∀ field, visible (ledger.renameField field) = visible field) {fields : List Field}
    (back : ∀ field ∈ fields, ∀ name ∈ field.references, HasChild before name) :
    ∃ trees, Shows visible before fields trees ∧
      Shows visible kept (ledger.renameFields fields) trees := by
  induction fields with
  | nil => exact ⟨[], .nil, .nil⟩
  | cons field rest ih =>
      rw [List.forall_mem_cons] at back
      obtain ⟨trees, shows, showsKept⟩ := ih back.2
      change ∃ trees, _ ∧
        Shows visible kept (ledger.renameField field :: ledger.renameFields rest) trees
      cases seen : visible field with
      | false => exact ⟨trees, .hidden seen shows, .hidden ((stable field).trans seen) showsKept⟩
      | true =>
          obtain ⟨references, models, targets, members, found, foundKept, inner, innerKept⟩ :=
            reveals.targets distinct back.1
          have renamed := references_renameField_eq
            (fun _ => reveals.rename_plain named) references
          rw [← renamed] at foundKept
          exact ⟨.node field.name members :: trees, .shown seen found inner shows,
            .shown ((stable field).trans seen) foundKept innerKept showsKept⟩

/-- A nested model adds no tree of an outer one. -/
theorem outer_append (reveals : Reveals visible shapes before ledger kept)
    (kind : model.kind = .child) {later : List Model}
    (child : ∀ other ∈ later, other.kind = .child) :
    ∃ shown, ShowsOuter visible (before ++ [model]) (outerModels (before ++ [model])) shown ∧
      ShowsOuter visible (kept ++ later) (outerModels (kept ++ later)) shown := by
  obtain ⟨shown, shows, showsKept⟩ := reveals.outer
  have same : outerModels (before ++ [model]) = outerModels before := by
    simp [outerModels, kind]
  have sameKept : outerModels (kept ++ later) = outerModels kept := by
    have none : outerModels later = [] := by
      simpa [outerModels] using child
    simp only [outerModels, List.filter_append] at none ⊢
    rw [none, List.append_nil]
  rw [same, sameKept]
  exact ⟨shown, shows.append _, showsKept.append _⟩

/-- A nested model is stood for under the name that it gets. -/
theorem enterChild (reveals : Reveals visible shapes before ledger kept)
    (kind : model.kind = .child)
    (distinct : ((before ++ [model]).map Model.name).Nodup) {later : List Model}
    (child : ∀ other ∈ later, other.kind = .child) {name : String}
    (stands : StandsFor visible before (kept ++ later) model name)
    {survivors : List ((String × String) × String)} {taken : List String}
    (survived : ∀ entry ∈ survivors, Survives shapes (kept ++ later) entry) :
    Reveals visible shapes (before ++ [model])
      ⟨(model.name, name) :: ledger.renames, survivors, taken⟩ (kept ++ later) where
  known := by
    intro old known
    rw [List.lookup_cons] at known
    split at known
    · rename_i same
      exact ⟨model, by simp, kind, (beq_iff_eq.mp same).symm⟩
    · exact (reveals.known old known).append_left _
  nested := by
    rw [List.forall_mem_append, List.forall_mem_singleton]
    constructor
    · intro other member isChild
      have different : (other.name == model.name) = false := by
        rw [List.map_append, List.nodup_append] at distinct
        exact beq_false_of_ne (distinct.2.2 _ (List.mem_map_of_mem member) _ (by simp))
      have renamed : rename ⟨(model.name, name) :: ledger.renames, survivors, taken⟩ other.name =
          ledger.rename other.name := by
        simp only [rename, List.lookup_cons, different]
      rw [renamed]
      exact (reveals.nested other member isChild).append _ _
    · intro _
      have renamed : rename ⟨(model.name, name) :: ledger.renames, survivors, taken⟩ model.name =
          name := by
        simp only [rename, List.lookup_cons_self, Option.getD_some]
      have behind := stands.append [model] []
      rw [List.append_nil] at behind
      rwa [renamed]
  survived := survived
  outer := reveals.outer_append kind child

/-- An outer model shows what it showed. -/
theorem enterOuter (reveals : Reveals visible shapes before ledger kept)
    (kind : model.kind ≠ .child) {fields : List Field} {trees : List (Tree String)}
    (shows : Shows visible before model.fields trees)
    (showsKept : Shows visible kept fields trees) :
    Reveals visible shapes (before ++ [model]) ledger (kept ++ [{ model with fields }]) where
  known := fun name known => (reveals.known name known).append_left _
  nested := by
    rw [List.forall_mem_append, List.forall_mem_singleton]
    exact ⟨fun other member isChild => (reveals.nested other member isChild).append _ _,
      fun child => absurd child kind⟩
  survived := fun entry member => (reveals.survived entry member).append _
  outer := by
    obtain ⟨shown, outer, outerKept⟩ := reveals.outer
    have snoc (models : List Model) (fields : List Field) :
        outerModels (models ++ [{ model with fields }]) =
          outerModels models ++ [{ model with fields }] := by
      simp [outerModels, kind]
    refine ⟨shown ++ [(model.name, trees)], ?_, ?_⟩
    · rw [snoc before model.fields]
      exact List.rel_append (outer.append _) (.cons ⟨rfl, shows.append _⟩ .nil)
    · rw [snoc kept fields]
      exact List.rel_append (outerKept.append _) (.cons ⟨rfl, showsKept.append _⟩ .nil)

/-- A model that has the name and the fingerprint of one that was kept shows the same. -/
theorem standsFor_survivor (reveals : Reveals visible shapes before ledger kept)
    (apart : ToldApart shapes) (alike : Alike visible shapes)
    (met : (localName model.name, ledger.renameFields model.fields) ∈ shapes)
    {trees : List (Tree String)} (shows : Shows visible before model.fields trees)
    (showsKept : Shows visible kept (ledger.renameFields model.fields) trees) {survivor : String}
    (found : ledger.survivors.lookup (ledger.key model) = some survivor) :
    StandsFor visible before kept model survivor := by
  have survives := reveals.survived _ (mem_of_lookup found)
  obtain ⟨fields, old, printed, own⟩ := survives.shape
  have same := apart _ met _ old rfl printed
  exact ⟨survives.reference, _, trees, own, shows,
    showsKept.congr same (alike _ met _ old rfl same)⟩

/-- One entry keeps what is shown. -/
theorem entered (reveals : Reveals visible shapes before ledger kept)
    (reached : (start (outerNamesOf (before ++ model :: after))).enterAll before = (ledger, kept))
    (replaceable : Replaceable visible shapes (before ++ model :: after))
    (met : model.kind = .child →
      (localName model.name, ledger.renameFields model.fields) ∈ shapes)
    {next : Ledger} {added : Option Model} (entered : Entered ledger model next added) :
    Reveals visible shapes (before ++ [model]) next (kept ++ added.toList) := by
  have distinct : ((before ++ [model]).map Model.name).Nodup := by
    have distinct := replaceable.distinct
    rw [← List.singleton_append, ← List.append_assoc, List.map_append] at distinct
    exact (List.nodup_append.mp distinct).1
  have distinctBefore : (before.map Model.name).Nodup := by
    rw [List.map_append] at distinct
    exact (List.nodup_append.mp distinct).1
  have namedBefore : ∀ other ∈ before, other.kind = .child →
      Field.isReference other.name = true := fun other member kind =>
    isReference_of_localName (replaceable.named other (List.mem_append_left _ member) kind)
  have back : ∀ field ∈ model.fields, ∀ name ∈ field.references, HasChild before name :=
    fun field member name refers =>
      (replaceable.back before model after rfl field member name refers).resolve_right id
  obtain ⟨trees, shows, showsKept⟩ :=
    reveals.renameFields distinctBefore namedBefore (replaceable.stable ledger) back
  cases entered with
  | outer kind => exact reveals.enterOuter kind shows showsKept
  | unified kind found =>
      have stands := reveals.standsFor_survivor replaceable.apart replaceable.alike (met kind)
        shows showsKept found
      have behind := stands.append [] []
      rw [List.append_nil before] at behind
      exact reveals.enterChild kind distinct (by simp) behind
        fun entry member => (reveals.survived entry member).append []
  | named kind new =>
      have reference := isReference_freeName ledger.taken (replaceable.named model (by simp) kind)
      have found := find?_freeName (inUse_of_reached reached) (localName model.name)
        (ledger.renameFields model.fields)
      refine reveals.enterChild kind distinct (by simp)
        ⟨reference, _, trees, found, shows, showsKept.append _⟩ ?_
      rw [List.forall_mem_cons]
      exact ⟨⟨reference, _, met kind, rfl, found⟩,
        fun entry member => (reveals.survived entry member).append _⟩

end Reveals

/-- What is shown is kept over a whole list. -/
theorem reveals_enterAll {models : List Model}
    (replaceable : Replaceable visible ((start (outerNamesOf models)).shapes models) models) :
    Reveals visible ((start (outerNamesOf models)).shapes models) models
      ((start (outerNamesOf models)).enterAll models).1
      ((start (outerNamesOf models)).enterAll models).2 := by
  apply enterAll_invariant (outerNamesOf models) models
    (Reveals visible ((start (outerNamesOf models)).shapes models)) (reveals_start visible _ _)
  intro before model after split ledger kept reached reveals
  subst split
  have met : model.kind = .child → (localName model.name, ledger.renameFields model.fields) ∈
      (start (outerNamesOf (before ++ model :: after))).shapes (before ++ model :: after) := by
    intro kind
    have shape :=
      (start (outerNamesOf (before ++ model :: after))).shape_mem_shapes before after kind
    rwa [reached] at shape
  exact reveals.entered reached replaceable met (ledger.entered model)

end Naming.Ledger

namespace Method

open Naming (Ledger)

/-- The nested models as unification meets them. -/
def shapes (method : Method) : List (String × List Field) :=
  (Ledger.start method.outerNames).shapes method.models

/-- What the outer models of the method show, given whether removed and deprecated fields are
wanted. -/
def Shows (method : Method) (wantRemoved wantDeprecated : Bool)
    (shown : List (String × List (Tree String))) : Prop :=
  ShowsOuter (fun field => field.isVisible wantRemoved wantDeprecated) method.models
    (outerModels method.models) shown

/-- Where the models that become one show the same fields, and no local name of a nested model is
empty or a tag, unification changes nothing that is shown. -/
theorem shows_unify (method : Method) (wantRemoved wantDeprecated : Bool)
    (back : RefersBack method.models) (distinct : (method.models.map Model.name).Nodup)
    (named : ∀ model ∈ method.models, model.kind = .child →
      Field.isReference (localName model.name) = true)
    (apart : Ledger.ToldApart method.shapes)
    (alike : Ledger.Alike (fun field => field.isVisible wantRemoved wantDeprecated)
      method.shapes) :
    ∃ shown, (∀ other, method.Shows wantRemoved wantDeprecated other ↔ other = shown) ∧
      ∀ other, method.unify.Shows wantRemoved wantDeprecated other ↔ other = shown := by
  have closed := (refersBack_iff method.models).mp back
  have reveals := Ledger.reveals_enterAll ⟨distinct, named, closed, fun _ _ => rfl, apart, alike⟩
  obtain ⟨shown, shows, showsUnified⟩ := reveals.outer
  have outer : outerNamesOf method.models = method.outerNames := rfl
  rw [outer, ← unify_models] at showsUnified
  refine ⟨shown, fun other => ⟨fun also => also.unique shows, ?_⟩,
    fun other => ⟨fun also => also.unique showsUnified, ?_⟩⟩
  · rintro rfl
    exact shows
  · rintro rfl
    exact showsUnified

def twinBuyers : Method where
  name := some "Get"
  requestName := some "get"
  params := [
    ⟨"a@Place", .child, [Field.of "city" "str"]⟩,
    ⟨"a@Buyer", .child,
      [Field.of "place" "a@Place", { Field.of "note" "str" with removed := true }]⟩,
    ⟨"b@Place", .child, [Field.of "city" "str"]⟩,
    ⟨"b@Buyer", .child,
      [Field.of "place" "b@Place", { Field.of "note" "str" with removed := true }]⟩,
    ⟨"GetParam", .param, [Field.of "first" "a@Buyer", Field.listOf "others" (some "b@Buyer")]⟩]
  responses := []
  comments := []

theorem shows_unify_twinBuyers :
    (RefersBack twinBuyers.models ∧ (twinBuyers.models.map Model.name).Nodup ∧
      (∀ model ∈ twinBuyers.models, model.kind = .child →
        Field.isReference (localName model.name) = true) ∧
      Ledger.ToldApart twinBuyers.shapes ∧
      Ledger.Alike (fun field => field.isVisible false false) twinBuyers.shapes) ∧
    ∃ shown, (∀ other, twinBuyers.Shows false false other ↔ other = shown) ∧
      ∀ other, twinBuyers.unify.Shows false false other ↔ other = shown := by
  have back : RefersBack twinBuyers.models := by decide +kernel
  have distinct : (twinBuyers.models.map Model.name).Nodup := by decide +kernel
  have named : ∀ model ∈ twinBuyers.models, model.kind = .child →
      Field.isReference (localName model.name) = true := by decide +kernel
  have apart : Ledger.ToldApart twinBuyers.shapes := by decide +kernel
  have alike : Ledger.Alike (fun field => field.isVisible false false) twinBuyers.shapes := by
    decide +kernel
  exact ⟨⟨back, distinct, named, apart, alike⟩,
    shows_unify twinBuyers false false back distinct named apart alike⟩

def removedTwin : Method where
  name := some "Get"
  requestName := some "get"
  params := [
    ⟨"a@Item", .child, [{ Field.of "id" "int" with removed := true }]⟩,
    ⟨"b@Item", .child, [Field.of "id" "int"]⟩,
    ⟨"GetParam", .param, [Field.of "first" "a@Item", Field.of "second" "b@Item"]⟩]
  responses := []
  comments := []

def tagModel : Method where
  name := some "Get"
  requestName := some "get"
  params := [
    ⟨"a@int", .child, [Field.of "id" "int"]⟩,
    ⟨"GetParam", .param, [Field.of "first" "a@int"]⟩]
  responses := []
  comments := []

/-- The method shows other fields after unification. -/
def Changed (method : Method) : Prop :=
  ∃ before after, method.Shows false false before ∧ method.unify.Shows false false after ∧
    before ≠ after

theorem changed_removedTwin_tagModel :
    (RefersBack removedTwin.models ∧ (removedTwin.models.map Model.name).Nodup ∧
      Ledger.ToldApart removedTwin.shapes ∧ Changed removedTwin) ∧
    RefersBack tagModel.models ∧ (tagModel.models.map Model.name).Nodup ∧
      Ledger.ToldApart tagModel.shapes ∧ Changed tagModel := by
  refine ⟨⟨by decide +kernel, by decide +kernel, by decide +kernel, ?_⟩,
    by decide +kernel, by decide +kernel, by decide +kernel, ?_⟩
  · have unified : removedTwin.unify.models = [
        ⟨"Item", .child, [{ Field.of "id" "int" with removed := true }]⟩,
        ⟨"GetParam", .param, [Field.of "first" "Item", Field.of "second" "Item"]⟩] := by
      decide +kernel
    refine ⟨[("GetParam", [.node "first" [], .node "second" [.node "id" []]])],
      [("GetParam", [.node "first" [], .node "second" []])], ?_, ?_, by simp⟩
    · exact .cons ⟨rfl, .shown rfl (.cons rfl .nil) (.hidden rfl .nil)
        (.shown rfl (.cons rfl .nil) (.shown rfl .nil .nil .nil) .nil)⟩ .nil
    · unfold Shows
      rw [unified]
      exact .cons ⟨rfl, .shown rfl (.cons rfl .nil) (.hidden rfl .nil)
        (.shown rfl (.cons rfl .nil) (.hidden rfl .nil) .nil)⟩ .nil
  · have unified : tagModel.unify.models = [
        ⟨"int", .child, [Field.of "id" "int"]⟩,
        ⟨"GetParam", .param, [Field.of "first" "int"]⟩] := by
      decide +kernel
    refine ⟨[("GetParam", [.node "first" [.node "id" []]])],
      [("GetParam", [.node "first" []])], ?_, ?_, by simp⟩
    · exact .cons ⟨rfl, .shown rfl (.cons rfl .nil) (.shown rfl .nil .nil .nil) .nil⟩ .nil
    · unfold Shows
      rw [unified]
      exact .cons ⟨rfl, .shown rfl .nil .nil .nil⟩ .nil

end Method

end ApiSchema
