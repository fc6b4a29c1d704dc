import ApiSchema.Proofs.Unify.Names
import ApiSchema.Proofs.Unify.Renaming

/-!
Unification keeps what models mean. While models are entered, each name that has a meaning among
them stands, under its new name, for a model that was kept and unfolds to that meaning.
-/

set_option autoImplicit false

namespace ApiSchema

open ApiSchema.Naming

namespace Naming.Ledger

/-- A name was given to a model with the fields, which unfold to the trees; the name means them. -/
structure Stands (hashed : List String) (kept : List Model) (entry : (String × String) × String)
    (fields : List Field) (trees : List (Tree Facet)) : Prop where
  legible : ∀ field ∈ fields, field.Legible
  met : fingerprintText entry.1.1 fields ∈ hashed
  digest : entry.1.2 = Digest.sha256Hex (fingerprintText entry.1.1 fields)
  unfolds : Unfolds kept fields trees
  means : Means kept entry.2 trees

/-- What a name means among the models before, its new name means among the models that were
kept. -/
structure Faithful (hashed : List String) (before : List Model) (ledger : Ledger)
    (kept : List Model) : Prop where
  known : ∀ name, (meanings [] before).lookup name = none → ledger.renames.lookup name = none
  means : ∀ name trees, (meanings [] before).lookup name = some trees →
    Means kept (ledger.rename name) trees
  survived : ∀ entry ∈ ledger.survivors, ∃ fields trees, Stands hashed kept entry fields trees

/-- Models that unification can read: their outer names are reserved, they refer back, and the texts
behind their fingerprints are told apart by their digests. -/
structure Unifiable (outer hashed : List String) (models : List Model) : Prop where
  sound : ∀ model ∈ models, model.Sound
  reserved : ∀ model ∈ models, model.kind ≠ .child → model.name ∈ outer
  back : RefersBackExcept (fun _ => False) models
  met : ∀ text ∈ (start outer).texts models, text ∈ hashed
  injective : ∀ first ∈ hashed, ∀ second ∈ hashed,
    Digest.sha256Hex first = Digest.sha256Hex second → first = second

variable {outer hashed : List String} {before kept : List Model} {ledger : Ledger} {model : Model}

theorem Stands.append {entry : (String × String) × String} {fields : List Field}
    {trees : List (Tree Facet)} (stands : Stands hashed kept entry fields trees)
    (later : List Model) : Stands hashed (kept ++ later) entry fields trees :=
  { stands with unfolds := stands.unfolds.append later, means := stands.means.append later }

/-- What is kept later leaves the names that were given before. -/
theorem stands_append {survivors : List ((String × String) × String)}
    (survived : ∀ entry ∈ survivors, ∃ fields trees, Stands hashed kept entry fields trees)
    (later : List Model) :
    ∀ entry ∈ survivors, ∃ fields trees, Stands hashed (kept ++ later) entry fields trees := by
  intro entry member
  obtain ⟨fields, trees, stands⟩ := survived entry member
  exact ⟨fields, trees, stands.append later⟩

/-- A model that is kept under a free name can be found under it. -/
theorem means_freeName (inUse : InUse outer ledger kept)
    (reference : Field.isReference (localName model.name) = true)
    (legible : IsLegible (localName model.name)) {fields : List Field} {trees : List (Tree Facet)}
    (unfolds : Unfolds kept fields trees) :
    Means (kept ++ [⟨freeName ledger.taken (localName model.name), .child, fields⟩])
      (freeName ledger.taken (localName model.name)) trees where
  reference := isReference_freeName ledger.taken reference
  legible := isLegible_freeName ledger.taken legible
  unfolds := ⟨_, find?_freeName inUse (localName model.name) fields, unfolds.append _⟩

theorem faithful_start (outer hashed : List String) : Faithful hashed [] (start outer) [] where
  known := fun _ _ => rfl
  means := by
    intro name trees meant
    cases meant
  survived := by simp [start]

namespace Faithful

/-- Only names of models are renamed. -/
theorem rename_plain (faithful : Faithful hashed before ledger kept)
    (sound : ∀ model ∈ before, model.Sound) {type : String}
    (plain : Field.isReference type = false) : ledger.rename type = type := by
  apply rename_of_unknown
  apply faithful.known
  by_contra meant
  rcases lookup_meanings_ne_none.mp meant with nothing | ⟨model, member, kind, rfl⟩
  · exact nothing rfl
  · rw [(sound model member).name kind] at plain
    cases plain

/-- The link of a field leads to a name that still means what it meant. -/
theorem link (faithful : Faithful hashed before ledger kept) {field : Field}
    (back : ∀ name ∈ field.references, HasChild before name) {shape : Shape} {name : String}
    (link : field.link? = some (shape, name)) :
    ∃ trees, (meanings [] before).lookup name = some trees ∧
      Means kept (ledger.rename name) trees := by
  have meant : (meanings [] before).lookup name ≠ none :=
    lookup_meanings_ne_none.mpr (Or.inr (back name (Field.mem_references_of_link? link)))
  obtain ⟨trees, meant⟩ := Option.ne_none_iff_exists'.mp meant
  exact ⟨trees, meant, faithful.means name trees meant⟩

theorem legible_renameField (faithful : Faithful hashed before ledger kept)
    (soundBefore : ∀ model ∈ before, model.Sound) {field : Field} (sound : field.Sound)
    (back : ∀ name ∈ field.references, HasChild before name) :
    (ledger.renameField field).Legible := by
  have plain : ∀ type, Field.isReference type = false → ledger.rename type = type :=
    fun _ => faithful.rename_plain soundBefore
  cases link : field.link? with
  | none =>
      rw [renameField_of_link?_none sound link plain]
      exact sound.legible_of_link?_none link
  | some target =>
      obtain ⟨shape, name⟩ := target
      obtain ⟨_, _, means⟩ := faithful.link back link
      exact (renameField_of_link?_some sound link plain means.reference means.legible).2

/-- Renamed fields unfold to what the fields mean. -/
theorem unfolds_renameFields (faithful : Faithful hashed before ledger kept)
    (soundBefore : ∀ model ∈ before, model.Sound) {fields : List Field}
    (sound : ∀ field ∈ fields, field.Sound)
    (back : ∀ field ∈ fields, ∀ name ∈ field.references, HasChild before name) :
    Unfolds kept (ledger.renameFields fields)
      (fields.map (Field.unfold (meanings [] before))) := by
  have plain : ∀ type, Field.isReference type = false → ledger.rename type = type :=
    fun _ => faithful.rename_plain soundBefore
  induction fields with
  | nil => exact .nil
  | cons field rest ih =>
      have later := ih (fun other member => sound other (List.mem_cons_of_mem _ member))
        fun other member => back other (List.mem_cons_of_mem _ member)
      have soundField := sound field List.mem_cons_self
      change Unfolds kept (ledger.renameField field :: ledger.renameFields rest) _
      rw [List.map_cons]
      cases link : field.link? with
      | none =>
          rw [renameField_of_link?_none soundField link plain, Field.unfold_plain link]
          exact .plain link later
      | some target =>
          obtain ⟨shape, name⟩ := target
          obtain ⟨trees, meant, means⟩ := faithful.link (back field List.mem_cons_self) link
          obtain ⟨renamed, _⟩ := renameField_of_link?_some soundField link plain means.reference
            means.legible
          obtain ⟨model, found, inner⟩ := means.unfolds
          rw [Field.unfold_nested link meant]
          exact .nested renamed found inner later

/-- A nested model gives its name a meaning, which its new name has to have. -/
theorem enterChild (faithful : Faithful hashed before ledger kept) (kind : model.kind = .child)
    {later : List Model} {name : String}
    (means : Means (kept ++ later) name (model.fields.map (Field.unfold (meanings [] before))))
    {survivors : List ((String × String) × String)} {taken : List String}
    (survived : ∀ entry ∈ survivors, ∃ fields trees,
      Stands hashed (kept ++ later) entry fields trees) :
    Faithful hashed (before ++ [model])
      ⟨(model.name, name) :: ledger.renames, survivors, taken⟩ (kept ++ later) where
  known := by
    intro old unknown
    rw [meanings_append, meanings_singleton, Model.enterMeaning_child kind,
      List.lookup_cons] at unknown
    rw [List.lookup_cons]
    split at unknown
    · cases unknown
    · exact faithful.known old unknown
  means := by
    intro old trees meant
    rw [meanings_append, meanings_singleton, Model.enterMeaning_child kind,
      List.lookup_cons] at meant
    unfold rename
    rw [List.lookup_cons]
    split at meant
    · rw [← Option.some.inj meant]
      exact means
    · exact (faithful.means old trees meant).append later
  survived := survived

/-- An outer model keeps its name, which nothing can refer to. -/
theorem enterOuter (faithful : Faithful hashed before ledger kept) (kind : model.kind ≠ .child)
    (fields : List Field) :
    Faithful hashed (before ++ [model]) ledger (kept ++ [{ model with fields }]) where
  known := by
    rw [meanings_append, meanings_singleton, Model.enterMeaning_outer kind]
    exact faithful.known
  means := by
    rw [meanings_append, meanings_singleton, Model.enterMeaning_outer kind]
    exact fun name trees meant => (faithful.means name trees meant).append _
  survived := stands_append faithful.survived _

/-- A model whose local name and digest were met means what the model means that they stand for. -/
theorem means_of_survivor (faithful : Faithful hashed before ledger kept)
    (injective : ∀ first ∈ hashed, ∀ second ∈ hashed,
      Digest.sha256Hex first = Digest.sha256Hex second → first = second)
    (met : ledger.text model ∈ hashed) {trees : List (Tree Facet)}
    (unfolds : Unfolds kept (ledger.renameFields model.fields) trees)
    (legible : ∀ field ∈ ledger.renameFields model.fields, field.Legible) {survivor : String}
    (found : ledger.survivors.lookup (ledger.key model) = some survivor) :
    Means kept survivor trees := by
  obtain ⟨fields, others, stands⟩ := faithful.survived _ (mem_of_lookup found)
  have texts : ledger.text model = fingerprintText (localName model.name) fields :=
    injective _ met _ stands.met stands.digest
  have same : (ledger.renameFields model.fields).map Field.essence = fields.map Field.essence :=
    essence_eq_of_fingerprintText_eq (fun field member => (legible field member).readable)
      (fun field member => (stands.legible field member).readable) texts
  rw [(unfolds.congr same).unique stands.unfolds]
  exact stands.means

/-- One entry keeps the meanings. -/
theorem entered {after : List Model} {next : Ledger} {added : Option Model}
    (unifiable : Unifiable outer hashed (before ++ model :: after))
    (reached : (start outer).enterAll before = (ledger, kept))
    (faithful : Faithful hashed before ledger kept)
    (entered : Entered ledger model next added) :
    Faithful hashed (before ++ [model]) next (kept ++ added.toList) := by
  have inside : model ∈ before ++ model :: after := by simp
  have sound := unifiable.sound model inside
  have soundBefore : ∀ other ∈ before, other.Sound :=
    fun other member => unifiable.sound other (List.mem_append_left _ member)
  have back : ∀ field ∈ model.fields, ∀ name ∈ field.references, HasChild before name :=
    fun field member name refers =>
      (unifiable.back before model after rfl field member name refers).resolve_right id
  have unfolds := faithful.unfolds_renameFields soundBefore sound.fields back
  have legible : ∀ field ∈ ledger.renameFields model.fields, field.Legible := by
    intro field member
    obtain ⟨original, originalMember, rfl⟩ := List.mem_map.mp member
    exact faithful.legible_renameField soundBefore (sound.fields original originalMember)
      (back original originalMember)
  have inUse : InUse outer ledger kept := by
    have inUse := inUse_enterAll fun other (member : other ∈ before) =>
      unifiable.reserved other (List.mem_append_left _ member)
    rwa [reached] at inUse
  have met : model.kind = .child → ledger.text model ∈ hashed := by
    intro kind
    have text := (start outer).text_mem_texts before after kind
    rw [reached] at text
    exact unifiable.met _ text
  cases entered with
  | outer kind =>
      exact faithful.enterOuter kind _
  | @unified survivor kind found =>
      have means := faithful.means_of_survivor unifiable.injective (met kind) unfolds legible found
      exact faithful.enterChild kind (means.append []) (stands_append faithful.survived [])
  | named kind new =>
      obtain ⟨reference, legibleName⟩ := sound.localName kind
      have means := means_freeName inUse reference legibleName unfolds
      refine faithful.enterChild kind means ?_
      rw [List.forall_mem_cons]
      refine ⟨⟨_, _, legible, met kind, rfl, unfolds.append _, means⟩, ?_⟩
      exact stands_append faithful.survived _

end Faithful

theorem Unifiable.of_append {after : List Model}
    (unifiable : Unifiable outer hashed (before ++ after)) : Unifiable outer hashed before where
  sound := fun model member => unifiable.sound model (List.mem_append_left _ member)
  reserved := fun model member => unifiable.reserved model (List.mem_append_left _ member)
  back := by
    rintro first model rest rfl
    exact unifiable.back first model (rest ++ after) (by simp)
  met := by
    intro text member
    apply unifiable.met text
    rw [texts_append]
    exact List.mem_append_left _ member
  injective := unifiable.injective

theorem faithful_enterAll (unifiable : Unifiable outer hashed before) :
    Faithful hashed before ((start outer).enterAll before).1
      ((start outer).enterAll before).2 := by
  apply enterAll_invariant outer before (Faithful hashed) (faithful_start outer hashed)
  intro first model rest split ledger kept reached faithful
  rw [split] at unifiable
  exact faithful.entered unifiable reached (ledger.entered model)

/-- After a whole list, the fields of an outer model unfold to what they mean. -/
theorem unfolds_outer {root : Model} {after : List Model}
    (unifiable : Unifiable outer hashed (before ++ root :: after)) :
    Unfolds ((start outer).enterAll (before ++ root :: after)).2
      (((start outer).enterAll before).1.renameFields root.fields)
      (root.fields.map (Field.unfold (meanings [] before))) := by
  have sound := unifiable.sound root (by simp)
  have unfolds := (faithful_enterAll unifiable.of_append).unfolds_renameFields
    (fun model member => unifiable.sound model (List.mem_append_left _ member)) sound.fields
    fun field member name refers =>
      (unifiable.back before root after rfl field member name refers).resolve_right id
  rw [enterAll_append]
  exact unfolds.append _

end Naming.Ledger

namespace Method

open Naming (Ledger)

theorem unifiable {method : Method} (sound : ∀ model ∈ method.models, model.Sound)
    (back : RefersBackExcept (fun _ => False) method.models) (free : method.CollisionFree) :
    Ledger.Unifiable method.outerNames method.fingerprintTexts method.models where
  sound := sound
  reserved := by
    intro model member kind
    refine List.mem_map.mpr ⟨model, List.mem_filter.mpr ⟨member, ?_⟩, rfl⟩
    simp [kind]
  back := back
  met := fun _ member => member
  injective := free

/-- After unification an outer model unfolds to what it means behind the models before it. -/
theorem unfolds_unify_outer {method : Method} (sound : ∀ model ∈ method.models, model.Sound)
    (back : RefersBackExcept (fun _ => False) method.models) (free : method.CollisionFree)
    {before after : List Model} {root : Model} (split : method.models = before ++ root :: after) :
    Unfolds method.unify.models
      (((Ledger.start method.outerNames).enterAll before).1.renameFields root.fields)
      (root.fields.map (Field.unfold (meanings [] before))) := by
  have unifiable := unifiable sound back free
  rw [split] at unifiable
  have unfolds := Ledger.unfolds_outer unifiable
  rwa [← split, ← unify_models] at unfolds

/-- The outermost model of the parameters unfolds, after unification, to what it means. -/
theorem unfolds_unify_param {method : Method} (sound : ∀ model ∈ method.models, model.Sound)
    (back : RefersBackExcept (fun _ => False) method.models) (free : method.CollisionFree)
    {nested : List Model} {root : Model} (params : method.params = nested ++ [root])
    (kind : root.kind ≠ .child) :
    ∃ param, method.unify.params.getLast? = some param ∧
      Unfolds method.unify.models param.fields
        (root.fields.map (Field.unfold (meanings [] nested))) := by
  have split : method.models = nested ++ root :: method.responses := by
    rw [models, params, List.append_assoc, List.singleton_append]
  have unfolds := unfolds_unify_outer sound back free split
  refine ⟨{ root with fields :=
    ((Ledger.start method.outerNames).enterAll nested).1.renameFields root.fields }, ?_, unfolds⟩
  rw [unify_params, params, Ledger.enterAll_outer _ _ kind, List.getLast?_concat]

/-- The outermost model of the response unfolds, after unification, to what it means behind the
models of the parameters. -/
theorem unfolds_unify_response {method : Method} (sound : ∀ model ∈ method.models, model.Sound)
    (back : RefersBackExcept (fun _ => False) method.models) (free : method.CollisionFree)
    {nested : List Model} {root : Model} (responses : method.responses = nested ++ [root])
    (kind : root.kind ≠ .child) :
    ∃ response, method.unify.responses.getLast? = some response ∧
      Unfolds method.unify.models response.fields
        (root.fields.map (Field.unfold (meanings (meanings [] method.params) nested))) := by
  have split : method.models = (method.params ++ nested) ++ root :: [] := by
    rw [models, responses, List.append_assoc]
  have unfolds := unfolds_unify_outer sound back free split
  rw [meanings_append, Ledger.enterAll_append, ← paramLedger] at unfolds
  refine ⟨{ root with fields :=
    (method.paramLedger.enterAll nested).1.renameFields root.fields }, ?_, unfolds⟩
  rw [unify_responses, responses, Ledger.enterAll_outer _ _ kind, List.getLast?_concat]

end Method

end ApiSchema
