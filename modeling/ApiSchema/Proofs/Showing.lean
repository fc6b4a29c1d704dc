import ApiSchema.Proofs.Unfolding

set_option autoImplicit false

namespace ApiSchema

/-- The first models with the names. -/
abbrev Finds (models : List Model) : List String → List Model → Prop :=
  List.Forall₂ fun name target => models.find? (fun model => model.name == name) = some target

/-- Fields as trees of the names that are visible: below a field stand the visible fields of the
models that it refers to. A visible field with a reference to no model has no tree. -/
inductive Shows (visible : Field → Bool) (models : List Model) :
    List Field → List (Tree String) → Prop
  | nil : Shows visible models [] []
  | hidden {field : Field} {fields : List Field} {trees : List (Tree String)}
      (hidden : visible field = false) (rest : Shows visible models fields trees) :
      Shows visible models (field :: fields) trees
  | shown {field : Field} {fields : List Field} {targets : List Model}
      {members trees : List (Tree String)} (seen : visible field = true)
      (found : Finds models field.references targets)
      (inner : Shows visible models (targets.flatMap Model.fields) members)
      (rest : Shows visible models fields trees) :
      Shows visible models (field :: fields) (.node field.name members :: trees)

/-- The outer models by their names, with the trees that their fields show. -/
def ShowsOuter (visible : Field → Bool) (models outer : List Model)
    (shown : List (String × List (Tree String))) : Prop :=
  List.Forall₂ (fun model entry => entry.1 = model.name ∧
    Shows visible models model.fields entry.2) outer shown

def outerModels (models : List Model) : List Model :=
  models.filter fun model => model.kind != .child

section

variable {visible : Field → Bool} {models outer : List Model} {fields : List Field}
  {trees others : List (Tree String)}

theorem Finds.unique {names : List String} {targets targetsToo : List Model}
    (found : Finds models names targets) (foundToo : Finds models names targetsToo) :
    targets = targetsToo := by
  induction found generalizing targetsToo with
  | nil =>
      cases foundToo
      rfl
  | cons first _ ih =>
      cases foundToo with
      | cons firstToo rest =>
          rw [first] at firstToo
          cases firstToo
          rw [ih rest]

theorem Finds.append {names : List String} {targets : List Model}
    (found : Finds models names targets) (later : List Model) :
    Finds (models ++ later) names targets :=
  found.imp fun _ _ first => by rw [List.find?_append, first, Option.some_or]

namespace Shows

/-- Fields have at most one list of trees. -/
theorem unique (first : Shows visible models fields trees)
    (second : Shows visible models fields others) : trees = others := by
  induction first generalizing others with
  | nil =>
      cases second
      rfl
  | hidden hidden _ ih =>
      cases second with
      | hidden _ rest => exact ih rest
      | shown seen _ _ _ =>
          rw [hidden] at seen
          cases seen
  | shown seen found _ _ ihInner ihRest =>
      cases second with
      | hidden hidden _ =>
          rw [hidden] at seen
          cases seen
      | shown _ foundToo inner rest =>
          cases found.unique foundToo
          rw [ihInner inner, ihRest rest]

/-- Models behind those that are there change no tree. -/
theorem append (shows : Shows visible models fields trees) (later : List Model) :
    Shows visible (models ++ later) fields trees := by
  induction shows with
  | nil => exact .nil
  | hidden hidden _ ih => exact .hidden hidden ih
  | shown seen found _ _ ihInner ihRest => exact .shown seen (found.append later) ihInner ihRest

/-- The trees of two lists of fields, side by side. -/
theorem beside (shows : Shows visible models fields trees) {more : List Field}
    (rest : Shows visible models more others) :
    Shows visible models (fields ++ more) (trees ++ others) := by
  induction shows with
  | nil => exact rest
  | hidden hidden _ ih => exact .hidden hidden ih
  | shown seen found inner _ _ ihRest => exact .shown seen found inner ihRest

/-- Fields that agree in name, types and visibility show the same trees. -/
theorem congr (shows : Shows visible models fields trees) {like : List Field}
    (same : fields.map Field.essence = like.map Field.essence)
    (seen : fields.map visible = like.map visible) : Shows visible models like trees := by
  induction shows generalizing like with
  | nil =>
      rw [List.map_nil, eq_comm, List.map_eq_nil_iff] at same
      subst same
      exact .nil
  | hidden hidden _ ih =>
      obtain ⟨other, rest, rfl, alike, aside⟩ := List.map_eq_cons_iff.mp same.symm
      obtain ⟨sameHere, sameLater⟩ := List.cons.inj seen
      exact .hidden (sameHere ▸ hidden) (ih aside.symm sameLater)
  | @shown field _ targets members _ isSeen found inner _ _ ihRest =>
      obtain ⟨other, rest, rfl, alike, aside⟩ := List.map_eq_cons_iff.mp same.symm
      obtain ⟨sameHere, sameLater⟩ := List.cons.inj seen
      simp only [Field.essence, Prod.mk.injEq] at alike
      have references : other.references = field.references := by
        rw [Field.references, Field.references, alike.2.1, alike.2.2.1]
      rw [← alike.1]
      exact .shown (sameHere ▸ isSeen) (references ▸ found) inner (ihRest aside.symm sameLater)

end Shows

/-- Outer models have at most one list of trees. -/
theorem ShowsOuter.unique {shown shownToo : List (String × List (Tree String))}
    (first : ShowsOuter visible models outer shown)
    (second : ShowsOuter visible models outer shownToo) : shown = shownToo := by
  induction first generalizing shownToo with
  | nil =>
      cases second
      rfl
  | cons here _ ih =>
      cases second with
      | cons hereToo rest =>
          rw [ih rest, Prod.ext (here.1.trans hereToo.1.symm) (here.2.unique hereToo.2)]

theorem ShowsOuter.append {shown : List (String × List (Tree String))}
    (shows : ShowsOuter visible models outer shown) (later : List Model) :
    ShowsOuter visible (models ++ later) outer shown :=
  shows.imp fun _ _ here => ⟨here.1, here.2.append later⟩

end

end ApiSchema
