import ApiSchema.Proofs.Naming.FreeName
import ApiSchema.Proofs.Unify.Fingerprint
import ApiSchema.Proofs.Unify.References

set_option autoImplicit false

namespace ApiSchema

open ApiSchema.Naming

theorem isLegible_of_not_isReference {type : String} (plain : Field.isReference type = false) :
    IsLegible type := by
  by_cases empty : type = ""
  · subst empty
    exact ⟨by simp, by simp⟩
  · have tagged : Primitive.isTag type = true := by
      by_contra untagged
      rw [Bool.not_eq_true] at untagged
      rw [Field.isReference_iff.mpr ⟨empty, untagged⟩] at plain
      cases plain
    obtain ⟨primitive, rfl⟩ := Primitive.isTag_iff.mp tagged
    cases primitive <;> exact ⟨by decide, by decide⟩

theorem isLegible_freeName (taken : List String) {localPart : String}
    (legible : IsLegible localPart) : IsLegible (freeName taken localPart) := by
  obtain ⟨number, chosen, _, _⟩ := freeName_spec taken localPart
  obtain ⟨digits, areDigits, spelled⟩ := toList_candidate localPart number
  have noDigit : ∀ mark : Char, mark.isDigit = false → mark ∉ digits := by
    intro mark other member
    rw [areDigits mark member] at other
    cases other
  rw [chosen]
  unfold IsLegible
  rw [spelled, List.mem_append, List.mem_append, not_or, not_or]
  exact ⟨⟨legible.1, noDigit '|' rfl⟩, legible.2, noDigit '\n' rfl⟩

/-- The name of the field is free of marks, and its element is a named one of a list. -/
structure Field.Sound (field : Field) : Prop where
  name : IsLegible field.name
  element : field.element ≠ some ""
  listed : field.element ≠ none → field.type = Primitive.list.tag

/-- The fields are sound; a nested model and its local name are named as models are, and the local
name is free of marks. -/
structure Model.Sound (model : Model) : Prop where
  fields : ∀ field ∈ model.fields, field.Sound
  name : model.kind = .child → Field.isReference model.name = true
  localName : model.kind = .child →
    Field.isReference (localName model.name) = true ∧ IsLegible (localName model.name)

/-- The name is that of a nested model, whose fields unfold to the trees. -/
structure Means (models : List Model) (name : String) (trees : List (Tree Facet)) : Prop where
  reference : Field.isReference name = true
  legible : IsLegible name
  unfolds : ∃ model, models.find? (fun model => model.name == name) = some model ∧
    Unfolds models model.fields trees

theorem Means.append {models : List Model} {name : String} {trees : List (Tree Facet)}
    (means : Means models name trees) (later : List Model) : Means (models ++ later) name trees := by
  obtain ⟨model, found, unfolds⟩ := means.unfolds
  refine ⟨means.reference, means.legible, model, ?_, unfolds.append later⟩
  rw [List.find?_append, found, Option.some_or]

namespace Field

theorem isReference_type_of_link?_none {field : Field} (link : field.link? = none) :
    isReference field.type = false := by
  by_contra refers
  rw [Bool.not_eq_false] at refers
  rw [link?_eq_object refers] at link
  cases link

namespace Sound

variable {field : Field}

/-- A sound field without link refers to nothing. -/
theorem isReference_element (sound : field.Sound) (link : field.link? = none) {element : String}
    (held : field.element = some element) : isReference element = false := by
  by_contra refers
  rw [Bool.not_eq_false] at refers
  have isList : field.type = Primitive.list.tag := sound.listed (by simp [held])
  rw [link?_eq_list isList held refers] at link
  cases link

theorem legible_of_link?_none (sound : field.Sound) (link : field.link? = none) :
    field.Legible where
  name := sound.name
  type := isLegible_of_not_isReference (isReference_type_of_link?_none link)
  element := by
    intro element held
    refine ⟨?_, isLegible_of_not_isReference (sound.isReference_element link held)⟩
    rintro rfl
    exact sound.element held

end Sound

end Field

namespace Naming.Ledger

variable {ledger : Ledger} {field : Field}

theorem renameField_of_link?_none (sound : field.Sound) (link : field.link? = none)
    (plain : ∀ type, Field.isReference type = false → ledger.rename type = type) :
    ledger.renameField field = field := by
  have type := plain field.type (Field.isReference_type_of_link?_none link)
  have element : field.element.map ledger.rename = field.element := by
    cases held : field.element with
    | none => rfl
    | some element => rw [Option.map_some, plain element (sound.isReference_element link held)]
  rw [renameField, type, element]

/-- A renamed link leads to the renamed model, and shows no mark. -/
theorem renameField_of_link?_some (sound : field.Sound) {shape : Shape} {name : String}
    (link : field.link? = some (shape, name))
    (plain : ∀ type, Field.isReference type = false → ledger.rename type = type)
    (reference : Field.isReference (ledger.rename name) = true)
    (legible : IsLegible (ledger.rename name)) :
    (ledger.renameField field).link? = some (shape, ledger.rename name) ∧
      (ledger.renameField field).Legible := by
  unfold Field.link? at link
  split at link
  · obtain ⟨rfl, rfl⟩ := Prod.mk.inj (Option.some.inj link)
    rename_i refers
    have none : field.element = none := by
      by_contra some
      rw [sound.listed some] at refers
      revert refers
      decide
    exact ⟨Field.link?_eq_object reference, sound.name, legible, by simp [renameField, none]⟩
  · split at link
    · rename_i isList
      have isList : field.type = Primitive.list.tag := by simpa [Field.isList] using isList
      obtain ⟨element, held, same⟩ := Option.map_eq_some_iff.mp link
      obtain ⟨rfl, rfl⟩ := Prod.mk.inj same
      obtain ⟨held, _⟩ := Option.filter_eq_some_iff.mp held
      have type : (ledger.renameField field).type = Primitive.list.tag := by
        have noReference : Field.isReference field.type = false := by
          rw [isList]
          decide
        exact (plain field.type noReference).trans isList
      have renamed : (ledger.renameField field).element = some (ledger.rename element) := by
        rw [renameField, held, Option.map_some]
      refine ⟨Field.link?_eq_list type renamed reference, sound.name, ?_, ?_⟩
      · rw [type]
        exact ⟨by decide, by decide⟩
      · intro other shown
        rw [renamed] at shown
        obtain rfl := Option.some.inj shown
        exact ⟨(Field.isReference_iff.mp reference).1, legible⟩
    · cases link

end Naming.Ledger

end ApiSchema
