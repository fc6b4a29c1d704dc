import ApiSchema.Proofs.Text.Pieces
import ApiSchema.Proofs.Unfolding
import ApiSchema.Proofs.Unify.Ledger

set_option autoImplicit false

namespace ApiSchema

open ApiSchema.Naming ApiSchema.Text

/-- Whether a name is free of the marks of fingerprint texts. -/
def IsLegible (name : String) : Prop := '|' ∉ name.toList ∧ '\n' ∉ name.toList

instance (name : String) : Decidable (IsLegible name) :=
  inferInstanceAs (Decidable ('|' ∉ name.toList ∧ '\n' ∉ name.toList))

namespace Field

/-- The types in the line of the field are free of marks. -/
structure TypesLegible (field : Field) : Prop where
  type : IsLegible field.type
  element : IsLegible (field.element.getD "")

def lineEnd (field : Field) : List Char :=
  '|' :: (field.type.toList ++ '|' :: ((field.element.getD "").toList ++
    '|' :: [if field.required then '1' else '0']))

def fingerprintChars (field : Field) : List Char := field.name.toList ++ field.lineEnd

theorem toList_fingerprintText (field : Field) :
    field.fingerprintText.toList = '\n' :: field.fingerprintChars := by
  unfold fingerprintText fingerprintChars lineEnd
  cases field.required <;> simp

/-- Fields with one essence have one text. -/
theorem fingerprintText_congr {first second : Field} (same : first.essence = second.essence) :
    first.fingerprintText = second.fingerprintText := by
  simp only [essence, Prod.mk.injEq] at same
  rw [fingerprintText, fingerprintText, same.1, same.2.1, same.2.2.1, same.2.2.2]

/-- Whether the name holds the end of a line and a line break, so that the line of a field with this
name reads as the line of another field and one more line. -/
def HoldsLine (name : String) : Prop :=
  ∃ (line : Field) (behind : String), line.TypesLegible ∧
    "\n" ++ name = line.fingerprintText ++ "\n" ++ behind

theorem holdsLine_iff {name : String} :
    HoldsLine name ↔ ∃ (line : Field) (behind : List Char), line.TypesLegible ∧
      name.toList = line.fingerprintChars ++ '\n' :: behind := by
  constructor
  · rintro ⟨line, behind, legible, spelled⟩
    refine ⟨line, behind.toList, legible, ?_⟩
    have characters := congrArg String.toList spelled
    rw [String.toList_append, String.toList_append, String.toList_append,
      toList_fingerprintText] at characters
    simpa using characters
  · rintro ⟨line, behind, legible, spelled⟩
    refine ⟨line, String.ofList behind, legible, String.toList_inj.mp ?_⟩
    rw [String.toList_append, String.toList_append, String.toList_append, toList_fingerprintText,
      spelled]
    simp

theorem not_holdsLine_of_newline {name : String} (unbroken : '\n' ∉ name.toList) :
    ¬ HoldsLine name := by
  rw [holdsLine_iff]
  rintro ⟨line, behind, _, spelled⟩
  exact unbroken (by rw [spelled]; simp)

theorem not_holdsLine_of_bar {name : String} (unmarked : '|' ∉ name.toList) :
    ¬ HoldsLine name := by
  rw [holdsLine_iff]
  rintro ⟨line, behind, _, spelled⟩
  exact unmarked (by rw [spelled, fingerprintChars, lineEnd]; simp)

/-- The field can be read from its line, whatever lines stand before it. -/
structure Readable (field : Field) : Prop where
  name : ¬ HoldsLine field.name
  types : field.TypesLegible
  named : field.element ≠ some ""

/-- The names in the field are free of marks, and an element is named. -/
structure Legible (field : Field) : Prop where
  name : IsLegible field.name
  type : IsLegible field.type
  element : ∀ element, field.element = some element → element ≠ "" ∧ IsLegible element

theorem Legible.readable {field : Field} (legible : field.Legible) : field.Readable := by
  refine ⟨not_holdsLine_of_newline legible.name.2, ⟨legible.type, ?_⟩, ?_⟩
  · cases held : field.element with
    | none => exact ⟨by simp, by simp⟩
    | some element => exact (legible.element element held).2
  · intro empty
    exact (legible.element "" empty).1 rfl

theorem TypesLegible.newline_not_mem {field : Field} (legible : field.TypesLegible) :
    '\n' ∉ field.lineEnd := by
  have type := legible.type.2
  have element := legible.element.2
  unfold lineEnd
  cases field.required <;> simp [type, element]

/-- The end of a line tells what stands before it, the types and whether the field is required. -/
theorem TypesLegible.lineEnd_inj {first second : Field} (legible : first.TypesLegible)
    (legibleToo : second.TypesLegible) {before behind : List Char}
    (same : before ++ first.lineEnd = behind ++ second.lineEnd) :
    before = behind ∧ first.type = second.type ∧
      first.element.getD "" = second.element.getD "" ∧ first.required = second.required := by
  simp only [lineEnd, ← List.cons_append, ← List.append_assoc] at same
  obtain ⟨upToElement, bits⟩ := append_cons_inj_right
    (by cases first.required <;> simp) (by cases second.required <;> simp) same
  obtain ⟨upToType, elements⟩ :=
    append_cons_inj_right legible.element.1 legibleToo.element.1 upToElement
  obtain ⟨upToName, types⟩ := append_cons_inj_right legible.type.1 legibleToo.type.1 upToType
  refine ⟨upToName, String.toList_inj.mp types, String.toList_inj.mp elements, ?_⟩
  revert bits
  cases first.required <;> cases second.required <;> simp

/-- Elements with names are told from none. -/
theorem Readable.element_eq {first second : Field} (readable : first.Readable)
    (readableToo : second.Readable)
    (same : first.element.getD "" = second.element.getD "") : first.element = second.element := by
  have named := readable.named
  have namedToo := readableToo.named
  cases held : first.element with
  | none =>
      cases other : second.element with
      | none => rfl
      | some element =>
          rw [held, other, Option.getD_none, Option.getD_some] at same
          exact absurd (by rw [other, same]) namedToo
  | some element =>
      cases other : second.element with
      | none =>
          rw [held, other, Option.getD_none, Option.getD_some] at same
          exact absurd (by rw [held, same]) named
      | some element =>
          rw [held, other] at same
          exact congrArg some same

def fingerprintLines (fields : List Field) : List Char :=
  fields.flatMap fun field => '\n' :: field.fingerprintChars

theorem fingerprintLines_snoc (fields : List Field) (last : Field) :
    fingerprintLines (fields ++ [last]) =
      (fingerprintLines fields ++ '\n' :: last.name.toList) ++ last.lineEnd := by
  simp [fingerprintLines, fingerprintChars]

/-- What stands behind lines in lines ends like a line, or nothing does. -/
theorem exists_line_of_fingerprintLines_eq {fields rest : List Field} {extra : List Char}
    (legible : ∀ field ∈ fields, field.TypesLegible)
    (longer : fingerprintLines fields = fingerprintLines rest ++ '\n' :: extra) :
    ∃ line : Field, line.TypesLegible ∧ extra = line.fingerprintChars := by
  rcases List.eq_nil_or_concat' fields with rfl | ⟨others, last, rfl⟩
  · simp [fingerprintLines] at longer
  · rw [List.forall_mem_append, List.forall_mem_singleton] at legible
    rw [fingerprintLines_snoc] at longer
    rcases List.append_eq_append_iff.mp longer with ⟨middle, _, ends⟩ | ⟨middle, _, ends⟩
    · -- The line break would stand in the end of the last line.
      exact absurd (by rw [ends]; simp) legible.2.newline_not_mem
    · cases middle with
      | nil => cases ends
      | cons c name =>
          obtain ⟨_, spelled⟩ := List.cons.inj ends
          refine ⟨{ last with name := String.ofList name }, ⟨legible.2.type, legible.2.element⟩, ?_⟩
          rw [spelled, fingerprintChars, String.toList_ofList]
          rfl

/-- Names that hold no line are known with the lines before them. -/
theorem fingerprintLines_name_inj {fields others : List Field} {first second : String}
    (legible : ∀ field ∈ fields, field.TypesLegible)
    (legibleToo : ∀ field ∈ others, field.TypesLegible)
    (single : ¬ HoldsLine first) (singleToo : ¬ HoldsLine second)
    (same : fingerprintLines fields ++ '\n' :: first.toList =
      fingerprintLines others ++ '\n' :: second.toList) :
    fingerprintLines fields = fingerprintLines others ∧ first = second := by
  rcases List.append_eq_append_iff.mp same with ⟨middle, longer, ends⟩ | ⟨middle, longer, ends⟩
  · cases middle with
    | nil =>
        rw [List.append_nil] at longer
        exact ⟨longer.symm, String.toList_inj.mp (List.cons.inj ends).2⟩
    | cons c extra =>
        obtain ⟨rfl, spelled⟩ := List.cons.inj ends
        obtain ⟨line, legibleLine, rfl⟩ := exists_line_of_fingerprintLines_eq legibleToo longer
        exact absurd (holdsLine_iff.mpr ⟨line, _, legibleLine, spelled⟩) single
  · cases middle with
    | nil =>
        rw [List.append_nil] at longer
        exact ⟨longer, String.toList_inj.mp (List.cons.inj ends).2.symm⟩
    | cons c extra =>
        obtain ⟨rfl, spelled⟩ := List.cons.inj ends
        obtain ⟨line, legibleLine, rfl⟩ := exists_line_of_fingerprintLines_eq legible longer
        exact absurd (holdsLine_iff.mpr ⟨line, _, legibleLine, spelled⟩) singleToo

/-- Lines tell readable fields. They are read from the last one on, since only the end of a line is
known to be free of marks. -/
theorem map_essence_eq {first second : List Field} (readable : ∀ field ∈ first, field.Readable)
    (readableToo : ∀ field ∈ second, field.Readable)
    (same : fingerprintLines first = fingerprintLines second) :
    first.map essence = second.map essence := by
  induction first using List.reverseRecOn generalizing second with
  | nil =>
      cases second with
      | nil => rfl
      | cons other others => simp [fingerprintLines] at same
  | append_singleton rest field ih =>
      rcases List.eq_nil_or_concat' second with rfl | ⟨others, other, rfl⟩
      · simp [fingerprintLines] at same
      · rw [List.forall_mem_append, List.forall_mem_singleton] at readable readableToo
        rw [fingerprintLines_snoc, fingerprintLines_snoc] at same
        obtain ⟨names, type, element, required⟩ :=
          readable.2.types.lineEnd_inj readableToo.2.types same
        obtain ⟨earlier, name⟩ := fingerprintLines_name_inj
          (fun field member => (readable.1 field member).types)
          (fun field member => (readableToo.1 field member).types)
          readable.2.name readableToo.2.name names
        have last : field.essence = other.essence := by
          rw [essence, essence, name, type, readable.2.element_eq readableToo.2 element, required]
        rw [List.map_append, List.map_append, ih readable.1 readableToo.1 earlier,
          List.map_singleton, List.map_singleton, last]

end Field

theorem toList_fingerprintText (localPart : String) (fields : List Field) :
    (fingerprintText localPart fields).toList =
      localPart.toList ++ Field.fingerprintLines fields := by
  unfold fingerprintText Field.fingerprintLines
  rw [String.toList_append, String.toList_join, List.flatMap_map]
  simp only [Field.toList_fingerprintText]

/-- Fields with the same essences have one fingerprint. -/
theorem fingerprint_congr {localPart : String} {first second : List Field}
    (same : first.map Field.essence = second.map Field.essence) :
    fingerprint localPart first = fingerprint localPart second := by
  have texts : first.map Field.fingerprintText = second.map Field.fingerprintText := by
    induction first generalizing second with
    | nil =>
        cases second with
        | nil => rfl
        | cons other others => cases same
    | cons field rest ih =>
        cases second with
        | nil => cases same
        | cons other others =>
            obtain ⟨head, tail⟩ := List.cons.inj same
            rw [List.map_cons, List.map_cons, Field.fingerprintText_congr head, ih tail]
  rw [fingerprint, fingerprint, fingerprintText, fingerprintText, texts]

/-- Readable fields with one fingerprint text have the same essences. -/
theorem essence_eq_of_fingerprintText_eq {localPart : String} {first second : List Field}
    (readable : ∀ field ∈ first, field.Readable) (readableToo : ∀ field ∈ second, field.Readable)
    (same : fingerprintText localPart first = fingerprintText localPart second) :
    first.map Field.essence = second.map Field.essence := by
  apply Field.map_essence_eq readable readableToo
  have spelled := congrArg String.toList same
  rw [toList_fingerprintText, toList_fingerprintText] at spelled
  exact List.append_cancel_left spelled

namespace Naming.Ledger

def text (ledger : Ledger) (model : Model) : String :=
  fingerprintText (localName model.name) (ledger.renameFields model.fields)

/-- The texts behind the fingerprints that entering a list of models takes. -/
def texts (ledger : Ledger) : List Model → List String
  | [] => []
  | model :: rest =>
      (if model.kind = .child then [ledger.text model] else []) ++
        (ledger.enter model).1.texts rest

theorem texts_append (ledger : Ledger) (first second : List Model) :
    ledger.texts (first ++ second) =
      ledger.texts first ++ (ledger.enterAll first).1.texts second := by
  induction first generalizing ledger with
  | nil => rfl
  | cons model rest ih =>
      rw [List.cons_append, texts, texts, ih, enterAll_cons, List.append_assoc]

theorem text_mem_texts (ledger : Ledger) (before after : List Model) {model : Model}
    (kind : model.kind = .child) :
    (ledger.enterAll before).1.text model ∈ ledger.texts (before ++ model :: after) := by
  rw [texts_append, texts, if_pos kind]
  simp

end Naming.Ledger

namespace Method

open Naming (Ledger)

/-- The texts behind the fingerprints that unification takes. -/
def fingerprintTexts (method : Method) : List String :=
  (Ledger.start method.outerNames).texts method.models

/-- Whether no two texts behind the fingerprints that unification takes have one digest. -/
def CollisionFree (method : Method) : Prop :=
  ∀ first ∈ method.fingerprintTexts, ∀ second ∈ method.fingerprintTexts,
    Digest.sha256Hex first = Digest.sha256Hex second → first = second

instance (method : Method) : Decidable method.CollisionFree :=
  inferInstanceAs (Decidable (∀ first ∈ method.fingerprintTexts,
    ∀ second ∈ method.fingerprintTexts,
      Digest.sha256Hex first = Digest.sha256Hex second → first = second))

end Method

end ApiSchema
