import ApiSchema.Proofs.Target.Attributes
import ApiSchema.Proofs.Text.CaseMapping

set_option autoImplicit false

namespace ApiSchema

namespace Python

open ApiSchema.Naming

/-- A text that can stand for an attribute. -/
structure Usable (text : String) : Prop where
  filled : text ≠ ""
  plain : ∀ c ∈ text.toList, Text.isAlphanumeric c = true ∨ c = '_'
  start : ∀ c ∈ text.toList.head?, c.isDigit = false
  free : text ∉ keywords

theorem needsStart_attributeWords (words : List (List Char)) :
    needsStart (attributeWords words) = false := by
  unfold attributeWords
  split
  · simp [needsStart, fieldWord]
  · rename_i started
    split
    · exact needsStart_of_isReserved ‹_› [[]]
    · exact Bool.eq_false_of_not_eq_true started

theorem isReserved_attributeWords {words : List (List Char)} (unbroken : Unbroken words) :
    isReserved (attributeWords words) = false := by
  unfold attributeWords
  split
  · exact isReserved_field unbroken
  · split
    · rename_i reserved
      obtain ⟨keyword, _, rfl⟩ := isReserved_iff.mp reserved
      rfl
    · exact Bool.eq_false_of_not_eq_true ‹_›

theorem usable_attributeName (name : String) : Usable (attributeName name) := by
  have unbroken := (unbroken_nameWords name).attributeWords
  have started := needsStart_written unbroken
  have free := isKeyword_written unbroken
  rw [needsStart_attributeWords, ← attributeName_eq, Bool.or_eq_false_iff] at started
  rw [isReserved_attributeWords (unbroken_nameWords name), ← attributeName_eq] at free
  refine ⟨?_, ?_, ?_, ?_⟩
  · intro empty
    rw [empty] at started
    cases started.1
  · intro c member
    simpa [isNameChar] using isWord_attributeName name c member
  · intro c first
    rw [Option.mem_def] at first
    have digit := started.2
    rwa [first, Option.any_some] at digit
  · rwa [isKeyword, ← Bool.not_eq_true, List.contains_iff_mem] at free

/-- A usable name in snake case is its own attribute. -/
theorem attributeName_of_usable {text : String} (usable : Usable text)
    (snake : snakeChars none text.toList = text.toList) : attributeName text = text := by
  have kept : text.toList.map nameChar = text.toList := by
    conv_rhs => rw [← List.map_id text.toList]
    refine List.map_congr_left fun c member => ?_
    rw [nameChar, if_pos (by simpa using usable.plain c member), id]
  have filled : text.isEmpty = false := by simpa using usable.filled
  have start : text.toList.head?.any Char.isDigit = false := by
    cases first : text.toList.head? with
    | none => rfl
    | some c => exact usable.start c first
  have free : isKeyword text = false := by
    rw [isKeyword, ← Bool.not_eq_true, List.contains_iff_mem]
    exact usable.free
  rw [attributeName, snake, kept, String.ofList_toList, filled, start, Bool.or_false,
    if_neg Bool.false_ne_true, free, if_neg Bool.false_ne_true]

def IsAscii (text : String) : Prop := ∀ c ∈ text.toList, c.toNat < 0x80

instance : DecidablePred IsAscii := fun text =>
  List.decidableBAll (fun c : Char => c.toNat < 0x80) text.toList

/-- A character of a name in snake case: a small letter, a digit or an underscore. -/
def isSnakeChar (c : Char) : Bool := c.isLower || c.isDigit || c == '_'

theorem isSnakeChar_lowerChar {c : Char} (small : c.toNat < 0x80) :
    ((Text.lowerChar c).all fun d => isSnakeChar (nameChar d)) = true :=
  Text.forall_ascii (fun c => ((Text.lowerChar c).all fun d => isSnakeChar (nameChar d)) = true)
    (by decide +kernel) small

theorem isSnakeChar_snakeChars {cs : List Char} (ascii : ∀ c ∈ cs, c.toNat < 0x80)
    (previous : Option Char) :
    ∀ d ∈ (snakeChars previous cs).map nameChar, isSnakeChar d = true := by
  induction cs generalizing previous with
  | nil => simp [snakeChars]
  | cons c rest ih =>
      rw [List.forall_mem_cons] at ascii
      have lower := List.all_eq_true.mp (isSnakeChar_lowerChar ascii.1)
      rw [snakeChars, List.map_append, List.map_append, List.forall_mem_append,
        List.forall_mem_append]
      refine ⟨⟨?_, ?_⟩, ih ascii.2 (some c)⟩
      · have mark : (['_'].map nameChar).all isSnakeChar = true := by decide +kernel
        split
        · exact List.all_eq_true.mp mark
        · simp
      · rwa [List.forall_mem_map]

theorem isSnakeChar_attributeName {name : String} (ascii : IsAscii name) :
    ∀ c ∈ (attributeName name).toList, isSnakeChar c = true := by
  have start : "field_".toList.all isSnakeChar = true := by decide +kernel
  have ending : "_".toList.all isSnakeChar = true := by decide +kernel
  exact forall_attributeName (isSnakeChar_snakeChars ascii none) (List.all_eq_true.mp start)
    (List.all_eq_true.mp ending)

theorem toNat_lt_of_isSnakeChar {c : Char} (snake : isSnakeChar c = true) : c.toNat < 0x80 := by
  simp only [isSnakeChar, Bool.or_eq_true, beq_iff_eq] at snake
  rcases snake with (letter | digit) | rfl
  · by_contra large
    rw [Text.isLower_eq_false_iff.mpr (by omega)] at letter
    cases letter
  · simp only [Char.isDigit, Bool.and_eq_true, decide_eq_true_eq, UInt32.le_iff_toNat_le] at digit
    have high : c.toNat ≤ 0x39 := digit.2
    omega
  · decide

/-- Characters of snake case are not changed. -/
theorem snakeChars_of_isSnakeChar {cs : List Char} (snake : ∀ c ∈ cs, isSnakeChar c = true)
    (previous : Option Char) : snakeChars previous cs = cs := by
  induction cs generalizing previous with
  | nil => rfl
  | cons c rest ih =>
      rw [List.forall_mem_cons] at snake
      have small := toNat_lt_of_isSnakeChar snake.1
      have kept : isSnakeChar c = true → Text.isUppercase c = false ∧ Text.lowerChar c = [c] :=
        Text.forall_ascii (fun c => isSnakeChar c = true →
          Text.isUppercase c = false ∧ Text.lowerChar c = [c]) (by decide +kernel) small
      obtain ⟨noCapital, same⟩ := kept snake.1
      rw [snakeChars, noCapital, same, ih snake.2]
      rfl

/-- Whatever a field is called, its attribute is usable. A name in ASCII has an attribute in snake
case, which is not changed when it is taken for a name again. -/
theorem attributes_usable :
    (∀ name, Usable (attributeName name)) ∧
      ∀ name, IsAscii name →
        (∀ c ∈ (attributeName name).toList, c.isLower = true ∨ c.isDigit = true ∨ c = '_') ∧
          attributeName (attributeName name) = attributeName name := by
  refine ⟨usable_attributeName, fun name ascii => ?_⟩
  have snake := isSnakeChar_attributeName ascii
  constructor
  · intro c member
    simpa [isSnakeChar, or_assoc] using snake c member
  · exact attributeName_of_usable (usable_attributeName name) (snakeChars_of_isSnakeChar snake none)

theorem attributes_usable_second :
    IsAscii "2ndClass-ID" ∧ attributeName "2ndClass-ID" = "field_2nd_class_id" ∧
      attributeName "field_2nd_class_id" = "field_2nd_class_id" ∧ Usable "field_2nd_class_id" := by
  obtain ⟨usable, inAscii⟩ := attributes_usable
  have ascii : IsAscii "2ndClass-ID" := by decide +kernel
  have spelled : attributeName "2ndClass-ID" = "field_2nd_class_id" := by decide +kernel
  obtain ⟨_, again⟩ := inAscii "2ndClass-ID" ascii
  have usableToo := usable "2ndClass-ID"
  rw [spelled] at again usableToo
  exact ⟨ascii, spelled, again, usableToo⟩

end Python

end ApiSchema
