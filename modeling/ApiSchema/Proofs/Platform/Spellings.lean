import ApiSchema.Platform.Alibaba
import ApiSchema.Proofs.Naming.Pascal
import ApiSchema.Proofs.Naming.Place

/-!
The spellings of lists of qualified classes. One pair of brackets is taken off a type, so a class,
an array of it and a generic list of it have the class as their element. Of an array of generic
lists only the outer brackets are taken off, and the closing angle bracket stays at the end of the
name.
-/

set_option autoImplicit false

namespace ApiSchema

namespace Text

def blankCodes : List Nat :=
  List.range' 0x9 5 ++ List.range' 0x2000 11 ++
    [0x20, 0x85, 0xA0, 0x1680, 0x2028, 0x2029, 0x202F, 0x205F, 0x3000]

theorem mem_blankCodes {c : Char} (blank : isBlank c = true) : c.toNat ∈ blankCodes := by
  simp only [isBlank, Bool.or_eq_true, Bool.and_eq_true, decide_eq_true_eq, beq_iff_eq] at blank
  simp only [blankCodes, List.mem_append, List.mem_range'_1, List.mem_cons, List.not_mem_nil]
  omega

theorem isAlphanumeric_blankCodes :
    ∀ code ∈ blankCodes, isAlphanumeric (Char.ofNat code) = false := by
  decide +kernel

theorem isBlank_of_isAlphanumeric {c : Char} (letter : isAlphanumeric c = true) :
    isBlank c = false := by
  by_contra blank
  have none :=
    isAlphanumeric_blankCodes c.toNat (mem_blankCodes (Bool.eq_true_of_not_eq_false blank))
  rw [Char.ofNat_toNat, letter] at none
  cases none

end Text

namespace Naming

open Text

/-- A name of letters, digits and underscores. -/
structure IsIdentifier (text : String) : Prop where
  filled : text ≠ ""
  plain : ∀ c ∈ text.toList, isAlphanumeric c = true ∨ c = '_'

theorem isIdentifier_iff {text : String} : IsIdentifier text ↔
    text ≠ "" ∧ (text.toList.all fun c => isAlphanumeric c || c == '_') = true := by
  simp only [List.all_eq_true, Bool.or_eq_true, beq_iff_eq]
  exact ⟨fun identifier => ⟨identifier.filled, identifier.plain⟩,
    fun ⟨filled, plain⟩ => ⟨filled, plain⟩⟩

instance : DecidablePred IsIdentifier := fun _ => decidable_of_iff' _ isIdentifier_iff

theorem IsIdentifier.unmarked {text : String} (identifier : IsIdentifier text) {mark : Char}
    (other : isAlphanumeric mark = false) (noUnderscore : mark ≠ '_') : mark ∉ text.toList := by
  intro member
  rcases identifier.plain mark member with letter | underscore
  · rw [other] at letter
    cases letter
  · exact noUnderscore underscore

/-- A name behind its qualifiers, with points between them. -/
def qualified (qualifiers : List String) (name : String) : String :=
  joinWith "." (qualifiers ++ [name])

def isPathChar (c : Char) : Bool := isAlphanumeric c || c == '_' || c == '.'

/-- No other mark stands in a qualified name. -/
theorem unmarked_of_isPathChar {cs : List Char} (path : ∀ c ∈ cs, isPathChar c = true) {mark : Char}
    (other : isPathChar mark = false) : mark ∉ cs := by
  intro member
  rw [path mark member] at other
  cases other

theorem isBlank_of_isPathChar {c : Char} (inPath : isPathChar c = true) : isBlank c = false := by
  simp only [isPathChar, Bool.or_eq_true, beq_iff_eq] at inPath
  rcases inPath with (letter | rfl) | rfl
  · exact isBlank_of_isAlphanumeric letter
  · decide
  · decide

theorem toList_qualified (qualifiers : List String) (name : String) :
    (qualified qualifiers name).toList =
      (qualifiers.flatMap fun qualifier => qualifier.toList ++ ['.']) ++ name.toList := by
  rw [qualified, joinWith, String.toList_intercalate, List.map_append, List.map_singleton]
  exact (intercalate_snoc '.' _ _).trans (by rw [List.flatMap_map])

theorem isPathChar_qualified {qualifiers : List String} {name : String}
    (identifiers : ∀ word ∈ qualifiers ++ [name], IsIdentifier word) :
    ∀ c ∈ (qualified qualifiers name).toList, isPathChar c = true := by
  have within : ∀ word ∈ qualifiers ++ [name], ∀ c ∈ word.toList, isPathChar c = true := by
    intro word among c member
    rcases (identifiers word among).plain c member with letter | rfl
    · simp [isPathChar, letter]
    · decide +kernel
  rw [List.forall_mem_append, List.forall_mem_singleton] at within
  rw [toList_qualified, List.forall_mem_append, List.forall_mem_flatMap]
  refine ⟨fun qualifier among => ?_, within.2⟩
  rw [List.forall_mem_append, List.forall_mem_singleton]
  exact ⟨within.1 qualifier among, by decide +kernel⟩

/-- What has no closing bracket is its own element. -/
theorem elementChars_of_plain {cs : List Char} (plain : ∀ c ∈ cs, isBlank c = false)
    (noSquare : ']' ∉ cs) (noAngle : '>' ∉ cs) : elementChars cs = cs := by
  have noSuffix : ['[', ']'].isSuffixOf cs = false := by
    rw [← Bool.not_eq_true, List.isSuffixOf_iff_suffix]
    exact fun suffix => noSquare (suffix.subset (by simp))
  have noArgument : typeArgument? cs = none := by
    rw [typeArgument?, if_neg]
    rw [beq_iff_eq]
    exact fun last => noAngle (List.mem_of_getLast? last)
  rw [elementChars, trimChars_of_forall plain, noSuffix, noArgument]
  rfl

/-- The element of an array stands before the brackets. -/
theorem elementChars_array {cs : List Char} (plain : ∀ c ∈ cs, isBlank c = false) :
    elementChars (cs ++ ['[', ']']) = cs := by
  have plainToo : ∀ c ∈ cs ++ ['[', ']'], isBlank c = false := by
    rw [List.forall_mem_append]
    exact ⟨plain, by simp [isBlank]⟩
  have suffix : ['[', ']'].isSuffixOf (cs ++ ['[', ']']) = true := by
    rw [List.isSuffixOf_iff_suffix]
    exact List.suffix_append cs _
  rw [elementChars, trimChars_of_forall plainToo, if_pos suffix]
  simp [trimChars_of_forall plain]

/-- The element of a generic type stands between the first angle bracket and the last one. -/
theorem elementChars_generic {generic argument : List Char}
    (plain : ∀ c ∈ generic, isBlank c = false) (plainToo : ∀ c ∈ argument, isBlank c = false)
    (unmarked : '<' ∉ generic) (filled : argument ≠ []) :
    elementChars (generic ++ '<' :: (argument ++ ['>'])) = argument := by
  have whole : ∀ c ∈ generic ++ '<' :: (argument ++ ['>']), isBlank c = false := by
    rw [List.forall_mem_append, List.forall_mem_cons, List.forall_mem_append]
    exact ⟨plain, by decide, plainToo, by simp [isBlank]⟩
  have noSuffix : ['[', ']'].isSuffixOf (generic ++ '<' :: (argument ++ ['>'])) = false := by
    rw [← Bool.not_eq_true, List.isSuffixOf_iff_suffix]
    intro suffix
    have last := suffix.getLast (by simp)
    simp at last
  have last : (generic ++ '<' :: (argument ++ ['>'])).getLast? = some '>' := by
    rw [← List.cons_append, ← List.append_assoc, List.getLast?_concat]
  have argued : typeArgument? (generic ++ '<' :: (argument ++ ['>'])) = some argument := by
    rw [typeArgument?, if_pos (by rw [last]; rfl), cutAt_append_cons unmarked, Option.map_some]
    dsimp only
    rw [List.dropLast_concat, trimChars_of_forall plainToo]
    obtain ⟨c, rest, rfl⟩ := List.exists_cons_of_ne_nil filled
    rfl
  rw [elementChars, trimChars_of_forall whole, noSuffix, argued]
  rfl

/-- The last piece of texts before points is what stands behind them. -/
theorem lastPiece_flatMap (qualifiers : List String) {behind : List Char}
    (unmarked : '.' ∉ behind) : lastPiece (· == '.')
      ((qualifiers.flatMap fun qualifier => qualifier.toList ++ ['.']) ++ behind) = behind := by
  induction qualifiers with
  | nil =>
      refine lastPiece_of_forall fun c member => beq_false_of_ne ?_
      exact fun isPoint => unmarked (isPoint ▸ member)
  | cons qualifier rest ih =>
      rw [List.flatMap_cons, List.append_assoc, List.append_assoc, List.singleton_append,
        lastPiece_append_cons rfl, ih]

end Naming

namespace Alibaba

open Text Naming

variable {packages qualifiers : List String} {name : String}

theorem element_eq {type : String} {cs : List Char} (unwrapped : elementChars type.toList = cs) :
    element type = String.ofList (pascalChars (lastPiece (· == '.') cs)) := by
  rw [element, className, elementName, String.toList_ofList, unwrapped]

/-- The element is the class where nothing but its qualified name is left of the type. -/
theorem element_of_qualified (identifier : IsIdentifier name) {type : String}
    (unwrapped : elementChars type.toList = (qualified qualifiers name).toList) :
    element type = pascalCase name := by
  have noPoint : '.' ∉ name.toList := identifier.unmarked (by decide +kernel) (by decide)
  rw [element_eq unwrapped, toList_qualified, lastPiece_flatMap qualifiers noPoint, pascalCase]

theorem isPathChar_list (identifiers : ∀ word ∈ packages, IsIdentifier word) :
    ∀ c ∈ (qualified packages "List").toList, isPathChar c = true := by
  apply isPathChar_qualified
  rw [List.forall_mem_append, List.forall_mem_singleton]
  exact ⟨identifiers, by decide +kernel⟩

theorem elementChars_list (identifiers : ∀ word ∈ packages, IsIdentifier word) {path : List Char}
    (plain : ∀ c ∈ path, isBlank c = false) (filled : path ≠ []) :
    elementChars ((qualified packages "List").toList ++ '<' :: (path ++ ['>'])) = path := by
  have inList := isPathChar_list identifiers
  apply elementChars_generic _ plain _ filled
  · exact fun c member => isBlank_of_isPathChar (inList c member)
  · exact unmarked_of_isPathChar inList (by decide +kernel)

/-- Only the brackets of the array are taken off an array of lists. -/
theorem elementChars_listArray (identifiers : ∀ word ∈ packages, IsIdentifier word)
    {path : List Char} (plain : ∀ c ∈ path, isBlank c = false) :
    elementChars ((qualified packages "List").toList ++ '<' :: (path ++ ['>', '[', ']'])) =
      (qualified packages "List").toList ++ '<' :: (path ++ ['>']) := by
  have inList := isPathChar_list identifiers
  have plainList : ∀ c ∈ (qualified packages "List").toList ++ '<' :: (path ++ ['>']),
      isBlank c = false := by
    rw [List.forall_mem_append, List.forall_mem_cons, List.forall_mem_append,
      List.forall_mem_singleton]
    exact ⟨fun c member => isBlank_of_isPathChar (inList c member), by decide, plain, by decide⟩
  rw [← elementChars_array plainList]
  simp

/-- Behind the last point of an array of lists the closing bracket of the list is left, and without
a qualified element the whole list. -/
theorem lastPiece_list (packages qualifiers : List String) {name : String}
    (identifier : IsIdentifier name) :
    lastPiece (· == '.') ((qualified packages "List").toList ++
        '<' :: ((qualified qualifiers name).toList ++ ['>'])) =
      (if qualifiers = [] then "List<" ++ name ++ ">" else name ++ ">").toList := by
  have noPoint : '.' ∉ name.toList ++ ['>'] := by
    rw [List.mem_append, not_or]
    exact ⟨identifier.unmarked (by decide +kernel) (by decide), by decide⟩
  cases qualifiers with
  | nil =>
      have noPointToo : '.' ∉ "List<".toList ++ (name.toList ++ ['>']) := by
        rw [List.mem_append, not_or]
        exact ⟨by decide +kernel, noPoint⟩
      rw [if_pos rfl, toList_qualified, toList_qualified, List.append_assoc]
      exact (lastPiece_flatMap packages noPointToo).trans (by simp)
  | cons qualifier rest =>
      have pointed : (qualified packages "List").toList ++
          '<' :: ((qualified (qualifier :: rest) name).toList ++ ['>']) =
            ((qualified packages "List").toList ++ '<' :: qualifier.toList) ++ '.' ::
              ((rest.flatMap fun qualifier => qualifier.toList ++ ['.']) ++
                (name.toList ++ ['>'])) := by
        rw [toList_qualified (qualifier :: rest)]
        simp
      rw [if_neg (List.cons_ne_nil _ _), pointed, lastPiece_append_cons rfl,
        lastPiece_flatMap rest noPoint, String.toList_append]
      rfl

/-- A closing bracket is kept in Pascal case, and a name without one has none in Pascal case. -/
theorem pascalCase_ne (identifier : IsIdentifier name) {other : String}
    (bracketed : '>' ∈ other.toList) : pascalCase other ≠ pascalCase name := by
  intro same
  have kept := mem_pascalChars_of_mem bracketed (by decide) (by decide +kernel)
  rw [String.ofList_injective same] at kept
  rcases mem_pascalChars kept with ⟨inName, _⟩ | raised
  · exact identifier.unmarked (by decide +kernel) (by decide) inName
  · exact absurd raised (by decide)

/-- A class, an array of it and a generic list of it, qualified or not, have the class as their
element. An array of generic lists never has: its name ends with the bracket of the list. -/
theorem element_qualified
    (identifiers : ∀ word ∈ packages ++ qualifiers ++ [name], IsIdentifier word) :
    element (qualified qualifiers name) = pascalCase name ∧
      element (qualified qualifiers name ++ "[]") = pascalCase name ∧
      element ("List<" ++ qualified qualifiers name ++ ">") = pascalCase name ∧
      element (qualified packages "List" ++ "<" ++ qualified qualifiers name ++ ">") =
        pascalCase name ∧
      element (qualified packages "List" ++ "<" ++ qualified qualifiers name ++ ">[]") =
        pascalCase (if qualifiers = [] then "List<" ++ name ++ ">" else name ++ ">") ∧
      element (qualified packages "List" ++ "<" ++ qualified qualifiers name ++ ">[]") ≠
        pascalCase name := by
  rw [List.append_assoc, List.forall_mem_append] at identifiers
  obtain ⟨identifiersBefore, identifiers⟩ := identifiers
  have identifier : IsIdentifier name := identifiers name (by simp)
  have inPath := isPathChar_qualified identifiers
  have plain : ∀ c ∈ (qualified qualifiers name).toList, isBlank c = false := fun c member =>
    isBlank_of_isPathChar (inPath c member)
  have filled : (qualified qualifiers name).toList ≠ [] := by
    rw [toList_qualified]
    exact List.append_ne_nil_of_right_ne_nil _ fun empty =>
      identifier.filled (String.toList_eq_nil_iff.mp empty)
  have listChars (packages : List String) (behind : String) :
      (qualified packages "List" ++ "<" ++ qualified qualifiers name ++ behind).toList =
        (qualified packages "List").toList ++
          '<' :: ((qualified qualifiers name).toList ++ behind.toList) := by
    simp
  have last : element (qualified packages "List" ++ "<" ++ qualified qualifiers name ++ ">[]") =
      pascalCase (if qualifiers = [] then "List<" ++ name ++ ">" else name ++ ">") := by
    have unwrapped := (congrArg elementChars (listChars packages ">[]")).trans
      (elementChars_listArray identifiersBefore plain)
    rw [element_eq unwrapped, lastPiece_list packages qualifiers identifier, pascalCase]
  refine ⟨?_, ?_, ?_, ?_, last, ?_⟩
  · apply element_of_qualified identifier
    exact elementChars_of_plain plain (unmarked_of_isPathChar inPath (by decide +kernel))
      (unmarked_of_isPathChar inPath (by decide +kernel))
  · apply element_of_qualified identifier
    rw [String.toList_append]
    exact elementChars_array plain
  · apply element_of_qualified identifier
    have spelled := listChars [] ">"
    exact (congrArg elementChars spelled).trans (elementChars_list (by simp) plain filled)
  · apply element_of_qualified identifier
    rw [listChars]
    exact elementChars_list identifiersBefore plain filled
  · rw [last]
    apply pascalCase_ne identifier
    split <;> simp

theorem element_qualified_foo :
    (∀ word ∈ ["java", "util"] ++ ["com", "alibaba"] ++ ["foo_bar"], IsIdentifier word) ∧
      element "com.alibaba.foo_bar" = "FooBar" ∧
      element "com.alibaba.foo_bar[]" = "FooBar" ∧
      element "List<com.alibaba.foo_bar>" = "FooBar" ∧
      element "java.util.List<com.alibaba.foo_bar>" = "FooBar" ∧
      element "java.util.List<com.alibaba.foo_bar>[]" = "FooBar>" := by
  have identifiers :
      ∀ word ∈ ["java", "util"] ++ ["com", "alibaba"] ++ ["foo_bar"], IsIdentifier word := by
    decide +kernel
  have name : pascalCase "foo_bar" = "FooBar" := by decide +kernel
  obtain ⟨plain, array, list, listToo, arrayOfLists, _⟩ := element_qualified identifiers
  rw [name] at plain array list listToo
  have bracketed : pascalCase "foo_bar>" = "FooBar>" := by decide +kernel
  exact ⟨identifiers, plain, array, list, listToo, arrayOfLists.trans bracketed⟩

/-- The closing bracket of a list stays at the end of the name if the list stands in an array. -/
theorem element_arrayOfLists :
    (∀ word ∈ ["java", "util"] ++ ["com", "alibaba"] ++ ["Foo"], IsIdentifier word) ∧
      qualified ["java", "util"] "List" ++ "<" ++ qualified ["com", "alibaba"] "Foo" ++ ">[]" =
        "java.util.List<com.alibaba.Foo>[]" ∧
      element "java.util.List<com.alibaba.Foo>[]" = "Foo>" ∧
      element "java.util.List<com.alibaba.Foo>[]" ≠ pascalCase "Foo" := by
  decide +kernel

end Alibaba

end ApiSchema
