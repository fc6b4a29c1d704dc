import ApiSchema.Proofs.Text.Pieces
import ApiSchema.Target.Python

/-!
The attributes of classes. An attribute is made of the words of a field's name and of nothing else,
so names with the same words share one. So does a name that begins with no letter with the name that
has `field` before it, and a keyword with the keyword behind which an underscore stands. Otherwise
different names have different attributes.
-/

set_option autoImplicit false

namespace ApiSchema

namespace Python

open ApiSchema.Naming

def partsWords (c : Char) : Bool := !Text.isAlphanumeric c

def nameWords (name : String) : List (List Char) :=
  Text.splitChars partsWords (snakeChars none name.toList)

def written (words : List (List Char)) : String := String.ofList (List.intercalate ['_'] words)

/-- At least one word, and no word with an underscore in it. -/
structure Unbroken (words : List (List Char)) : Prop where
  some : words ≠ []
  unmarked : ∀ word ∈ words, '_' ∉ word

theorem Unbroken.written_inj {first second : List (List Char)} (unbroken : Unbroken first)
    (unbrokenToo : Unbroken second) : written first = written second ↔ first = second := by
  refine ⟨fun same => ?_, congrArg written⟩
  have joined := congrArg (List.splitOn '_') (String.ofList_injective same)
  rwa [List.splitOn_intercalate '_' unbroken.unmarked unbroken.some,
    List.splitOn_intercalate '_' unbrokenToo.unmarked unbrokenToo.some] at joined

theorem unbroken_nameWords (name : String) : Unbroken (nameWords name) where
  some := Text.splitChars_ne_nil _
  unmarked := by
    intro word member marked
    have parts := Text.separates_of_mem_splitChars member '_' marked
    exact absurd parts (by decide)

theorem intercalate_cons_head (c : Char) (word : List Char) (words : List (List Char)) :
    List.intercalate ['_'] ((c :: word) :: words) =
      c :: List.intercalate ['_'] (word :: words) := by
  cases words <;> simp [List.intercalate_cons_cons]

/-- Whatever parts words is written as an underscore. -/
theorem map_nameChar (cs : List Char) :
    cs.map nameChar = List.intercalate ['_'] (Text.splitChars partsWords cs) := by
  induction cs with
  | nil => rfl
  | cons c rest ih =>
      rw [List.map_cons, ih, Text.splitChars]
      cases pieced : Text.splitChars partsWords rest with
      | nil => exact absurd pieced (Text.splitChars_ne_nil rest)
      | cons word words =>
          dsimp only
          cases parts : partsWords c with
          | true =>
              have mark : nameChar c = '_' := by
                rw [partsWords, Bool.not_eq_true'] at parts
                rw [nameChar, parts, Bool.false_or]
                split
                · exact eq_of_beq ‹_›
                · rfl
              rw [mark, if_pos rfl, List.intercalate_cons_cons]
              rfl
          | false =>
              have kept : nameChar c = c := by
                rw [partsWords, Bool.not_eq_false'] at parts
                rw [nameChar, parts]
                rfl
              rw [kept, if_neg Bool.false_ne_true, intercalate_cons_head]

/-- Whether an attribute cannot begin with the words, since no letter does. -/
def needsStart (words : List (List Char)) : Bool :=
  words == [[]] || (words.head?.bind List.head?).any Char.isDigit

def isReserved (words : List (List Char)) : Bool :=
  match words with
  | [word] => isKeyword (String.ofList word)
  | _ => false

def fieldWord : List Char := ['f', 'i', 'e', 'l', 'd']

def attributeWords (words : List (List Char)) : List (List Char) :=
  if needsStart words then fieldWord :: words
  else if isReserved words then words ++ [[]]
  else words

theorem keywords_plain : ∀ keyword ∈ keywords, '_' ∉ keyword.toList ∧ keyword.toList ≠ fieldWord ∧
    (keyword.toList.head?.any fun c => !c.isDigit) = true := by
  decide +kernel

theorem isReserved_iff {words : List (List Char)} :
    isReserved words = true ↔ ∃ keyword ∈ keywords, words = [keyword.toList] := by
  unfold isReserved
  split
  · rename_i word
    rw [isKeyword, List.contains_iff_mem]
    constructor
    · exact fun member => ⟨_, member, by rw [String.toList_ofList]⟩
    · rintro ⟨keyword, member, same⟩
      rwa [(List.cons.inj same).1, String.ofList_toList]
  · rename_i long
    refine iff_of_false Bool.false_ne_true ?_
    rintro ⟨keyword, _, rfl⟩
    exact long _ rfl

/-- The words that begin an attribute are told by how they are written. -/
theorem needsStart_written {words : List (List Char)} (unbroken : Unbroken words) :
    ((written words).isEmpty || (written words).toList.head?.any Char.isDigit) =
      needsStart words := by
  rw [written, needsStart, String.toList_ofList, Bool.eq_iff_iff]
  match words with
  | [] => exact absurd rfl unbroken.some
  | [[]] => simp
  | [c :: word] => simp
  | [] :: second :: rest => simp [List.intercalate_cons_cons]
  | (c :: word) :: second :: rest => simp [List.intercalate_cons_cons]

theorem isKeyword_written {words : List (List Char)} (unbroken : Unbroken words) :
    isKeyword (written words) = isReserved words := by
  match words with
  | [] => exact absurd rfl unbroken.some
  | [word] => rw [written, List.intercalate_singleton, isReserved]
  | first :: second :: rest =>
      have marked : '_' ∈ (written (first :: second :: rest)).toList := by
        simp [written, List.intercalate_cons_cons]
      have long : isReserved (first :: second :: rest) = false := rfl
      rw [long, isKeyword, ← Bool.not_eq_true, List.contains_iff_mem]
      exact fun member => (keywords_plain _ member).1 marked

theorem written_cons (word : List Char) {words : List (List Char)} (some : words ≠ []) :
    written (word :: words) = String.ofList word ++ "_" ++ written words := by
  obtain ⟨second, rest, rfl⟩ := List.exists_cons_of_ne_nil some
  simp [written, List.intercalate_cons_cons, ← String.toList_inj]

theorem Unbroken.field {words : List (List Char)} (unbroken : Unbroken words) :
    Unbroken (fieldWord :: words) :=
  ⟨List.cons_ne_nil _ _, List.forall_mem_cons.mpr ⟨by decide, unbroken.unmarked⟩⟩

theorem isReserved_field {words : List (List Char)} (unbroken : Unbroken words) :
    isReserved (fieldWord :: words) = false := by
  obtain ⟨second, rest, rfl⟩ := List.exists_cons_of_ne_nil unbroken.some
  rfl

/-- An attribute is told by the words of the name. -/
theorem attributeName_eq (name : String) :
    attributeName name = written (attributeWords (nameWords name)) := by
  have unbroken := unbroken_nameWords name
  have snake : String.ofList ((snakeChars none name.toList).map nameChar) =
      written (nameWords name) := by
    rw [map_nameChar, written, nameWords]
  rw [attributeName, snake, attributeWords, needsStart_written unbroken]
  split
  · have start : "field_" ++ written (nameWords name) = written (fieldWord :: nameWords name) := by
      rw [written_cons fieldWord unbroken.some]
      rfl
    rw [start, isKeyword_written unbroken.field, isReserved_field unbroken]
    rfl
  · rw [isKeyword_written unbroken]
    split
    · rename_i reserved
      obtain ⟨keyword, _, single⟩ := isReserved_iff.mp reserved
      rw [single]
      simp [written]
    · rfl

/-- The ways in which words become those of an attribute that has itself other words. -/
inductive Becomes : List (List Char) → List (List Char) → Prop
  | same (words : List (List Char)) : Becomes words words
  | started {words : List (List Char)} (bare : needsStart words = true) :
      Becomes words (fieldWord :: words)
  | ended {words : List (List Char)} (reserved : isReserved words = true) :
      Becomes words (words ++ [[]])

/-- Whether two names are taken for the same attribute. -/
def Alike (first second : String) : Prop :=
  Becomes (nameWords first) (nameWords second) ∨ Becomes (nameWords second) (nameWords first)

theorem needsStart_of_isReserved {words : List (List Char)} (reserved : isReserved words = true)
    (behind : List (List Char)) : needsStart (words ++ behind) = false := by
  obtain ⟨keyword, member, rfl⟩ := isReserved_iff.mp reserved
  have letter := (keywords_plain keyword member).2.2
  cases spelled : keyword.toList with
  | nil =>
      rw [spelled] at letter
      cases letter
  | cons c rest =>
      rw [spelled] at letter
      simpa [needsStart] using letter

theorem attributeWords_cases (words : List (List Char)) :
    (needsStart words = true ∧ attributeWords words = fieldWord :: words) ∨
      (isReserved words = true ∧ attributeWords words = words ++ [[]]) ∨
        attributeWords words = words := by
  unfold attributeWords
  split
  · exact Or.inl ⟨‹_›, rfl⟩
  · split
    · exact Or.inr (Or.inl ⟨‹_›, rfl⟩)
    · exact Or.inr (Or.inr rfl)

theorem not_isReserved_field {words : List (List Char)} (reserved : isReserved words = true)
    (other : List (List Char)) : fieldWord :: other ≠ words ++ [[]] := by
  obtain ⟨keyword, member, rfl⟩ := isReserved_iff.mp reserved
  exact fun same => (keywords_plain keyword member).2.1 (List.cons.inj same).1.symm

theorem Becomes.attributeWords_eq {first second : List (List Char)} (unbroken : Unbroken first)
    (becomes : Becomes first second) : attributeWords first = attributeWords second := by
  cases becomes with
  | same => rfl
  | started bare =>
      have letter : needsStart (fieldWord :: first) = false := by simp [needsStart, fieldWord]
      rw [attributeWords, if_pos bare, attributeWords, letter, isReserved_field unbroken]
      rfl
  | ended reserved =>
      have bare := needsStart_of_isReserved reserved []
      have letter := needsStart_of_isReserved reserved [[]]
      have long : isReserved (first ++ [[]]) = false := by
        obtain ⟨keyword, _, rfl⟩ := isReserved_iff.mp reserved
        rfl
      rw [List.append_nil] at bare
      rw [attributeWords, bare, reserved, attributeWords, letter, long]
      rfl

theorem attributeWords_eq_iff {first second : List (List Char)} (unbroken : Unbroken first)
    (unbrokenToo : Unbroken second) :
    attributeWords first = attributeWords second ↔ Becomes first second ∨ Becomes second first := by
  constructor
  · intro same
    -- `field` is no keyword, so a word before the words is never an underscore behind them.
    rcases attributeWords_cases first with ⟨bare, started⟩ | ⟨reserved, ended⟩ | plain
    · rw [started] at same
      rcases attributeWords_cases second with ⟨_, starts⟩ | ⟨reserved, ends⟩ | plain
      · rw [starts] at same
        obtain rfl := (List.cons.inj same).2
        exact Or.inl (.same _)
      · rw [ends] at same
        exact absurd same (not_isReserved_field reserved _)
      · rw [plain] at same
        rw [← same]
        exact Or.inl (.started bare)
    · rw [ended] at same
      rcases attributeWords_cases second with ⟨_, starts⟩ | ⟨_, ends⟩ | plain
      · rw [starts] at same
        exact absurd same.symm (not_isReserved_field reserved _)
      · rw [ends] at same
        obtain rfl := List.append_cancel_right same
        exact Or.inl (.same _)
      · rw [plain] at same
        rw [← same]
        exact Or.inl (.ended reserved)
    · rw [plain] at same
      rcases attributeWords_cases second with ⟨bare, starts⟩ | ⟨reserved, ends⟩ | plain
      · rw [starts] at same
        rw [same]
        exact Or.inr (.started bare)
      · rw [ends] at same
        rw [same]
        exact Or.inr (.ended reserved)
      · rw [plain] at same
        rw [same]
        exact Or.inl (.same _)
  · rintro (becomes | becomes)
    · exact becomes.attributeWords_eq unbroken
    · exact (becomes.attributeWords_eq unbrokenToo).symm

theorem Unbroken.attributeWords {words : List (List Char)} (unbroken : Unbroken words) :
    Unbroken (attributeWords words) := by
  rcases attributeWords_cases words with ⟨_, started⟩ | ⟨_, ended⟩ | plain
  · rw [started]
    exact unbroken.field
  · rw [ended]
    exact ⟨List.append_ne_nil_of_left_ne_nil unbroken.some _,
      List.forall_mem_append.mpr ⟨unbroken.unmarked, by simp⟩⟩
  · rw [plain]
    exact unbroken

/-- Names have one attribute exactly if they are alike. -/
theorem attributeName_eq_iff {first second : String} :
    attributeName first = attributeName second ↔ Alike first second := by
  have unbroken := unbroken_nameWords first
  have unbrokenToo := unbroken_nameWords second
  rw [attributeName_eq, attributeName_eq,
    unbroken.attributeWords.written_inj unbrokenToo.attributeWords,
    attributeWords_eq_iff unbroken unbrokenToo, Alike]

def isNameChar (c : Char) : Bool := Text.isAlphanumeric c || c == '_'

theorem isNameChar_nameChar (c : Char) : isNameChar (nameChar c) = true := by
  unfold nameChar
  split
  · assumption
  · decide +kernel

def IsWord (text : String) : Prop := ∀ c ∈ text.toList, isNameChar c = true

instance : DecidablePred IsWord := fun text =>
  List.decidableBAll (fun c => isNameChar c = true) text.toList

/-- No other mark stands in a word. -/
theorem IsWord.unmarked {text : String} (word : IsWord text) (mark : Char)
    (other : isNameChar mark = false) : mark ∉ text.toList := by
  intro member
  rw [word mark member] at other
  cases other

/-- What holds for the characters of the snake case, and for those that may be put before or behind
it, holds for the characters of the attribute. -/
theorem forall_attributeName {holds : Char → Prop} {name : String}
    (snake : ∀ c ∈ (snakeChars none name.toList).map nameChar, holds c)
    (start : ∀ c ∈ "field_".toList, holds c) (ending : ∀ c ∈ "_".toList, holds c) :
    ∀ c ∈ (attributeName name).toList, holds c := by
  rw [← String.toList_ofList (l := (snakeChars none name.toList).map nameChar)] at snake
  have append {first second : String} (all : ∀ c ∈ first.toList, holds c)
      (allToo : ∀ c ∈ second.toList, holds c) : ∀ c ∈ (first ++ second).toList, holds c := by
    rw [String.toList_append, List.forall_mem_append]
    exact ⟨all, allToo⟩
  unfold attributeName
  dsimp only
  split
  · split
    · exact append (append start snake) ending
    · exact append start snake
  · split
    · exact append snake ending
    · exact snake

/-- An attribute is a word, whatever the field is called. -/
theorem isWord_attributeName (name : String) : IsWord (attributeName name) := by
  have start : IsWord "field_" := by decide +kernel
  have ending : IsWord "_" := by decide +kernel
  refine forall_attributeName ?_ start ending
  rw [List.forall_mem_map]
  exact fun c _ => isNameChar_nameChar c

/-- What stands before the first colon of an indented line, and what stands behind it. -/
def cutLine? (line : String) : Option (List Char × List Char) :=
  (Text.after? line "    ").bind fun indented => Text.cutAt [':'] indented.toList

theorem cutLine?_fieldLine (field : Field) (options : EmitOptions) :
    cutLine? (fieldLine field options) = some ((attributeName field.name).toList,
      ' ' :: ((declaredType field).toList ++ (assignment field options).toList)) := by
  have line : fieldLine field options = "    " ++
      (attributeName field.name ++ (": " ++ (declaredType field ++ assignment field options))) := by
    simp only [fieldLine, String.append_assoc]
  have unmarked := (isWord_attributeName field.name).unmarked ':' (by decide +kernel)
  rw [cutLine?, line, Text.after?_append, Option.bind_some, String.toList_append,
    String.toList_append, String.toList_append]
  exact Text.cutAt_append_cons unmarked _

/-- The attribute at the start of a line, if the line is one of a field. -/
def attribute? (line : String) : Option String :=
  (cutLine? line).map fun parts => String.ofList parts.1

theorem attribute?_fieldLine (field : Field) (options : EmitOptions) :
    attribute? (fieldLine field options) = some (attributeName field.name) := by
  rw [attribute?, cutLine?_fieldLine, Option.map_some, String.ofList_toList]

/-- The lines of a class have the attributes of the fields that are shown. -/
theorem filterMap_attribute? (model : Model) (options : EmitOptions) :
    (classLines model options).filterMap attribute? =
      (options.visibleFields model).map fun field => attributeName field.name := by
  have header : attribute?
      ("class " ++ model.name ++ "(" ++ options.bases.get model.kind ++ "):") = none := by
    simp [attribute?, cutLine?, Text.after?, Text.startsWith, List.isPrefixOf]
  have body (lines : List String) :
      (if lines.isEmpty then ["    pass"] else lines).filterMap attribute? =
        lines.filterMap attribute? := by
    cases lines with
    | nil => decide +kernel
    | cons first rest => rw [List.isEmpty_cons, if_neg Bool.false_ne_true]
  have fields : ((options.visibleFields model).map fun field =>
      fieldLine field options).filterMap attribute? =
        (options.visibleFields model).map fun field => attributeName field.name := by
    rw [List.filterMap_map]
    simp only [Function.comp_def, attribute?_fieldLine]
    rw [List.filterMap_eq_map']
  have blank : ["", ""].filterMap attribute? = [] := by decide +kernel
  unfold classLines
  dsimp only
  rw [List.filterMap_append, List.filterMap_append, body, fields,
    List.filterMap_cons_none header, blank]
  exact (List.append_nil _).trans (List.nil_append _)

/-- Fields with different names have different attributes in their class, unless two of the names
are alike. -/
theorem nodup_attributes_iff (model : Model) (options : EmitOptions)
    (distinct : (model.fields.map Field.name).Nodup) :
    (classLines model options).filterMap attribute? =
        (options.visibleFields model).map (fun field => attributeName field.name) ∧
      (((classLines model options).filterMap attribute?).Nodup ↔
        ∀ first ∈ options.visibleFields model, ∀ second ∈ options.visibleFields model,
          Alike first.name second.name → first.name = second.name) := by
  have attributes := filterMap_attribute? model options
  refine ⟨attributes, ?_⟩
  have shown : (options.visibleFields model).Sublist model.fields := List.filter_sublist
  have names : ((options.visibleFields model).map Field.name).Nodup :=
    distinct.sublist (shown.map Field.name)
  rw [attributes, List.nodup_map_iff_inj_on names.of_map]
  refine forall₄_congr fun first member second memberToo => ?_
  have sameName : first.name = second.name ↔ first = second :=
    ⟨List.inj_on_of_nodup_map names member memberToo, congrArg Field.name⟩
  rw [attributeName_eq_iff, sameName]

def showAll : EmitOptions where
  wantRemoved := true
  wantDeprecated := true
  wantSample := true
  wantDescription := true
  bases := ⟨"TopParamBase", "TopResponseBase", "TopRequestBase", "BaseModel"⟩

def orderOf (names : List String) : Model := ⟨"Order", .child, names.map fun name => .of name "int"⟩

theorem nodup_attributes_order :
    ((orderOf ["orderId", "2nd", "class"]).fields.map Field.name).Nodup ∧
      (classLines (orderOf ["orderId", "2nd", "class"]) showAll).filterMap attribute? =
        ["order_id", "field_2nd", "class_"] ∧
      ∀ first ∈ showAll.visibleFields (orderOf ["orderId", "2nd", "class"]),
        ∀ second ∈ showAll.visibleFields (orderOf ["orderId", "2nd", "class"]),
          Alike first.name second.name → first.name = second.name := by
  have distinct : ((orderOf ["orderId", "2nd", "class"]).fields.map Field.name).Nodup := by
    decide +kernel
  have attributes : (classLines (orderOf ["orderId", "2nd", "class"]) showAll).filterMap
      attribute? = ["order_id", "field_2nd", "class_"] := by
    decide +kernel
  obtain ⟨_, nodup⟩ := nodup_attributes_iff (orderOf ["orderId", "2nd", "class"]) showAll distinct
  exact ⟨distinct, attributes, nodup.mp (by rw [attributes]; decide +kernel)⟩

/-- A name in camel case has the attribute of one in snake case. -/
theorem attributes_orderId :
    ((orderOf ["orderId", "order_id"]).fields.map Field.name).Nodup ∧
      (classLines (orderOf ["orderId", "order_id"]) showAll).filterMap attribute? =
        ["order_id", "order_id"] ∧
      ¬ ((classLines (orderOf ["orderId", "order_id"]) showAll).filterMap attribute?).Nodup := by
  decide +kernel

end Python

end ApiSchema
