import ApiSchema.Proofs.Target.Arguments
import ApiSchema.Proofs.Target.Attributes

/-!
Reading the line of a field. Where types are words, a reader that knows nothing but the line finds the
name of the field, its type, its bounds and the texts that are wanted again; so the line of a field
tells all of this. Free texts stand between quotes, from which they can be read whatever they say.
-/

set_option autoImplicit false

namespace ApiSchema

/-- Types are words. -/
structure Field.Worded (field : Field) : Prop where
  type : Python.IsWord field.type
  element : ∀ element ∈ field.element, Python.IsWord element

namespace Python

section

variable (field : Field) (options : EmitOptions)

def boundArguments : List Argument :=
  match boundKeys? field.type with
  | none => []
  | some (maxKey, minKey) =>
      (field.maxLength.map fun length => ⟨maxKey, .number (toString length)⟩).toList ++
        (field.minLength.map fun length => ⟨minKey, .number (toString length)⟩).toList

/-- The name of a field in messages, where it is not that of the attribute. -/
def nameArgument : List Argument :=
  if attributeName field.name == field.name then [] else [⟨"alias", .quoted field.name⟩]

def fieldArguments : List Argument :=
  ((options.description? field).map fun text => ⟨"description", .quoted text⟩).toList ++
    ((options.sample? field).map fun text => ⟨"json_schema_extra", .sample text⟩).toList ++
    boundArguments field ++ nameArgument field

theorem bounds_eq : bounds field = (boundArguments field).map Argument.write := by
  unfold bounds boundArguments
  cases boundKeys? field.type with
  | none => rfl
  | some keys =>
      obtain ⟨maxKey, minKey⟩ := keys
      cases field.maxLength <;> cases field.minLength <;> rfl

theorem arguments_eq : arguments field options =
    (fieldArguments field options).map Argument.write := by
  have name : aliasArgument field = (nameArgument field).map Argument.write := by
    unfold aliasArgument nameArgument
    split <;> rfl
  have description : ((options.description? field).map fun text =>
      "description=" ++ quote text).toList = ((options.description? field).map fun text =>
        (⟨"description", .quoted text⟩ : Argument)).toList.map Argument.write := by
    cases options.description? field <;> rfl
  have sample : ((options.sample? field).map fun text =>
      "json_schema_extra=\x7b\"example\": " ++ quote text ++ "\x7d").toList =
        ((options.sample? field).map fun text =>
          (⟨"json_schema_extra", .sample text⟩ : Argument)).toList.map Argument.write := by
    cases options.sample? field with
    | none => rfl
    | some text =>
        simp [Argument.write, ArgumentValue.write, sampleStart, quote, ← String.toList_inj]
  rw [arguments, fieldArguments, List.map_append, List.map_append, List.map_append, name,
    description, sample, bounds_eq]

variable {field options}

theorem boundKeys_unmarked {keys : String × String} (found : boundKeys? field.type = some keys) :
    '=' ∉ keys.1.toList ∧ '=' ∉ keys.2.toList := by
  unfold boundKeys? at found
  split at found <;> cases found <;> decide

theorem isDigit_toString (number : Nat) : ∀ c ∈ (toString number).toList, c.isDigit = true := by
  intro c member
  rw [Nat.toString_eq_repr, Nat.toList_repr] at member
  exact Nat.isDigit_of_mem_toDigits (by decide) (by decide) member

theorem readable_number {key : String} (unmarked : '=' ∉ key.toList) (number : Nat) :
    (⟨key, .number (toString number)⟩ : Argument).Readable where
  key := unmarked
  digits := by
    intro digits same
    cases same
    exact isDigit_toString number

theorem readable_boundArguments : ∀ argument ∈ boundArguments field, argument.Readable := by
  unfold boundArguments
  split
  · simp
  · rename_i maxKey minKey found
    obtain ⟨max, min⟩ := boundKeys_unmarked found
    rw [List.forall_mem_append]
    constructor
    · cases field.maxLength with
      | none => exact fun _ member => absurd member List.not_mem_nil
      | some length => exact List.forall_mem_singleton.mpr (readable_number max length)
    · cases field.minLength with
      | none => exact fun _ member => absurd member List.not_mem_nil
      | some length => exact List.forall_mem_singleton.mpr (readable_number min length)

theorem readable_fieldArguments : ∀ argument ∈ fieldArguments field options, argument.Readable := by
  have quoted {key : String} (unmarked : '=' ∉ key.toList) (text : String) :
      (⟨key, .quoted text⟩ : Argument).Readable := ⟨unmarked, fun _ same => nomatch same⟩
  have unmarked : '=' ∉ "json_schema_extra".toList := by decide
  have sample (text : String) : (⟨"json_schema_extra", .sample text⟩ : Argument).Readable :=
    ⟨unmarked, fun _ same => nomatch same⟩
  rw [fieldArguments, List.forall_mem_append, List.forall_mem_append, List.forall_mem_append]
  refine ⟨⟨⟨?_, ?_⟩, readable_boundArguments⟩, ?_⟩
  · cases options.description? field with
    | none => simp
    | some text => simpa using quoted (by decide) text
  · cases options.sample? field with
    | none => simp
    | some text => simpa using sample text
  · unfold nameArgument
    split
    · simp
    · simpa using quoted (by decide) field.name

end

def argumentsStart : String := " = Field("

variable {field : Field} {options : EmitOptions}

theorem isWord_typeName {type : String} (word : IsWord type) : IsWord (typeName type) := by
  unfold typeName
  split
  · decide +kernel
  · exact word

/-- A type is one word, or a list. -/
theorem fieldType_cases (worded : field.Worded) :
    IsWord (fieldType field) ∨
      ∃ element, IsWord element ∧ fieldType field = "list[" ++ element ++ "]" := by
  unfold fieldType
  split
  · cases held : field.element with
    | none => exact Or.inl (by decide +kernel)
    | some element => exact Or.inr ⟨_, isWord_typeName (worded.element element held), rfl⟩
  · exact Or.inl (isWord_typeName worded.type)

theorem blank_not_mem_fieldType (worded : field.Worded) : ' ' ∉ (fieldType field).toList := by
  rcases fieldType_cases worded with word | ⟨element, word, list⟩
  · exact word.unmarked ' ' (by decide +kernel)
  · have inside := word.unmarked ' ' (by decide +kernel)
    rw [list]
    simpa using inside

theorem blank_not_mem_declaredType (worded : field.Worded) : ' ' ∉ (declaredType field).toList := by
  have type := blank_not_mem_fieldType worded
  unfold declaredType
  split
  · exact type
  · simpa using type

theorem startsWith_declaredType (worded : field.Worded) :
    Text.startsWith (declaredType field) "Optional[" = !field.required := by
  have type : Text.startsWith (fieldType field) "Optional[" = false := by
    rcases fieldType_cases worded with word | ⟨element, _, list⟩
    · rw [Text.startsWith, ← Bool.not_eq_true, List.isPrefixOf_iff_prefix]
      intro start
      exact word.unmarked '[' (by decide +kernel) (start.subset (by decide))
    · rw [list]
      simp [Text.startsWith, List.isPrefixOf]
  unfold declaredType
  split
  · rename_i required
    rw [type, required]
    rfl
  · rename_i optional
    rw [Bool.not_eq_true] at optional
    rw [optional]
    simp [Text.startsWith]

theorem listed_eq (first : Argument) (rest : List Argument) :
    listed (first :: rest) = ',' :: ' ' ::
      (String.intercalate ", " ((first :: rest).map Argument.write)).toList := by
  induction rest generalizing first with
  | nil => simp [listed]
  | cons second rest ih =>
      have tail := ih second
      rw [List.map_cons, List.map_cons, String.intercalate_cons_cons]
      rw [List.map_cons] at tail
      rw [listed, List.flatMap_cons]
      change _ ++ listed (second :: rest) = _
      rw [tail]
      simp

/-- Behind the type stands nothing, a default, or the arguments. -/
theorem assignment_cases (field : Field) (options : EmitOptions) :
    (fieldArguments field options = [] ∧
      (assignment field options = "" ∨ assignment field options = " = None")) ∨
      ∃ start behind, ',' ∉ start ∧ listed (fieldArguments field options) = ',' :: behind ∧
        (assignment field options).toList =
          argumentsStart.toList ++ (start ++ (listed (fieldArguments field options) ++ [')'])) := by
  rw [assignment, arguments_eq]
  cases fieldArguments field options with
  | nil =>
      refine Or.inl ⟨rfl, ?_⟩
      rw [List.map_nil]
      dsimp only
      split <;> simp
  | cons first rest =>
      refine Or.inr ⟨(if field.required then "..." else "default=None").toList, _, ?_,
        listed_eq first rest, ?_⟩
      · split <;> decide
      · rw [listed_eq, List.map_cons]
        simp [argumentsStart]

theorem length_le_listed (arguments : List Argument) :
    arguments.length ≤ (listed arguments).length := by
  induction arguments with
  | nil => exact Nat.zero_le _
  | cons first rest ih =>
      rw [listed, List.flatMap_cons, List.length_append, ← listed]
      simp only [List.length_cons]
      omega

def readAssignment (assigned : List Char) : Option (List Argument) :=
  if argumentsStart.toList.isPrefixOf assigned then
    readArguments assigned.length
      ((assigned.drop argumentsStart.length).dropWhile (· != ','))
  else some []

theorem readAssignment_eq (field : Field) (options : EmitOptions) :
    readAssignment (assignment field options).toList = some (fieldArguments field options) := by
  unfold readAssignment
  rcases assignment_cases field options with
    ⟨none, nothing | default⟩ | ⟨start, behind, unmarked, comma, spelled⟩
  · rw [none, nothing]
    rfl
  · rw [none, default]
    rfl
  · -- The default has no comma, so the first comma begins the arguments.
    have skipped : (start ++ (listed (fieldArguments field options) ++ [')'])).dropWhile
        (· != ',') = listed (fieldArguments field options) ++ [')'] := by
      have before : ∀ c ∈ start, (c != ',') = true :=
        fun c member => bne_iff_ne.mpr fun same => unmarked (same ▸ member)
      rw [List.dropWhile_append_of_pos before, comma]
      rfl
    have enough := length_le_listed (fieldArguments field options)
    have start : argumentsStart.toList.isPrefixOf (argumentsStart.toList ++
        (start ++ (listed (fieldArguments field options) ++ [')']))) = true := by
      simp
    rw [spelled, if_pos start, ← String.length_toList, List.drop_left, skipped]
    apply readArguments_listed readable_fieldArguments
    simp only [List.length_append]
    omega

/-- What stands behind the type begins with a blank. -/
theorem takeWhile_assignment (field : Field) (options : EmitOptions) :
    (assignment field options).toList.takeWhile (· != ' ') = [] ∧
      (assignment field options).toList.dropWhile (· != ' ') =
        (assignment field options).toList := by
  rcases assignment_cases field options with ⟨_, nothing | default⟩ | ⟨_, _, _, _, spelled⟩
  · rw [nothing]
    exact ⟨rfl, rfl⟩
  · rw [default]
    exact ⟨rfl, rfl⟩
  · rw [spelled]
    exact ⟨rfl, rfl⟩

/-- What the line of a field says. -/
structure Line where
  identifier : String
  typeHint : String
  arguments : List Argument

def lineOf (field : Field) (options : EmitOptions) : Line :=
  ⟨attributeName field.name, declaredType field, fieldArguments field options⟩

/-- What a line says, if it is one of a field. -/
def readLine? (line : String) : Option Line :=
  (cutLine? line).bind fun (identifier, behind) =>
    (readAssignment (behind.tail.dropWhile (· != ' '))).map fun arguments =>
      { identifier := String.ofList identifier
        typeHint := String.ofList (behind.tail.takeWhile (· != ' '))
        arguments }

theorem readLine?_fieldLine (worded : field.Worded) (options : EmitOptions) :
    readLine? (fieldLine field options) = some (lineOf field options) := by
  have filled : ∀ c ∈ (declaredType field).toList, (c != ' ') = true := fun c member =>
    bne_iff_ne.mpr fun same => blank_not_mem_declaredType worded (same ▸ member)
  obtain ⟨takes, drops⟩ := takeWhile_assignment field options
  rw [readLine?, cutLine?_fieldLine, Option.bind_some]
  dsimp only [List.tail_cons]
  rw [List.takeWhile_append_of_pos filled, List.dropWhile_append_of_pos filled, takes, drops,
    readAssignment_eq, Option.map_some, List.append_nil, String.ofList_toList, String.ofList_toList,
    lineOf]

namespace Line

def text? (line : Line) (key : String) : Option String :=
  line.arguments.findSome? fun argument => argument.text? key

def sample? (line : Line) : Option String := line.arguments.findSome? Argument.sample?

def bounds (line : Line) : List String := line.arguments.filterMap Argument.numeral?

/-- The name of the field: the alias if there is one, and the identifier otherwise. -/
def name (line : Line) : String := (line.text? "alias").getD line.identifier

def isRequired (line : Line) : Bool := !Text.startsWith line.typeHint "Optional["

/-- What a line tells of a field. -/
structure Tells (line : Line) (field : Field) (options : EmitOptions) : Prop where
  name : line.name = field.name
  required : line.isRequired = field.required
  typeHint : line.typeHint = declaredType field
  bounds : line.bounds = Python.bounds field
  description : line.text? "description" = options.description? field
  sample : line.sample? = options.sample? field

end Line

theorem boundArguments_number (field : Field) :
    ∀ argument ∈ boundArguments field, ∃ digits, argument.value = .number digits := by
  unfold boundArguments
  split
  · simp
  · cases field.maxLength <;> cases field.minLength <;> simp

/-- What is not looked for in bounds is looked for in the description, the sample and the name. -/
theorem findSome?_fieldArguments {α : Type} (read : Argument → Option α)
    (number : ∀ argument digits, argument.value = .number digits → read argument = none)
    (field : Field) (options : EmitOptions) :
    (fieldArguments field options).findSome? read =
      (((options.description? field).bind fun text => read ⟨"description", .quoted text⟩).or
        ((options.sample? field).bind fun text => read ⟨"json_schema_extra", .sample text⟩)).or
        ((nameArgument field).findSome? read) := by
  have optional {β : Type} (item? : Option β) (argument : β → Argument) :
      (item?.map argument).toList.findSome? read = item?.bind fun item => read (argument item) := by
    cases item? with
    | none => rfl
    | some item => simp
  have bounds : (boundArguments field).findSome? read = none := by
    rw [List.findSome?_eq_none_iff]
    intro argument member
    obtain ⟨digits, isNumber⟩ := boundArguments_number field argument member
    exact number argument digits isNumber
  rw [fieldArguments, List.findSome?_append, List.findSome?_append, List.findSome?_append, bounds,
    optional, optional, Option.or_none]

section

variable (field : Field) (options : EmitOptions)

theorem description_lineOf : (lineOf field options).text? "description" =
    options.description? field := by
  have bounds (argument : Argument) (digits : String) (number : argument.value = .number digits) :
      argument.text? "description" = none := by
    rw [Argument.text?, number]
  rw [Line.text?, lineOf, findSome?_fieldArguments _ bounds]
  unfold nameArgument
  cases options.description? field <;> cases options.sample? field <;> split <;>
    simp [Argument.text?]

theorem sample_lineOf : (lineOf field options).sample? = options.sample? field := by
  have bounds (argument : Argument) (digits : String) (number : argument.value = .number digits) :
      argument.sample? = none := by
    rw [Argument.sample?, number]
  rw [Line.sample?, lineOf, findSome?_fieldArguments _ bounds]
  unfold nameArgument
  cases options.description? field <;> cases options.sample? field <;> split <;>
    simp [Argument.sample?]

/-- The alias is the name of the field, and where there is none the attribute is. -/
theorem name_lineOf : (lineOf field options).name = field.name := by
  have bounds (argument : Argument) (digits : String) (number : argument.value = .number digits) :
      argument.text? "alias" = none := by
    rw [Argument.text?, number]
  have named : ((nameArgument field).findSome? fun argument => argument.text? "alias").getD
      (attributeName field.name) = field.name := by
    unfold nameArgument
    split
    · rename_i same
      exact eq_of_beq same
    · simp [Argument.text?]
  rw [Line.name, Line.text?, lineOf, findSome?_fieldArguments _ bounds]
  cases options.description? field <;> cases options.sample? field <;>
    simpa [Argument.text?] using named

theorem bounds_lineOf : (lineOf field options).bounds = bounds field := by
  have numerals : (boundArguments field).filterMap Argument.numeral? =
      (boundArguments field).map Argument.write := by
    unfold boundArguments
    split
    · rfl
    · cases field.maxLength <;> cases field.minLength <;> rfl
  rw [bounds_eq, ← numerals, Line.bounds, lineOf, fieldArguments]
  unfold nameArgument
  cases options.description? field <;> cases options.sample? field <;> split <;>
    simp [Argument.numeral?, List.filterMap_cons]

end

/-- The line of a field tells what it is. -/
theorem tells_fieldLine (worded : field.Worded) (options : EmitOptions) :
    ∃ line, readLine? (fieldLine field options) = some line ∧ line.Tells field options := by
  refine ⟨lineOf field options, readLine?_fieldLine worded options, ?_⟩
  exact {
    name := name_lineOf field options
    required := by rw [Line.isRequired, lineOf, startsWith_declaredType worded, Bool.not_not]
    typeHint := rfl
    bounds := bounds_lineOf field options
    description := description_lineOf field options
    sample := sample_lineOf field options }

/-- Fields that agree in all that their lines say. -/
structure Agree (options : EmitOptions) (first second : Field) : Prop where
  name : first.name = second.name
  required : first.required = second.required
  typeHint : declaredType first = declaredType second
  bounds : bounds first = bounds second
  description : options.wantDescription = true → first.description = second.description
  sample : options.wantSample = true → first.sample = second.sample

theorem Line.Tells.agree {line : Line} {first second : Field} {options : EmitOptions}
    (tells : line.Tells first options) (tellsToo : line.Tells second options) :
    Agree options first second where
  name := tells.name.symm.trans tellsToo.name
  required := tells.required.symm.trans tellsToo.required
  typeHint := tells.typeHint.symm.trans tellsToo.typeHint
  bounds := tells.bounds.symm.trans tellsToo.bounds
  description := by
    intro wanted
    have same := tells.description.symm.trans tellsToo.description
    unfold EmitOptions.description? at same
    rw [if_pos wanted, if_pos wanted] at same
    exact Option.some.inj same
  sample := by
    intro wanted
    have same := tells.sample.symm.trans tellsToo.sample
    unfold EmitOptions.sample? at same
    rwa [if_pos wanted, if_pos wanted] at same

/-- A quoted text is read from its quotes, the line of a field tells what it is, and so fields that
have one line agree. -/
theorem readable_fieldLine :
    (∀ (text : String) (behind : List Char),
      readQuoted ((escape text).toList ++ '"' :: behind) = some (text.toList, behind)) ∧
      (∀ (field : Field) (options : EmitOptions), field.Worded →
        ∃ line, readLine? (fieldLine field options) = some line ∧ line.Tells field options) ∧
      ∀ (first second : Field) (options : EmitOptions), first.Worded → second.Worded →
        fieldLine first options = fieldLine second options → Agree options first second := by
  refine ⟨fun text behind => ?_, fun field options worded => tells_fieldLine worded options, ?_⟩
  · rw [escape, String.toList_ofList, readQuoted_escape]
  · intro first second options worded wordedToo same
    obtain ⟨line, read, tells⟩ := tells_fieldLine worded options
    obtain ⟨other, readToo, tellsToo⟩ := tells_fieldLine wordedToo options
    rw [same, readToo] at read
    obtain rfl := Option.some.inj read
    exact tells.agree tellsToo

def disguised : Field :=
  { Field.of "orderId" "int" with
    description := "\", alias=\"id\\", sample := some "1, 2", maxLength := some 9 }

theorem readable_fieldLine_disguised :
    disguised.Worded ∧ { disguised with removed := true }.Worded ∧
      fieldLine disguised showAll = fieldLine { disguised with removed := true } showAll ∧
      Agree showAll disguised { disguised with removed := true } ∧
      ∃ line, readLine? (fieldLine disguised showAll) = some line ∧
        line.Tells disguised showAll := by
  have worded : disguised.Worded := ⟨by decide +kernel, fun _ held => nomatch held⟩
  have wordedToo : { disguised with removed := true }.Worded := ⟨worded.type, worded.element⟩
  obtain ⟨_, tells, agree⟩ := readable_fieldLine
  exact ⟨worded, wordedToo, rfl, agree _ _ showAll worded wordedToo rfl, tells _ showAll worded⟩

end Python

end ApiSchema
