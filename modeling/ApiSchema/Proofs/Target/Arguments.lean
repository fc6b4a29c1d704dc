import ApiSchema.Proofs.Text.Pieces
import ApiSchema.Target.Python

set_option autoImplicit false

namespace ApiSchema.Python

/-- The text up to the first double quote that no backslash stands before, without the backslashes
of its characters, and what stands behind that quote. -/
def readQuoted : List Char → Option (List Char × List Char)
  | [] => none
  | '"' :: rest => some ([], rest)
  | '\\' :: c :: rest => (readQuoted rest).map fun (text, behind) => (c :: text, behind)
  | c :: rest => (readQuoted rest).map fun (text, behind) => (c :: text, behind)

/-- A text is read from behind its first quote. -/
theorem readQuoted_escape (text : List Char) (behind : List Char) :
    readQuoted (text.flatMap escapeChar ++ '"' :: behind) = some (text, behind) := by
  induction text with
  | nil => rw [List.flatMap_nil, List.nil_append, readQuoted]
  | cons c rest ih =>
      rw [List.flatMap_cons, List.append_assoc, escapeChar]
      by_cases backslash : c = '\\'
      · subst backslash
        rw [beq_self_eq_true, if_pos rfl, List.cons_append, List.cons_append, readQuoted,
          List.nil_append, ih, Option.map_some]
      · by_cases mark : c = '"'
        · subst mark
          rw [beq_false_of_ne backslash, beq_self_eq_true, if_neg Bool.false_ne_true, if_pos rfl,
            List.cons_append, List.cons_append, readQuoted, List.nil_append, ih, Option.map_some]
        · rw [beq_false_of_ne backslash, beq_false_of_ne mark, if_neg Bool.false_ne_true,
            if_neg Bool.false_ne_true, List.singleton_append, readQuoted, ih, Option.map_some]
          · exact mark
          · exact fun _ _ same _ => backslash same

/-- The value of an argument: a text, an object with a sample, or a number. -/
inductive ArgumentValue where
  | quoted (text : String)
  | sample (text : String)
  | number (digits : String)

structure Argument where
  key : String
  value : ArgumentValue

def sampleStart : String := "\x7b\"example\": \""

def ArgumentValue.write : ArgumentValue → String
  | .quoted text => quote text
  | .sample text => sampleStart ++ escape text ++ "\"\x7d"
  | .number digits => digits

namespace Argument

def write (argument : Argument) : String := argument.key ++ "=" ++ argument.value.write

def text? (argument : Argument) (key : String) : Option String :=
  match argument.value with
  | .quoted text => if argument.key = key then some text else none
  | _ => none

def sample? (argument : Argument) : Option String :=
  match argument.value with
  | .sample text => some text
  | _ => none

/-- The argument as it is written, if its value is a number. -/
def numeral? (argument : Argument) : Option String :=
  match argument.value with
  | .number _ => some argument.write
  | _ => none

end Argument

/-- The value at the beginning of a text, and what stands behind it. -/
def readValue (cs : List Char) : Option (ArgumentValue × List Char) :=
  if cs.head? = some '"' then
    (readQuoted cs.tail).map fun (text, behind) => (.quoted (String.ofList text), behind)
  else if sampleStart.toList.isPrefixOf cs then
    (readQuoted (cs.drop sampleStart.length)).map fun (text, behind) =>
      (.sample (String.ofList text), behind.tail)
  else some (.number (String.ofList (cs.takeWhile Char.isDigit)), cs.dropWhile Char.isDigit)

/-- The argument at the beginning of a text, and what stands behind it. -/
def readArgument (cs : List Char) : Option (Argument × List Char) :=
  (Text.cutAt ['='] cs).bind fun (key, behind) =>
    (readValue behind).map fun (value, rest) => (⟨String.ofList key, value⟩, rest)

/-- At most the given number of arguments, each behind a comma, and the closing bracket. -/
def readArguments : Nat → List Char → Option (List Argument)
  | _, [')'] => some []
  | limit + 1, ',' :: ' ' :: cs =>
      (readArgument cs).bind fun (argument, rest) =>
        (readArguments limit rest).map fun arguments => argument :: arguments
  | _, _ => none

/-- What can be read: a key without an equals sign, and a number of digits. -/
structure Argument.Readable (argument : Argument) : Prop where
  key : '=' ∉ argument.key.toList
  digits : ∀ digits, argument.value = .number digits → ∀ c ∈ digits.toList, c.isDigit = true

/-- What stands behind an argument: another one, or the closing bracket. -/
def EndsArgument (behind : List Char) : Prop :=
  ∃ mark rest, behind = mark :: rest ∧ (mark = ',' ∨ mark = ')')

theorem readValue_quoted (text : String) (behind : List Char) :
    readValue ((quote text).toList ++ behind) = some (.quoted text, behind) := by
  have spelled : (quote text).toList ++ behind =
      '"' :: (text.toList.flatMap escapeChar ++ '"' :: behind) := by
    simp [quote, escape]
  rw [spelled, readValue, List.head?_cons, if_pos rfl, List.tail_cons, readQuoted_escape]
  simp

theorem readValue_sample (text : String) (behind : List Char) :
    readValue ((sampleStart ++ escape text ++ "\"\x7d").toList ++ behind) =
      some (.sample text, behind) := by
  have spelled : (sampleStart ++ escape text ++ "\"\x7d").toList ++ behind =
      sampleStart.toList ++ (text.toList.flatMap escapeChar ++ '"' :: '\x7d' :: behind) := by
    simp [escape]
  have noText : ∀ rest, (sampleStart.toList ++ rest).head? ≠ some '"' := by
    simp [sampleStart]
  have start : ∀ rest, sampleStart.toList.isPrefixOf (sampleStart.toList ++ rest) = true := by
    simp
  rw [spelled, readValue, if_neg (noText _), if_pos (start _), ← String.length_toList,
    List.drop_left, readQuoted_escape]
  simp

/-- Digits are told from other values by the first character, and end before what follows. -/
theorem readValue_number {digits : String} (areDigits : ∀ c ∈ digits.toList, c.isDigit = true)
    {behind : List Char} (ends : EndsArgument behind) :
    readValue (digits.toList ++ behind) = some (.number digits, behind) := by
  obtain ⟨mark, rest, rfl, isMark⟩ := ends
  have first : ∀ c, (digits.toList ++ mark :: rest).head? = some c → c ≠ '"' ∧ c ≠ '\x7b' := by
    intro c begins
    cases spelled : digits.toList with
    | nil =>
        rw [spelled] at begins
        obtain rfl := Option.some.inj begins
        rcases isMark with rfl | rfl <;> decide
    | cons d others =>
        rw [spelled] at begins areDigits
        obtain rfl := Option.some.inj begins
        have digit := areDigits d List.mem_cons_self
        constructor <;> rintro rfl <;> exact absurd digit (by decide)
  have noText : (digits.toList ++ mark :: rest).head? ≠ some '"' :=
    fun begins => (first _ begins).1 rfl
  have noSample : ¬ sampleStart.toList.isPrefixOf (digits.toList ++ mark :: rest) = true := by
    rw [List.isPrefixOf_iff_prefix]
    rintro ⟨others, same⟩
    have begins : (digits.toList ++ mark :: rest).head? = some '\x7b' := by
      rw [← same]
      rfl
    exact (first _ begins).2 rfl
  have stops : ¬ mark.isDigit = true := by
    rcases isMark with rfl | rfl <;> decide
  rw [readValue, if_neg noText, if_neg noSample, List.takeWhile_append_of_pos areDigits,
    List.dropWhile_append_of_pos areDigits, List.takeWhile_cons_of_neg stops,
    List.dropWhile_cons_of_neg stops, List.append_nil, String.ofList_toList]

theorem readValue_write {value : ArgumentValue}
    (digits : ∀ digits, value = .number digits → ∀ c ∈ digits.toList, c.isDigit = true)
    {behind : List Char} (ends : EndsArgument behind) :
    readValue (value.write.toList ++ behind) = some (value, behind) := by
  cases value with
  | quoted text => exact readValue_quoted text behind
  | sample text => exact readValue_sample text behind
  | number written => exact readValue_number (digits written rfl) ends

theorem readArgument_write {argument : Argument} (readable : argument.Readable)
    {behind : List Char} (ends : EndsArgument behind) :
    readArgument (argument.write.toList ++ behind) = some (argument, behind) := by
  have spelled : argument.write.toList ++ behind =
      argument.key.toList ++ '=' :: (argument.value.write.toList ++ behind) := by
    simp [Argument.write]
  rw [spelled, readArgument, Text.cutAt_append_cons readable.key, Option.bind_some]
  dsimp only
  rw [readValue_write readable.digits ends, Option.map_some, String.ofList_toList]

def listed (arguments : List Argument) : List Char :=
  arguments.flatMap fun argument => ',' :: ' ' :: argument.write.toList

theorem endsArgument_listed (arguments : List Argument) :
    EndsArgument (listed arguments ++ [')']) := by
  cases arguments with
  | nil => exact ⟨')', [], rfl, Or.inr rfl⟩
  | cons first rest => exact ⟨',', _, rfl, Or.inl rfl⟩

/-- One argument after the other is read. -/
theorem readArguments_listed {arguments : List Argument}
    (readable : ∀ argument ∈ arguments, argument.Readable) {limit : Nat}
    (enough : arguments.length ≤ limit) :
    readArguments limit (listed arguments ++ [')']) = some arguments := by
  induction arguments generalizing limit with
  | nil => cases limit <;> rfl
  | cons first rest ih =>
      obtain ⟨own, others⟩ := List.forall_mem_cons.mp readable
      cases limit with
      | zero => exact absurd enough (Nat.not_succ_le_zero _)
      | succ limit =>
          have spelled : listed (first :: rest) ++ [')'] =
              ',' :: ' ' :: (first.write.toList ++ (listed rest ++ [')'])) := by
            simp [listed]
          rw [spelled, readArguments, readArgument_write own (endsArgument_listed rest),
            Option.bind_some]
          dsimp only
          rw [ih others (Nat.le_of_succ_le_succ enough), Option.map_some]

end ApiSchema.Python
