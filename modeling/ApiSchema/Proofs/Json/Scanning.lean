import ApiSchema.Json.Printer
import ApiSchema.Json.Reader
import Mathlib

set_option autoImplicit false

namespace ApiSchema.Json

theorem hexValue?_digitChar {digit : Nat} (isDigit : digit < 16) :
    hexValue? (Nat.digitChar digit) = some digit := by
  revert digit
  decide

/-- The four digits of a control character are read as its code. -/
theorem readFourHex_control {code : Nat} (control : code < 0x20) (rest : List Char) (place : Nat) :
    readFourHex ('0' :: '0' :: Nat.digitChar (code / 16) :: Nat.digitChar (code % 16) :: rest)
      place = .ok code := by
  have high : hexValue? (Nat.digitChar (code / 16)) = some (code / 16) :=
    hexValue?_digitChar (by omega)
  have low : hexValue? (Nat.digitChar (code % 16)) = some (code % 16) :=
    hexValue?_digitChar (by omega)
  have zero : hexValue? '0' = some 0 := by decide
  have read : (List.take 4 ('0' :: '0' :: Nat.digitChar (code / 16) ::
      Nat.digitChar (code % 16) :: rest)).mapM hexValue? =
        some [0, 0, code / 16, code % 16] := by
    simp [zero, high, low]
  have whole : ((0 * 16 + 0) * 16 + code / 16) * 16 + code % 16 = code := by omega
  simp only [readFourHex, read, whole]

theorem readEscape_control {c : Char} (control : c.toNat < 0x20) (rest : List Char)
    (place : Nat) :
    readEscape ('u' :: '0' :: '0' :: Nat.digitChar (c.toNat / 16) ::
      Nat.digitChar (c.toNat % 16) :: rest) place = .ok (c, 5) := by
  have short : c.toNat < 0xD800 := by omega
  have noLow : ¬ (0xDC00 ≤ c.toNat ∧ c.toNat ≤ 0xDFFF) := by omega
  simp [readEscape, simpleEscape?, readFourHex_control control, short, noLow]

/-- A character is printed as it is, or as an escape that is read as the character. -/
theorem escapeChar_cases (c : Char) :
    (escapeChar c = [c] ∧ c ≠ '"' ∧ c ≠ '\\' ∧ ¬ c.toNat < 0x20) ∨
      ∃ code, escapeChar c = '\\' :: code ∧
        ∀ rest place, readEscape (code ++ rest) place = .ok (c, code.length) := by
  unfold escapeChar
  have escape {meant : Char} (letter : Char) (same : (c == meant) = true)
      (simple : simpleEscape? letter = some meant) :
      ∃ code, ['\\', letter] = '\\' :: code ∧
        ∀ rest place, readEscape (code ++ rest) place = .ok (c, code.length) := by
    obtain rfl : c = meant := beq_iff_eq.mp same
    refine ⟨[letter], rfl, fun rest place => ?_⟩
    rw [List.singleton_append, readEscape, simple]
    rfl
  split_ifs with quote backslash lineFeed carriageReturn tab backspace formFeed control
  · exact .inr (escape '"' quote rfl)
  · exact .inr (escape '\\' backslash rfl)
  · exact .inr (escape 'n' lineFeed rfl)
  · exact .inr (escape 'r' carriageReturn rfl)
  · exact .inr (escape 't' tab rfl)
  · exact .inr (escape 'b' backspace rfl)
  · exact .inr (escape 'f' formFeed rfl)
  · exact .inr ⟨_, rfl, fun rest place => readEscape_control control rest place⟩
  · rw [beq_iff_eq] at quote backslash
    exact .inl ⟨rfl, quote, backslash, control⟩

/-- What an escaped character is read as. -/
theorem readString_escapeChar (c : Char) (rest : List Char) (place count : Nat)
    (taken : List Char) :
    ∃ behind, readString (escapeChar c ++ rest) place count taken =
      readString rest behind (count + (escapeChar c).length) (c :: taken) := by
  rcases escapeChar_cases c with ⟨plain, noQuote, noEscape, printable⟩ | ⟨code, escaped, read⟩
  · refine ⟨place + c.utf8Size, ?_⟩
    rw [plain, List.singleton_append, readString]
    simp [noQuote, noEscape, printable]
  · refine ⟨place + 1 + code.length, ?_⟩
    rw [escaped, List.cons_append, readString]
    simp [read, Nat.add_comm, Nat.add_left_comm]

/-- What escaped characters are read as. -/
theorem readString_flatMap (cs rest : List Char) (place count : Nat) (taken : List Char) :
    ∃ behind, readString (cs.flatMap escapeChar ++ rest) place count taken =
      readString rest behind (count + (cs.flatMap escapeChar).length) (cs.reverse ++ taken) := by
  induction cs generalizing place count taken with
  | nil => exact ⟨place, rfl⟩
  | cons c cs ih =>
      obtain ⟨between, first⟩ :=
        readString_escapeChar c (cs.flatMap escapeChar ++ rest) place count taken
      obtain ⟨behind, later⟩ := ih between (count + (escapeChar c).length) (c :: taken)
      refine ⟨behind, ?_⟩
      rw [List.flatMap_cons, List.append_assoc, first, later, List.length_append, Nat.add_assoc,
        List.reverse_cons, List.append_assoc, List.singleton_append]

/-- A printed string is read as its text. -/
theorem stringToken_flatMap (text : String) (rest : List Char) (place : Nat) :
    ∃ stop, stringToken (text.toList.flatMap escapeChar ++ '"' :: rest) place =
      (.quoted (.sound text stop), (text.toList.flatMap escapeChar).length + 1) := by
  obtain ⟨behind, read⟩ := readString_flatMap text.toList ('"' :: rest) place 0 []
  have closed : readString (text.toList.flatMap escapeChar ++ '"' :: rest) place 0 [] =
      .ok (text, (text.toList.flatMap escapeChar).length + 1, behind + 1) := by
    rw [read, readString]
    simp
  exact ⟨behind + 1, by rw [stringToken, closed]⟩

/-- The text does not go on with a part of a number. -/
def EndsNumber (rest : List Char) : Prop :=
  ∀ c ∈ rest.head?, c.isDigit = false ∧ c ≠ '.' ∧ c ≠ 'e' ∧ c ≠ 'E'

theorem digitsOf_append {digits rest : List Char} (areDigits : ∀ c ∈ digits, c.isDigit = true)
    (ends : ∀ c ∈ rest.head?, c.isDigit = false) :
    digitsOf (digits ++ rest) = digits.map fun c => c.toNat - '0'.toNat := by
  have stops : rest.takeWhile Char.isDigit = [] := by
    cases rest with
    | nil => rfl
    | cons c rest => rw [List.takeWhile_cons, ends c rfl, if_neg Bool.false_ne_true]
  rw [digitsOf, List.takeWhile_append_of_pos areDigits, stops, List.append_nil]

/-- A positive number does not begin with a zero. -/
theorem toDigits_of_pos {number : Nat} (positive : 0 < number) :
    ∃ first rest, Nat.toDigits 10 number = Nat.digitChar first :: rest ∧
      0 < first ∧ first < 10 := by
  induction number using Nat.strongRecOn with
  | ind number ih =>
      rw [Nat.toDigits_eq_if (by decide)]
      split
      · rename_i small
        exact ⟨number, [], rfl, positive, small⟩
      · obtain ⟨first, rest, spelled, bounds⟩ := ih (number / 10) (by omega) (by omega)
        rw [spelled]
        exact ⟨first, rest ++ [Nat.digitChar (number % 10)], rfl, bounds⟩

def digitValues (number : Nat) : List Nat :=
  (Nat.toDigits 10 number).map fun c => c.toNat - '0'.toNat

theorem digitValues_not_padded (number : Nat) :
    ((digitValues number).head? == some 0 && (Nat.toDigits 10 number).length != 1) = false := by
  unfold digitValues
  rcases Nat.eq_zero_or_pos number with rfl | positive
  · rfl
  · obtain ⟨first, rest, spelled, more, small⟩ := toDigits_of_pos positive
    have value : (Nat.digitChar first).toNat - 48 = first :=
      Nat.toNat_digitChar_sub_48_of_lt_ten small
    have different : first ≠ 0 := Nat.ne_of_gt more
    simp [spelled, value, different]

theorem foldl_digitValues (number : Nat) :
    (digitValues number).foldl (fun sofar digit => 10 * sofar + digit) 0 = number := by
  rw [digitValues, List.foldl_map, ← Nat.ofDigitChars_eq_foldl, Nat.ofDigitChars_ten_toDigits]

theorem le_foldl_digits (digits : List Nat) (sofar : Nat) :
    sofar ≤ digits.foldl (fun sofar digit => 10 * sofar + digit) sofar := by
  induction digits generalizing sofar with
  | nil => exact Nat.le_refl _
  | cons digit rest ih => exact Nat.le_trans (by omega) (ih (10 * sofar + digit))

/-- Digits are all taken if their number fits sixty-four bits. -/
theorem appendDigits_eq {digits : List Nat} {sofar : Nat}
    (fits : digits.foldl (fun sofar digit => 10 * sofar + digit) sofar < 2 ^ 64) :
    appendDigits sofar digits =
      (digits.foldl (fun sofar digit => 10 * sofar + digit) sofar, 0) := by
  induction digits generalizing sofar with
  | nil => rfl
  | cons digit rest ih =>
      have here : 10 * sofar + digit < Nat.pow 2 64 :=
        Nat.lt_of_le_of_lt (le_foldl_digits rest _) fits
      rw [appendDigits, if_pos here, ih fits, List.foldl_cons]

theorem scanNumber_toDigits (number : Nat) {rest : List Char} (ends : EndsNumber rest)
    (early : Reason) (place : Nat) :
    scanNumber early (Nat.toDigits 10 number ++ rest) place =
      .ok ((Nat.toDigits 10 number).length, ⟨false, digitValues number, none, none⟩) := by
  have areDigits : ∀ c ∈ Nat.toDigits 10 number, c.isDigit = true :=
    fun c member => Nat.isDigit_of_mem_toDigits (by decide) (by decide) member
  have whole : digitsOf (Nat.toDigits 10 number ++ rest) = digitValues number :=
    digitsOf_append areDigits fun c member => (ends c member).1
  have given : (digitValues number).isEmpty = false := by
    rw [digitValues, List.isEmpty_map, List.isEmpty_eq_false_iff]
    exact Nat.toDigits_ne_nil
  have unsigned : ((Nat.toDigits 10 number ++ rest).head? == some '-') = false := by
    cases spelled : Nat.toDigits 10 number with
    | nil => exact absurd spelled Nat.toDigits_ne_nil
    | cons first others =>
        have isDigit := areDigits first (by rw [spelled]; exact List.mem_cons_self)
        rw [List.cons_append, List.head?_cons, beq_eq_false_iff_ne]
        rintro ⟨⟩
        cases isDigit
  have size : (digitValues number).length = (Nat.toDigits 10 number).length := List.length_map _
  unfold scanNumber
  simp only [unsigned, Bool.false_eq_true, ↓reduceIte, List.drop_zero, whole, given,
    digitValues_not_padded, size, Nat.zero_add, List.drop_left]
  cases rest with
  | nil => simp
  | cons c rest =>
      obtain ⟨_, noPoint, noSmall, noLarge⟩ := ends c rfl
      simp [noPoint, noSmall, noLarge]

/-- A printed number of at most sixty-four bits is read as it was. -/
theorem numberToken_toDigits {number : Nat} (small : number < 2 ^ 64) {rest : List Char}
    (ends : EndsNumber rest) (place : Nat) :
    numberToken (Nat.toDigits 10 number ++ rest) place =
      (.plain (.sound (.number (.integer number))
        (place + (Nat.toDigits 10 number).length)), (Nat.toDigits 10 number).length) := by
  have whole : appendDigits 0 (digitValues number) = (number, 0) := by
    have value := foldl_digitValues number
    rw [appendDigits_eq (by rw [value]; exact small), value]
  have read : Parts.number ⟨false, digitValues number, none, none⟩ place
      (Nat.toDigits 10 number).length = .ok (.integer number) := by
    simp [Parts.number, whole, appendDigits]
  simp only [numberToken, scanNumber_toDigits number ends, read]

theorem tokenAt_of_isDigit {c : Char} (isDigit : c.isDigit = true) (rest : List Char)
    (place : Nat) :
    tokenAt c rest place =
      ((numberToken (c :: rest) place).1, (numberToken (c :: rest) place).2 - 1) := by
  unfold tokenAt
  split
  any_goals cases isDigit
  have below : c.toNat ≤ 57 := by
    simp only [Char.isDigit, Bool.and_eq_true, decide_eq_true_eq, UInt32.le_iff_toNat_le] at isDigit
    exact isDigit.2
  have noOpen : (c.toNat == 0x7B) = false := beq_false_of_ne (by omega)
  have noClose : (c.toNat == 0x7D) = false := beq_false_of_ne (by omega)
  simp [noOpen, noClose, isDigit]

/-- A printed word is read as the scalar that it is for. -/
theorem wordToken_append (word : List Char) (value : Scalar) (rest : List Char) (place : Nat) :
    wordToken word value (word ++ rest) place =
      (.plain (.sound value (place + word.length)), word.length) := by
  have follows (place : Nat) : wordFault? word (word ++ rest) place = none := by
    induction word generalizing place with
    | nil => rfl
    | cons c word ih =>
        rw [List.cons_append, wordFault?, beq_self_eq_true, if_pos rfl]
        exact ih (place + 1)
  rw [wordToken, follows]

theorem isSpace_of_isDigit {c : Char} (isDigit : c.isDigit = true) : isSpace c = false := by
  by_contra space
  rw [Bool.not_eq_false] at space
  simp only [isSpace, Bool.or_eq_true, beq_iff_eq] at space
  rcases space with ((rfl | rfl) | rfl) | rfl <;> cases isDigit

def readFrom (state : ReaderState) (cs : List Char) (place : Nat) : ReaderState :=
  (tokens cs place).foldl ReaderState.step state

section

variable (state : ReaderState) (rest : List Char) (place : Nat)

theorem readFrom_blank {c : Char} (blank : isSpace c = true) :
    readFrom state (c :: rest) place = readFrom state rest (place + 1) := by
  rw [readFrom, tokens, if_pos blank, readFrom]

theorem readFrom_blanks {blanks : List Char} (allBlank : ∀ c ∈ blanks, isSpace c = true) :
    readFrom state (blanks ++ rest) place = readFrom state rest (place + blanks.length) := by
  induction blanks generalizing place with
  | nil => rfl
  | cons c blanks ih =>
      rw [List.forall_mem_cons] at allBlank
      rw [List.cons_append, readFrom_blank state _ place allBlank.1, ih _ allBlank.2,
        List.length_cons, Nat.add_assoc, Nat.add_comm 1]

theorem readFrom_token {c : Char} {token : Token} {size : Nat} (visible : isSpace c = false)
    (read : tokenAt c rest place = (token, size)) (goesOn : token.isLast = false) :
    readFrom state (c :: rest) place =
      readFrom (state.step (place, token)) (rest.drop size) (token.stop c place) := by
  rw [readFrom, tokens]
  simp only [visible, Bool.false_eq_true, ↓reduceIte, read, goesOn, List.foldl_cons]
  rfl

theorem readFrom_mark {c : Char} {mark : Mark} (visible : isSpace c = false)
    (read : tokenAt c rest place = (.mark mark, 0)) :
    readFrom state (c :: rest) place =
      readFrom (state.step (place, .mark mark)) rest (place + c.utf8Size) :=
  readFrom_token state rest place visible read rfl

/-- A printed string is one token. -/
theorem readFrom_stringText (text : String) :
    ∃ stop, readFrom state ((stringText text).toList ++ rest) place =
      readFrom (state.step (place, .quoted (.sound text stop))) rest stop := by
  obtain ⟨stop, quoted⟩ := stringToken_flatMap text rest (place + 1)
  have spelled : (stringText text).toList ++ rest =
      '"' :: (text.toList.flatMap escapeChar ++ '"' :: rest) := by
    rw [stringText, String.toList_ofList]
    simp
  have read : tokenAt '"' (text.toList.flatMap escapeChar ++ '"' :: rest) place =
      (.quoted (.sound text stop), (text.toList.flatMap escapeChar).length + 1) := quoted
  have behind : (text.toList.flatMap escapeChar ++ '"' :: rest).drop
      ((text.toList.flatMap escapeChar).length + 1) = rest := by
    rw [List.drop_append]
    simp
  refine ⟨stop, ?_⟩
  rw [spelled, readFrom_token state _ place rfl read rfl, behind]
  rfl

/-- A printed natural number is one token. -/
theorem readFrom_natural {number : Nat} (small : number < 2 ^ 64) (ends : EndsNumber rest) :
    ∃ stop, readFrom state ((toString number).toList ++ rest) place =
      readFrom (state.step (place, .plain (.sound (.number (.integer number)) stop))) rest
        stop := by
  have whole := numberToken_toDigits small ends place
  have areDigits : ∀ c ∈ Nat.toDigits 10 number, c.isDigit = true :=
    fun c member => Nat.isDigit_of_mem_toDigits (by decide) (by decide) member
  refine ⟨place + (Nat.toDigits 10 number).length, ?_⟩
  rw [Nat.toString_eq_ofList_toDigits, String.toList_ofList]
  cases spelled : Nat.toDigits 10 number with
  | nil => exact absurd spelled Nat.toDigits_ne_nil
  | cons first others =>
      rw [spelled] at whole areDigits
      have isDigit := areDigits first List.mem_cons_self
      have read := tokenAt_of_isDigit isDigit (others ++ rest) place
      rw [List.cons_append] at whole ⊢
      rw [whole, List.length_cons, Nat.add_sub_cancel] at read
      rw [readFrom_token state _ place (isSpace_of_isDigit isDigit) read rfl, List.drop_left]
      rfl

/-- A printed word is one token. -/
theorem readFrom_word {c : Char} {word : List Char} {value : Scalar} (visible : isSpace c = false)
    (begins : ∀ rest place, tokenAt c rest place = wordToken word value rest (place + 1)) :
    ∃ stop, readFrom state (c :: word ++ rest) place =
      readFrom (state.step (place, .plain (.sound value stop))) rest stop := by
  have read := begins (word ++ rest) place
  rw [wordToken_append] at read
  refine ⟨place + 1 + word.length, ?_⟩
  rw [List.cons_append, readFrom_token state _ place visible read rfl, List.drop_left]
  rfl

/-- A printed truth value is one token. -/
theorem readFrom_bool (value : Bool) :
    ∃ stop, readFrom state ((if value then "true" else "false").toList ++ rest) place =
      readFrom (state.step (place, .plain (.sound (.bool value) stop))) rest stop := by
  cases value
  · exact readFrom_word state rest place rfl fun _ _ => rfl
  · exact readFrom_word state rest place rfl fun _ _ => rfl

end

end ApiSchema.Json
