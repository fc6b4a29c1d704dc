import ApiSchema.Json.Token
import ApiSchema.Proofs.Text.OneLine
import ApiSchema.Target.TypeScript
import Mathlib

/-!
String literals. Only double quotes are escaped in a quoted text, so a backslash of the text begins
an escape sequence: a text is quoted as a literal of that text if and only if it has no backslash.
What carries the proof is a count in which every escape sequence gives back less than it takes.
-/

set_option autoImplicit false

namespace ApiSchema

/-- One character is replaced wherever it stands. -/
theorem Text.replaceFrom_singleton (mark : Char) (replacement cs : List Char) :
    replaceFrom [mark] replacement 0 cs =
      cs.flatMap fun c => if c = mark then replacement else [c] := by
  induction cs with
  | nil => rfl
  | cons c rest ih =>
      rw [replaceFrom, List.flatMap_cons, List.length_singleton, ih]
      by_cases same : c = mark
      · simp [same]
      · simp [same, Ne.symm same]

namespace TypeScript

def unitsOf (code : Nat) : List Nat :=
  if code < 0x10000 then [code]
  else [0xD800 + (code - 0x10000) / 0x400, 0xDC00 + (code - 0x10000) % 0x400]

def codeUnits (cs : List Char) : List Nat := cs.flatMap fun c => unitsOf c.toNat

def hexNumber? (digits : List Char) : Option Nat :=
  (digits.mapM Json.hexValue?).map fun values =>
    values.foldl (fun number digit => 16 * number + digit) 0

/-- The characters that stand for control characters behind a backslash. -/
def controls : List (Char × Nat) :=
  [('0', 0x0), ('b', 0x8), ('t', 0x9), ('n', 0xA), ('v', 0xB), ('f', 0xC), ('r', 0xD)]

/-- The ends of lines; behind a backslash they are left out. -/
def lineEnds : List (List Char) := [['\n'], ['\r'], ['\r', '\n'], ['\u2028'], ['\u2029']]

/-- Whether a character does not stand for itself behind a backslash. -/
def isSpecial (c : Char) : Bool :=
  c.isDigit || (controls.map Prod.fst).contains c || lineEnds.contains [c] || c == 'x' || c == 'u'

/-- What stands behind a backslash, with the code units that it is for. -/
inductive Escape : List Char → List Nat → Prop
  | control {c : Char} {code : Nat} (listed : (c, code) ∈ controls) : Escape [c] [code]
  | itself {c : Char} (plain : isSpecial c = false) : Escape [c] (unitsOf c.toNat)
  | lineEnd {taken : List Char} (listed : taken ∈ lineEnds) : Escape taken []
  | twoDigits {digits : List Char} {number : Nat} (two : digits.length = 2)
      (read : hexNumber? digits = some number) : Escape ('x' :: digits) [number]
  | fourDigits {digits : List Char} {number : Nat} (four : digits.length = 4)
      (read : hexNumber? digits = some number) : Escape ('u' :: digits) [number]
  | codePoint {digits : List Char} {number : Nat} (filled : digits ≠ [])
      (read : hexNumber? digits = some number) (bounded : number ≤ 0x10FFFF) :
      Escape ('u' :: '\x7b' :: digits ++ ['\x7d']) (unitsOf number)

/-- What stands between the quotes of a literal, with the code units of its value. A digit does not
follow the escape sequence of the null character. -/
inductive Body : List Char → List Nat → Prop
  | nil : Body [] []
  | char {c : Char} {rest : List Char} {value : List Nat} (unquoted : c ≠ '"')
      (plain : c ≠ '\\') (unbroken : breaksLine c = false) (later : Body rest value) :
      Body (c :: rest) (unitsOf c.toNat ++ value)
  | escape {taken rest : List Char} {units value : List Nat} (read : Escape taken units)
      (apart : taken = ['0'] → ∀ c ∈ rest.head?, c.isDigit = false) (later : Body rest value) :
      Body ('\\' :: (taken ++ rest)) (units ++ value)

/-- A text is a literal, whose value has the given code units. -/
def Literal (text : String) (value : List Nat) : Prop :=
  ∃ body, text.toList = '"' :: body ++ ['"'] ∧ Body body value

/-- A key stands for a name: it is that name, if this is an identifier, or a literal of it. -/
def Denotes (isIdentifier : String → Prop) (key name : String) : Prop :=
  (isIdentifier key ∧ key = name) ∨ Literal key (codeUnits name.toList)

def escapeMark (c : Char) : List Char := if c = '"' then ['\\', '"'] else [c]

theorem toList_quote (text : String) :
    (quote text).toList = '"' :: text.toList.flatMap escapeMark ++ ['"'] := by
  have inside : (Text.replace text "\"" "\\\"").toList = text.toList.flatMap escapeMark :=
    String.toList_ofList.trans (Text.replaceFrom_singleton '"' ['\\', '"'] text.toList)
  rw [quote, String.toList_append, String.toList_append, inside]
  rfl

/-- A text without a backslash is between its quotes as it is read. -/
theorem body_flatMap_escapeMark {cs : List Char} (plain : '\\' ∉ cs)
    (unbroken : ∀ c ∈ cs, breaksLine c = false) : Body (cs.flatMap escapeMark) (codeUnits cs) := by
  induction cs with
  | nil => exact .nil
  | cons c rest ih =>
      rw [List.mem_cons, not_or] at plain
      rw [List.forall_mem_cons] at unbroken
      have later := ih plain.2 unbroken.2
      rw [List.flatMap_cons, codeUnits, List.flatMap_cons, escapeMark]
      split
      · rename_i mark
        subst mark
        have itself : Escape ['"'] (unitsOf '"'.toNat) := .itself (by decide)
        exact .escape itself (fun same => absurd same (by decide)) later
      · rename_i unquoted
        exact .char unquoted (Ne.symm plain.1) unbroken.1 later

@[simp] theorem codeUnits_cons (c : Char) (rest : List Char) :
    codeUnits (c :: rest) = unitsOf c.toNat ++ codeUnits rest := List.flatMap_cons

@[simp] theorem codeUnits_append (first second : List Char) :
    codeUnits (first ++ second) = codeUnits first ++ codeUnits second := List.flatMap_append

theorem length_unitsOf (code : Nat) : 1 ≤ (unitsOf code).length ∧ (unitsOf code).length ≤ 2 := by
  unfold unitsOf
  split <;> simp

theorem length_le_codeUnits (cs : List Char) : cs.length ≤ (codeUnits cs).length := by
  induction cs with
  | nil => exact le_rfl
  | cons c rest ih =>
      have filled := (length_unitsOf c.toNat).1
      rw [codeUnits_cons, List.length_append, List.length_cons]
      omega

/-- The double quotes, each twice, and the backslashes. -/
def marks (cs : List Char) : Nat := 2 * cs.count '"' + cs.count '\\'

theorem marks_append (first second : List Char) :
    marks (first ++ second) = marks first + marks second := by
  simp only [marks, List.count_append]
  omega

theorem marks_cons (c : Char) (rest : List Char) : marks (c :: rest) = marks [c] + marks rest :=
  marks_append [c] rest

theorem marks_singleton_le (c : Char) : marks [c] ≤ 2 := by
  simp only [marks, List.count_singleton]
  split <;> split <;> simp_all

theorem marks_le (cs : List Char) : marks cs ≤ 2 * cs.length := by
  induction cs with
  | nil => simp [marks]
  | cons c rest ih =>
      have single := marks_singleton_le c
      rw [marks_cons, List.length_cons]
      omega

/-- An escape sequence is longer than its value, by more where it has quotes and backslashes. -/
theorem Escape.length_le {taken : List Char} {units : List Nat} (read : Escape taken units) :
    3 * units.length + marks taken + 1 ≤ 3 * ((codeUnits taken).length + 1) := by
  have few := marks_le taken
  have long := length_le_codeUnits taken
  cases read with
  | control listed =>
      simp only [List.length_singleton] at few long ⊢
      omega
  | @itself c plain =>
      have single := marks_singleton_le c
      simp only [codeUnits, List.flatMap_cons, List.flatMap_nil, List.append_nil]
      omega
  | lineEnd listed =>
      rw [List.length_nil]
      omega
  | twoDigits two read =>
      simp only [List.length_cons, List.length_nil] at few long ⊢
      omega
  | fourDigits four read =>
      simp only [List.length_cons, List.length_nil] at few long ⊢
      omega
  | @codePoint digits number filled read bounded =>
      have short := (length_unitsOf number).2
      have some := List.length_pos_of_ne_nil filled
      simp only [List.length_append, List.length_cons, List.length_nil] at few long ⊢
      omega

theorem Body.length_le {body : List Char} {value : List Nat} (read : Body body value) :
    3 * value.length + marks body ≤ 3 * (codeUnits body).length := by
  induction read with
  | nil => simp [marks, codeUnits]
  | @char c rest value unquoted plain unbroken later ih =>
      have none : marks [c] = 0 := by simp [marks, unquoted, plain]
      rw [marks_cons, none, codeUnits_cons, List.length_append, List.length_append]
      omega
  | @escape taken rest units value read apart later ih =>
      have escaped := read.length_le
      have backslash : marks ['\\'] = 1 := by decide
      have one : (unitsOf '\\'.toNat).length = 1 := rfl
      rw [marks_cons, marks_append, backslash, codeUnits_cons, codeUnits_append]
      simp only [List.length_append, one]
      omega

/-- Quoting leaves no room for the backslashes of a text. -/
theorem length_flatMap_escapeMark (cs : List Char) :
    3 * (codeUnits (cs.flatMap escapeMark)).length + cs.count '\\' =
      3 * (codeUnits cs).length + marks (cs.flatMap escapeMark) := by
  induction cs with
  | nil => rfl
  | cons c rest ih =>
      rw [List.flatMap_cons, codeUnits_append, codeUnits_cons, marks_append, List.length_append,
        List.length_append]
      have single : 3 * (codeUnits (escapeMark c)).length + [c].count '\\' =
          3 * (unitsOf c.toNat).length + marks (escapeMark c) := by
        unfold escapeMark
        split
        · rename_i mark
          subst mark
          rfl
        · rename_i unquoted
          simp [marks, codeUnits, unquoted]
      have counted : (c :: rest).count '\\' = [c].count '\\' + rest.count '\\' :=
        @List.count_append _ _ '\\' [c] rest
      omega

/-- A quoted text on one line is a literal of that text if and only if it has no backslash. -/
theorem literal_quote_iff {text : String} (oneLine : OneLine text) :
    Literal (quote text) (codeUnits text.toList) ↔ '\\' ∉ text.toList := by
  constructor
  · rintro ⟨body, written, read⟩
    rw [toList_quote] at written
    have same : text.toList.flatMap escapeMark = body := by simpa using written
    have short := read.length_le
    have room := length_flatMap_escapeMark text.toList
    rw [← same] at short
    -- With a backslash in the text, what is between the quotes is too short for its value.
    rw [← List.count_eq_zero]
    omega
  · intro plain
    exact ⟨_, toList_quote text, body_flatMap_escapeMark plain oneLine⟩

theorem Escape.ne_nil {taken : List Char} {units : List Nat} (read : Escape taken units) :
    taken ≠ [] := by
  rintro rfl
  cases read with
  | lineEnd listed => exact absurd listed (by decide)

theorem Body.exists_tail {c : Char} {rest : List Char} {value : List Nat} (plain : c ≠ '\\')
    (read : Body (c :: rest) value) : ∃ later, Body rest later := by
  cases read with
  | char _ _ _ later => exact ⟨_, later⟩
  | escape => exact absurd rfl plain

/-- A backslash does not end a literal. -/
theorem not_body_backslash (value : List Nat) : ¬ Body ['\\'] value := by
  intro read
  generalize alone : ['\\'] = body at read
  cases read with
  | nil => cases alone
  | char _ plain _ _ => exact plain (List.cons.inj alone).1.symm
  | escape read _ _ => exact read.ne_nil (List.append_eq_nil_iff.mp (List.cons.inj alone).2.symm).1

theorem flatMap_escapeMark_ne (cs rest : List Char) : cs.flatMap escapeMark ≠ '"' :: rest := by
  cases cs with
  | nil => simp
  | cons c later =>
      rw [List.flatMap_cons, escapeMark]
      split
      · simp
      · rename_i unquoted
        simp [unquoted]

theorem flatMap_escapeMark_inj {first second : List Char}
    (same : first.flatMap escapeMark = second.flatMap escapeMark) : first = second := by
  induction first generalizing second with
  | nil =>
      cases second with
      | nil => rfl
      | cons d others =>
          rw [List.flatMap_nil, List.flatMap_cons, escapeMark] at same
          split at same <;> cases same
  | cons c rest ih =>
      cases second with
      | nil =>
          rw [List.flatMap_nil, List.flatMap_cons, escapeMark] at same
          split at same <;> cases same
      | cons d others =>
          rw [List.flatMap_cons, List.flatMap_cons, escapeMark, escapeMark] at same
          split at same <;> split at same
          · rename_i mark markToo
            obtain ⟨_, tails⟩ := List.cons.inj same
            rw [mark, markToo, ih (List.cons.inj tails).2]
          · obtain ⟨_, tails⟩ := List.cons.inj same
            exact absurd tails.symm (flatMap_escapeMark_ne others _)
          · obtain ⟨_, tails⟩ := List.cons.inj same
            exact absurd tails (flatMap_escapeMark_ne rest _)
          · obtain ⟨rfl, tails⟩ := List.cons.inj same
            rw [ih tails]

theorem quote_injective : Function.Injective quote := by
  intro first second same
  have marked := congrArg String.toList same
  rw [toList_quote, toList_quote] at marked
  exact String.toList_injective
    (flatMap_escapeMark_inj (List.append_cancel_right (List.cons.inj marked).2))

theorem quote_ne (text : String) : quote text ≠ text := by
  intro same
  have marked := congrArg List.length (congrArg String.toList same)
  have filled : ∀ length ∈ text.toList.map fun c => (escapeMark c).length, 1 ≤ length := by
    rw [List.forall_mem_map]
    intro c member
    unfold escapeMark
    split <;> simp
  have longer := List.length_le_sum_of_one_le _ filled
  rw [toList_quote] at marked
  simp only [List.length_append, List.length_cons, List.length_nil, List.length_flatMap] at marked
  rw [List.length_map] at longer
  omega

/-- A name does not begin with a quote. -/
theorem toList_ne_of_isName {name : String} (named : isName name = true) (rest : List Char) :
    name.toList ≠ '"' :: rest := by
  intro quoted
  rw [isName, quoted] at named
  cases named

theorem not_literal_of_isName {name : String} (named : isName name = true) (value : List Nat) :
    ¬ Literal name value := by
  rintro ⟨body, written, -⟩
  exact toList_ne_of_isName named _ written

theorem plain_of_isName {name : String} (named : isName name = true) : '\\' ∉ name.toList := by
  intro inside
  have continues := List.all_eq_true.mp (Bool.and_eq_true_iff.mp named).2 _ inside
  exact absurd continues (by decide +kernel)

/-- Different names have different keys. -/
theorem propertyName_injective : Function.Injective propertyName := by
  intro first second same
  have apart {name : String} (named : isName name = true) (text : String) : name ≠ quote text :=
    fun equal => toList_ne_of_isName named _ (equal ▸ toList_quote text)
  unfold propertyName at same
  split at same <;> split at same
  · exact same
  · rename_i named _
    exact absurd same (apart named second)
  · rename_i named
    exact absurd same.symm (apart named first)
  · exact quote_injective same

/-- The key of a field on one line stands for its name if and only if the name has no backslash and,
written as it is, is an identifier. -/
theorem denotes_propertyName_iff {isIdentifier : String → Prop} {name : String}
    (oneLine : OneLine name) :
    Denotes isIdentifier (propertyName name) name ↔
      '\\' ∉ name.toList ∧ (isName name = true → isIdentifier name) := by
  unfold Denotes propertyName
  split
  · rename_i named
    have plain := plain_of_isName named
    have bare := not_literal_of_isName named (codeUnits name.toList)
    tauto
  · rename_i quoted
    rw [literal_quote_iff oneLine]
    have longer := quote_ne name
    tauto

theorem emit_of_wrapper {method : Method} {wrapper : Wrapper}
    (wrapped : method.wrapper? = some wrapper) (options : EmitOptions) :
    ∃ before, emit method options = before ++ wrapperLines wrapper options := by
  rw [emit, wrapped]
  exact ⟨_, rfl⟩

/-- The key of a field stands for its name, and the literal of a method for that of the request, if
and only if there is no backslash in it; a key that is not in quotes must be an identifier. Keys are
different for different names in any case. -/
theorem literals_denote_iff {isIdentifier : String → Prop} :
    (∀ name, OneLine name →
      (Denotes isIdentifier (propertyName name) name ↔
        '\\' ∉ name.toList ∧ (isName name = true → isIdentifier name))) ∧
      Function.Injective propertyName ∧
      ∀ (method : Method) (options : EmitOptions) (wrapper : Wrapper),
        method.wrapper? = some wrapper → OneLine wrapper.request →
        (∃ before, emit method options = before ++ wrapperLines wrapper options) ∧
          (wrapperLines wrapper options)[1]? =
            some ("    method: " ++ quote wrapper.request ++ ";") ∧
          (Literal (quote wrapper.request) (codeUnits wrapper.request.toList) ↔
            '\\' ∉ wrapper.request.toList) :=
  ⟨fun _ => denotes_propertyName_iff, propertyName_injective,
    fun _ options _ wrapped oneLine =>
      ⟨emit_of_wrapper wrapped options, rfl, literal_quote_iff oneLine⟩⟩

theorem literals_denote_iff_marks :
    let name := "say \"hi\""
    let method : Method :=
      { name := some "AB", requestName := some "a.\"b", params := [⟨"ABParam", .param, []⟩],
        responses := [], comments := [] }
    let options := EmitOptions.mk false false true true (.ofFamily "Top")
    OneLine name ∧ Denotes (· = "x") (propertyName name) name ∧
      method.wrapper? = some ⟨"AB", "a.\"b", "ABParam"⟩ ∧
      (wrapperLines ⟨"AB", "a.\"b", "ABParam"⟩ options)[1]? =
        some ("    method: " ++ quote "a.\"b" ++ ";") ∧
      Literal (quote "a.\"b") (codeUnits "a.\"b".toList) := by
  intro name method options
  have oneLine : OneLine name := by decide
  have wrapped : method.wrapper? = some ⟨"AB", "a.\"b", "ABParam"⟩ := rfl
  have literals := @literals_denote_iff (· = "x")
  have quoted : isName name = false := by decide +kernel
  refine ⟨oneLine, (literals.1 name oneLine).mpr ⟨by decide, fun named => ?_⟩, wrapped, ?_⟩
  · rw [quoted] at named
    cases named
  · have ⟨_, printed, literal⟩ := literals.2.2 method options _ wrapped (by decide)
    exact ⟨printed, literal.mpr (by decide)⟩

/-- A name that ends with a backslash: its key has no end. -/
theorem not_literal_propertyName_backslash :
    OneLine "a\\" ∧ propertyName "a\\" ≠ "a\\" ∧
      ¬ ∃ value, Literal (propertyName "a\\") value := by
  have quoted : propertyName "a\\" = "\"a\\\"" := by decide +kernel
  refine ⟨by decide, ?_, ?_⟩
  · rw [quoted]
    decide
  · rw [quoted]
    rintro ⟨value, body, written, read⟩
    have spelled : body ++ ['"'] = ['a', '\\'] ++ ['"'] := (List.cons.inj written).2.symm
    rw [List.append_cancel_right spelled] at read
    obtain ⟨later, read⟩ := read.exists_tail (by decide)
    exact not_body_backslash later read

end TypeScript

end ApiSchema
