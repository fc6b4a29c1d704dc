/-!
Punycode: a label of any characters as letters, digits and hyphens. The characters outside ASCII are
given by their places, in ascending order of the characters, as numerals of varying length.
-/

set_option autoImplicit false

namespace ApiSchema.Url

/-- The threshold of a digit at the given weight. -/
def digitThreshold (weight bias : Nat) : Nat :=
  if weight ≤ bias then 1 else if bias + 26 ≤ weight then 26 else weight - bias

theorem digitThreshold_pos (weight bias : Nat) : 0 < digitThreshold weight bias := by
  unfold digitThreshold
  split
  · decide
  · split <;> omega

def labelDigit (value : Nat) : Char :=
  if value < 26 then Char.ofNat ('a'.toNat + value) else Char.ofNat ('0'.toNat + value - 26)

/-- The bias found from a number, dividing it until it is small. -/
def reduceDelta (delta bias : Nat) : Nat :=
  if 455 < delta then reduceDelta (delta / 35) (bias + 36) else bias + 36 * delta / (delta + 38)
termination_by delta
decreasing_by exact Nat.div_lt_self (by omega) (by decide)

def adaptBias (delta written : Nat) (first : Bool) : Nat :=
  let scaled := if first then delta / 700 else delta / 2
  reduceDelta (scaled + scaled / written) 0

/-- A number as a numeral of varying length. -/
def labelNumeral (bias weight value : Nat) : List Char :=
  let threshold := digitThreshold weight bias
  if value < threshold then [labelDigit value]
  else
    labelDigit (threshold + (value - threshold) % (36 - threshold)) ::
      labelNumeral bias (weight + 36) ((value - threshold) / (36 - threshold))
termination_by value
decreasing_by
  have positive := digitThreshold_pos weight bias
  have := Nat.div_le_self (value - digitThreshold weight bias) (36 - digitThreshold weight bias)
  omega

/-- The state of an encoding: what is written, the distance from the place last written, the bias,
and the number of characters written. -/
structure LabelState where
  output : List Char
  delta : Nat
  bias : Nat
  written : Nat

/-- The state behind one character of the label, when the character `code` is being placed. -/
def LabelState.pass (basic code : Nat) (state : LabelState) (c : Char) : LabelState :=
  if c.toNat < code then { state with delta := state.delta + 1 }
  else if c.toNat == code then
    { output := state.output ++ labelNumeral state.bias 36 state.delta
      delta := 0
      bias := adaptBias state.delta (state.written + 1) (state.written == basic)
      written := state.written + 1 }
  else state

/-- The state after all occurrences of the given characters, which ascend from `code`. -/
def LabelState.place (label : List Char) (basic : Nat) : List Nat → Nat → LabelState → LabelState
  | [], _, state => state
  | next :: later, code, state =>
      let moved := { state with delta := state.delta + (next - code) * (state.written + 1) }
      let passed := label.foldl (LabelState.pass basic next) moved
      place label basic later (next + 1) { passed with delta := passed.delta + 1 }

def insertCode (code : Nat) : List Nat → List Nat
  | [] => [code]
  | other :: rest =>
      if code < other then code :: other :: rest
      else if code == other then other :: rest
      else other :: insertCode code rest

def punycode (label : List Char) : List Char :=
  let basic := label.filter fun c => c.toNat < 0x80
  let foreign := label.filter fun c => 0x80 ≤ c.toNat
  let codes := foreign.foldl (fun codes c => insertCode c.toNat codes) []
  let start := if basic.isEmpty then [] else basic ++ ['-']
  (LabelState.place label basic.length codes 0x80 ⟨start, 0, 72, basic.length⟩).output

def labelValue? (c : Char) : Option Nat :=
  if c.isDigit then some (c.toNat - '0'.toNat + 26)
  else if c.isAlpha then some (c.toLower.toNat - 'a'.toNat)
  else none

/-- The number of the numeral at the start of the digits, added to `value`, and what follows it. -/
def readLabelNumeral (bias weight factor value : Nat) : List Char → Option (Nat × List Char)
  | [] => none
  | c :: rest => do
      let digit ← labelValue? c
      let total := value + digit * factor
      let threshold := digitThreshold weight bias
      if digit < threshold then some (total, rest)
      else readLabelNumeral bias (weight + 36) (factor * (36 - threshold)) total rest

theorem readLabelNumeral_length_lt (bias weight factor value : Nat) (digits : List Char)
    (result : Nat × List Char)
    (success : readLabelNumeral bias weight factor value digits = some result) :
    result.2.length < digits.length := by
  induction digits generalizing weight factor value with
  | nil => simp [readLabelNumeral] at success
  | cons c rest ih =>
      rw [readLabelNumeral] at success
      cases digit : labelValue? c with
      | none => simp [digit] at success
      | some number =>
          simp only [digit, Option.bind_eq_bind, Option.bind_some] at success
          split at success
          · cases success
            simp
          · exact Nat.lt_succ_of_lt (ih _ _ _ success)

/-- The characters that the numerals insert into those decoded so far; `place` is the place last
written and `code` the character. -/
def insertLabelCharacters (digits : List Char) (decoded : List Char) (code place bias : Nat) :
    Option (List Char) :=
  match digits with
  | [] => some decoded
  | first :: more =>
      match _ : readLabelNumeral bias 36 1 place (first :: more) with
      | none => none
      | some (value, rest) =>
          let size := decoded.length + 1
          let next := code + value / size
          if 0x10FFFF < next || (0xD800 ≤ next && next ≤ 0xDFFF) then none
          else
            let (front, back) := decoded.splitAt (value % size)
            insertLabelCharacters rest (front ++ Char.ofNat next :: back) next
              (value % size + 1) (adaptBias (value - place) size (place == 0 && code == 0x80))
termination_by digits.length
decreasing_by exact readLabelNumeral_length_lt _ _ _ _ _ _ (by assumption)

/-- The label that letters, digits and hyphens stand for. -/
def decodePunycode? (encoded : List Char) : Option (List Char) :=
  let tail := (encoded.reverse.takeWhile fun c => c != '-').reverse
  let basic := (encoded.take (encoded.length - tail.length)).dropLast
  if tail.isEmpty then none else insertLabelCharacters tail basic 0x80 0 72

end ApiSchema.Url
