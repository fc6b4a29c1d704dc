import ApiSchema.Json.Node
import ApiSchema.Json.Numeral

/-!
The tokens of a JSON text, each with the byte offset of its start. A value that a decoder asks for
is read strictly. One that it passes over is read loosely: its numbers may have any size and its
escapes need not pair up. A token says what both readings give.
-/

set_option autoImplicit false

namespace ApiSchema.Json

/-- What reading a scalar gives: a value, a fault of the strict reading alone, or a fault of each of
the readings, after which nothing more can be read. -/
inductive Reading (α : Type) where
  | sound (value : α) (stop : Nat)
  | flawed (fault : Fault) (stop : Nat)
  | broken (fault loose : Fault)

inductive Mark where
  | openArray
  | closeArray
  | openObject
  | closeObject
  | comma
  | colon
  deriving DecidableEq

/-- A token. A character that begins none is a foreign one. -/
inductive Token where
  | mark (mark : Mark)
  | plain (reading : Reading Scalar)
  | quoted (reading : Reading String)
  | foreign

def byteSize (cs : List Char) : Nat := cs.foldl (fun size c => size + c.utf8Size) 0

/-- The fault of a text that ends within a string. -/
def unclosed (place : Nat) : Fault := ⟨.endOfString, some place⟩

def hexValue? (c : Char) : Option Nat :=
  if '0' ≤ c && c ≤ '9' then some (c.toNat - '0'.toNat)
  else if 'a' ≤ c && c ≤ 'f' then some (c.toNat - 'a'.toNat + 10)
  else if 'A' ≤ c && c ≤ 'F' then some (c.toNat - 'A'.toNat + 10)
  else none

/-- The number of four hexadecimal digits; four bytes that are none are an invalid escape. -/
def readFourHex (cs : List Char) (place : Nat) : Except Fault Nat :=
  match (cs.take 4).mapM hexValue? with
  | some [a, b, c, d] => .ok (((a * 16 + b) * 16 + c) * 16 + d)
  | _ =>
      let size := byteSize (cs.take 4)
      if size < 4 then .error (unclosed (place + size))
      else .error ⟨.invalidEscape, some (place + 4)⟩

/-- The character of an escape without digits. -/
def simpleEscape? (c : Char) : Option Char :=
  match c with
  | '"' => some '"'
  | '\\' => some '\\'
  | '/' => some '/'
  | 'b' => some (Char.ofNat 0x8)
  | 'f' => some (Char.ofNat 0xC)
  | 'n' => some '\n'
  | 'r' => some '\r'
  | 't' => some '\t'
  | _ => none

/-- The second half of an escaped pair, behind the first half `high` at `place`. -/
def readLowSurrogate (high : Nat) (cs : List Char) (place : Nat) : Except Fault Char :=
  match cs with
  | [] => .error (unclosed place)
  | '\\' :: rest =>
      match rest with
      | [] => .error (unclosed (place + 1))
      | 'u' :: digits =>
          match readFourHex digits (place + 2) with
          | .error fault => .error fault
          | .ok low =>
              if low < 0xDC00 || 0xDFFF < low then .error ⟨.loneSurrogate, some (place + 6)⟩
              else .ok (Char.ofNat ((high - 0xD800) * 0x400 + (low - 0xDC00) + 0x10000))
      | _ => .error ⟨.unfinishedPair, some (place + 2)⟩
  | _ => .error ⟨.unfinishedPair, some (place + 1)⟩

/-- The character of the escape behind a backslash and the number of characters it takes. -/
def readEscape (cs : List Char) (place : Nat) : Except Fault (Char × Nat) :=
  match cs with
  | [] => .error (unclosed place)
  | c :: rest =>
      match simpleEscape? c with
      | some meant => .ok (meant, 1)
      | none =>
          if c != 'u' then .error ⟨.invalidEscape, some (place + 1)⟩
          else
            match readFourHex rest (place + 1) with
            | .error fault => .error fault
            | .ok code =>
                if 0xDC00 ≤ code && code ≤ 0xDFFF then .error ⟨.loneSurrogate, some (place + 5)⟩
                else if code < 0xD800 || 0xDBFF < code then .ok (Char.ofNat code, 5)
                else (readLowSurrogate code (rest.drop 4) (place + 5)).map (·, 11)

/-- The number of characters of the escape behind a backslash, read loosely. -/
def skipEscape (cs : List Char) (place : Nat) : Except Fault Nat :=
  match cs with
  | [] => .error (unclosed place)
  | c :: rest =>
      if (simpleEscape? c).isSome then .ok 1
      else if c != 'u' then .error ⟨.invalidEscape, some (place + 1)⟩
      else (readFourHex rest (place + 1)).map fun _ => 5

/-- The string whose characters so far are `taken`, the last one first, and its number of
characters and offset behind the closing quote. -/
def readString (cs : List Char) (place count : Nat) (taken : List Char) :
    Except Fault (String × Nat × Nat) :=
  match cs with
  | [] => .error (unclosed place)
  | c :: rest =>
      if c == '"' then .ok (String.ofList taken.reverse, count + 1, place + 1)
      else if c == '\\' then
        match readEscape rest (place + 1) with
        | .error fault => .error fault
        | .ok (meant, size) =>
            readString (rest.drop size) (place + 1 + size) (count + 1 + size) (meant :: taken)
      else if c.toNat < 0x20 then .error ⟨.controlCharacter, some (place + 1)⟩
      else readString rest (place + c.utf8Size) (count + 1) (c :: taken)
termination_by cs.length
decreasing_by all_goals simp only [List.length_drop, List.length_cons]; omega

/-- The number of characters of a string and the offset behind it, read loosely. -/
def skipString (cs : List Char) (place count : Nat) : Except Fault (Nat × Nat) :=
  match cs with
  | [] => .error (unclosed place)
  | c :: rest =>
      if c == '"' then .ok (count + 1, place + 1)
      else if c == '\\' then
        match skipEscape rest (place + 1) with
        | .error fault => .error fault
        | .ok size => skipString (rest.drop size) (place + 1 + size) (count + 1 + size)
      else if c.toNat < 0x20 then .error ⟨.controlCharacter, some place⟩
      else skipString rest (place + c.utf8Size) (count + 1)
termination_by cs.length
decreasing_by all_goals simp only [List.length_drop, List.length_cons]; omega

def stringToken (cs : List Char) (place : Nat) : Token × Nat :=
  match readString cs place 0 [] with
  | .ok (text, count, stop) => (.quoted (.sound text stop), count)
  | .error fault =>
      match skipString cs place 0 with
      | .ok (count, stop) => (.quoted (.flawed fault stop), count)
      | .error loose => (.quoted (.broken fault loose), cs.length)

def numberToken (cs : List Char) (place : Nat) : Token × Nat :=
  match scanNumber .endOfValue cs place with
  | .ok (size, parts) =>
      match parts.number place size with
      | .ok number => (.plain (.sound (.number number) (place + size)), size)
      | .error fault => (.plain (.flawed fault (place + size)), size)
  | .error fault =>
      let loose :=
        match scanNumber .invalidNumber cs place with
        | .error loose => loose
        | .ok _ => fault
      (.plain (.broken fault loose), cs.length)

/-- The fault of a text that does not go on with the given word. -/
def wordFault? : List Char → List Char → Nat → Option Fault
  | [], _, _ => none
  | _ :: _, [], place => some ⟨.endOfValue, some place⟩
  | wanted :: word, c :: rest, place =>
      if c == wanted then wordFault? word rest (place + 1)
      else some ⟨.expectedWord, some (place + 1)⟩

def wordToken (word : List Char) (value : Scalar) (cs : List Char) (place : Nat) : Token × Nat :=
  match wordFault? word cs place with
  | none => (.plain (.sound value (place + word.length)), word.length)
  | some fault => (.plain (.broken fault fault), cs.length)

/-- The token that begins with a character, and the number of characters behind it that it takes. -/
def tokenAt (c : Char) (rest : List Char) (place : Nat) : Token × Nat :=
  match c with
  | '[' => (.mark .openArray, 0)
  | ']' => (.mark .closeArray, 0)
  | ',' => (.mark .comma, 0)
  | ':' => (.mark .colon, 0)
  | '"' => stringToken rest (place + 1)
  | 'n' => wordToken ['u', 'l', 'l'] .null rest (place + 1)
  | 't' => wordToken ['r', 'u', 'e'] (.bool true) rest (place + 1)
  | 'f' => wordToken ['a', 'l', 's', 'e'] (.bool false) rest (place + 1)
  | _ =>
      if c.toNat == 0x7B then (.mark .openObject, 0)
      else if c.toNat == 0x7D then (.mark .closeObject, 0)
      else if c == '-' || c.isDigit then
        let (token, size) := numberToken (c :: rest) place
        (token, size - 1)
      else (.foreign, 0)

def Token.stop (token : Token) (c : Char) (place : Nat) : Nat :=
  match token with
  | .plain (.sound _ stop) | .plain (.flawed _ stop) => stop
  | .quoted (.sound _ stop) | .quoted (.flawed _ stop) => stop
  | _ => place + c.utf8Size

/-- Whether the tokens end with this one. -/
def Token.isLast : Token → Bool
  | .plain (.broken _ _) | .quoted (.broken _ _) => true
  | _ => false

def isSpace (c : Char) : Bool := c == ' ' || c == '\n' || c == '\t' || c == '\r'

/-- The tokens of a text and their offsets, up to the first that is broken. -/
def tokens (cs : List Char) (place : Nat) : List (Nat × Token) :=
  match cs with
  | [] => []
  | c :: rest =>
      if isSpace c then tokens rest (place + 1)
      else
        let (token, size) := tokenAt c rest place
        if token.isLast then [(place, token)]
        else (place, token) :: tokens (rest.drop size) (token.stop c place)
termination_by cs.length
decreasing_by all_goals simp only [List.length_drop, List.length_cons]; omega

end ApiSchema.Json
