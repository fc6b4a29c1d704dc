import ApiSchema.Json.Number
import ApiSchema.Text.Basic

set_option autoImplicit false

namespace ApiSchema.Json

inductive Found where
  | null
  | bool (value : Bool)
  | number (value : Number)
  | string (value : String)
  | sequence
  | map

/-- Why a text is no JSON document, or a value not the wanted one. -/
inductive Reason where
  | endOfValue
  | endOfList
  | endOfObject
  | endOfString
  | expectedValue
  | expectedWord
  | expectedColon
  | expectedCommaOrBracket
  | expectedCommaOrBrace
  | keyNotString
  | trailingComma
  | trailingCharacters
  | invalidNumber
  | numberOutOfRange
  | invalidEscape
  | unfinishedPair
  | loneSurrogate
  | controlCharacter
  | recursionLimit
  | invalidType (found : Found) (wanted : String)
  | invalidValue (found : Found) (wanted : String)
  | invalidLength (count : Nat) (wanted : String)
  | missingField (key : String)
  | duplicateField (key : String)
  | unknownVariant (name : String) (known : List String)

def backquote : String := String.singleton (Char.ofNat 0x60)

def marked (text : String) : String := backquote ++ text ++ backquote

def Found.text : Found → String
  | .null => "null"
  | .bool value => "boolean " ++ marked (if value then "true" else "false")
  | .number (.integer value) => "integer " ++ marked (toString value)
  | .number (.real value) => "floating point " ++ marked (realText value)
  | .string value => "string " ++ Text.quoted value
  | .sequence => "sequence"
  | .map => "map"

def Reason.text : Reason → String
  | .endOfValue => "EOF while parsing a value"
  | .endOfList => "EOF while parsing a list"
  | .endOfObject => "EOF while parsing an object"
  | .endOfString => "EOF while parsing a string"
  | .expectedValue => "expected value"
  | .expectedWord => "expected ident"
  | .expectedColon => "expected " ++ marked ":"
  | .expectedCommaOrBracket => "expected " ++ marked "," ++ " or " ++ marked "]"
  | .expectedCommaOrBrace => "expected " ++ marked "," ++ " or " ++ marked "\x7d"
  | .keyNotString => "key must be a string"
  | .trailingComma => "trailing comma"
  | .trailingCharacters => "trailing characters"
  | .invalidNumber => "invalid number"
  | .numberOutOfRange => "number out of range"
  | .invalidEscape => "invalid escape"
  | .unfinishedPair => "unexpected end of hex escape"
  | .loneSurrogate => "lone leading surrogate in hex escape"
  | .controlCharacter => "control character (\\u0000-\\u001F) found while parsing a string"
  | .recursionLimit => "recursion limit exceeded"
  | .invalidType found wanted => "invalid type: " ++ found.text ++ ", expected " ++ wanted
  | .invalidValue found wanted => "invalid value: " ++ found.text ++ ", expected " ++ wanted
  | .invalidLength count wanted => "invalid length " ++ toString count ++ ", expected " ++ wanted
  | .missingField key => "missing field " ++ marked key
  | .duplicateField key => "duplicate field " ++ marked key
  | .unknownVariant name known =>
      "unknown variant " ++ marked name ++ ", expected one of " ++
        String.intercalate ", " (known.map marked)

/-- A byte offset in the text that was read; a value that was not read from text has none. -/
abbrev Place := Option Nat

/-- A reason and the place at which it arose. -/
structure Fault where
  reason : Reason
  place : Place

/-- A line, counted from one, and the number of bytes before a place on it. -/
structure Position where
  line : Nat
  column : Nat

/-- The position of a byte offset behind `start`, where the characters `cs` begin on a line that
began at `lineStart`. -/
def positionFrom (offset : Nat) : List Char → Nat → Nat → Nat → Position
  | [], _, line, lineStart => ⟨line, offset - lineStart⟩
  | c :: rest, start, line, lineStart =>
      if offset ≤ start then ⟨line, offset - lineStart⟩
      else if c == '\n' then positionFrom offset rest (start + 1) (line + 1) (start + 1)
      else positionFrom offset rest (start + c.utf8Size) line lineStart

def positionOf (text : String) (offset : Nat) : Position :=
  positionFrom offset text.toList 0 1 0

/-- A reason with its position, as it is reported. -/
structure Error where
  reason : Reason
  position : Option Position

def Fault.inText (fault : Fault) (text : String) : Error :=
  ⟨fault.reason, fault.place.map (positionOf text)⟩

def Fault.inValue (fault : Fault) : Error := ⟨fault.reason, none⟩

def Error.text (error : Error) : String :=
  match error.position with
  | none => error.reason.text
  | some position =>
      error.reason.text ++ " at line " ++ toString position.line ++ " column " ++
        toString position.column

end ApiSchema.Json
