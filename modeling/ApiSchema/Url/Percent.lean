set_option autoImplicit false

namespace ApiSchema.Url

def upperHexDigit (value : Nat) : Char := (Nat.digitChar value).toUpper

def percentByte (byte : UInt8) : List Char :=
  ['%', upperHexDigit (byte.toNat / 16), upperHexDigit (byte.toNat % 16)]

/-- Whether a character is a control or not of ASCII; these are always encoded. -/
def isControlOrForeign (c : Char) : Bool := c.toNat < 0x20 || 0x7E < c.toNat

def encodesInFragment (c : Char) : Bool :=
  isControlOrForeign c || c == ' ' || c == '"' || c == '<' || c == '>' || c.toNat == 0x60

/-- Whether a character is encoded in a query; `special` addresses encode the apostrophe too. -/
def encodesInQuery (special : Bool) (c : Char) : Bool :=
  isControlOrForeign c || c == ' ' || c == '"' || c == '#' || c == '<' || c == '>' ||
    (special && c.toNat == 0x27)

def encodesInPath (c : Char) : Bool :=
  encodesInFragment c || c == '#' || c == '?' || c.toNat == 0x7B || c.toNat == 0x7D

def encodesInUser (c : Char) : Bool :=
  encodesInPath c || c == '/' || c == ':' || c == ';' || c == '=' || c == '@' || c == '[' ||
    c == '\\' || c == ']' || c == '^' || c == '|'

/-- A character as itself or as its encoded bytes. -/
def percentEncodeChar (encodes : Char → Bool) (c : Char) : List Char :=
  if encodes c then (String.utf8EncodeChar c).flatMap percentByte else [c]

def percentEncode (encodes : Char → Bool) (cs : List Char) : List Char :=
  cs.flatMap (percentEncodeChar encodes)

def hexDigit? (c : Char) : Option Nat :=
  if c.isDigit then some (c.toNat - '0'.toNat)
  else if 'a' ≤ c.toLower && c.toLower ≤ 'f' then some (c.toLower.toNat - 'a'.toNat + 10)
  else none

/-- The bytes that a text with percent encoding stands for. -/
def percentDecode : List Char → List UInt8
  | [] => []
  | '%' :: first :: second :: rest =>
      match hexDigit? first, hexDigit? second with
      | some high, some low => UInt8.ofNat (high * 16 + low) :: percentDecode rest
      | _, _ => '%'.toUInt8 :: percentDecode (first :: second :: rest)
  | c :: rest => String.utf8EncodeChar c ++ percentDecode rest

end ApiSchema.Url
