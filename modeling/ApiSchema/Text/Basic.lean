import ApiSchema.Text.Character

set_option autoImplicit false

namespace ApiSchema.Text

/-- The list without the characters of the class at its end. -/
def dropTrailing (drops : Char → Bool) : List Char → List Char
  | [] => []
  | c :: rest =>
      match dropTrailing drops rest with
      | [] => if drops c then [] else [c]
      | kept => c :: kept

def trimChars (cs : List Char) : List Char :=
  dropTrailing isBlank (cs.dropWhile isBlank)

def trim (text : String) : String := String.ofList (trimChars text.toList)

def isBlankText (text : String) : Bool := text.toList.all isBlank

/-- The pieces between separators; there is always one more piece than there are separators. -/
def splitChars (separates : Char → Bool) : List Char → List (List Char)
  | [] => [[]]
  | c :: rest =>
      match splitChars separates rest with
      | [] => [[c]]
      | piece :: pieces => if separates c then [] :: piece :: pieces else (c :: piece) :: pieces

def segments (separates : Char → Bool) (cs : List Char) : List (List Char) :=
  (splitChars separates cs).filter fun piece => !piece.isEmpty

def words (text : String) : List String :=
  (segments isBlank text.toList).map String.ofList

/-- What stands before and behind the first occurrence of the pattern, if it occurs. -/
def cutAt (pattern : List Char) : List Char → Option (List Char × List Char)
  | [] => if pattern.isEmpty then some ([], []) else none
  | c :: rest =>
      if pattern.isPrefixOf (c :: rest) then some ([], (c :: rest).drop pattern.length)
      else (cutAt pattern rest).map fun (before, behind) => (c :: before, behind)

def contains (text pattern : String) : Bool := (cutAt pattern.toList text.toList).isSome

def startsWith (text pattern : String) : Bool := pattern.toList.isPrefixOf text.toList

def endsWith (text pattern : String) : Bool := pattern.toList.isSuffixOf text.toList

/-- The list from the left with each occurrence of the pattern replaced; `skip` characters of the
occurrence last found are still to be passed over. -/
def replaceFrom (pattern replacement : List Char) : Nat → List Char → List Char
  | _, [] => []
  | skip + 1, _ :: rest => replaceFrom pattern replacement skip rest
  | 0, c :: rest =>
      if pattern.isPrefixOf (c :: rest) then
        replacement ++ replaceFrom pattern replacement (pattern.length - 1) rest
      else c :: replaceFrom pattern replacement 0 rest

/-- The text with each occurrence of a non-empty pattern replaced, from left to right. -/
def replace (text pattern replacement : String) : String :=
  String.ofList (replaceFrom pattern.toList replacement.toList 0 text.toList)

def lowerAscii (text : String) : String := String.ofList (text.toList.map Char.toLower)

/-- Whether two texts differ at most in the case of ASCII letters. -/
def equalsIgnoringCase (first second : String) : Bool := lowerAscii first == lowerAscii second

def after? (text pattern : String) : Option String :=
  if startsWith text pattern then some (String.ofList (text.toList.drop pattern.toList.length))
  else none

def joinWith (separator : String) (texts : List String) : String := separator.intercalate texts

/-- A character of plain text: line breaks and tabs become spaces, quotation marks, invisible marks
and other controls are dropped. -/
def plainChar? (c : Char) : Option Char :=
  if c == '\n' || c == '\r' || c == '\t' then some ' '
  else if c == '"' || c.toNat == 0x27 || c.toNat == 0x60 then none
  else if c.toNat == 0x200B || c.toNat == 0x200E || c.toNat == 0x200F || c.toNat == 0xFEFF then none
  else if isControl c then none
  else some c

/-- The text on one line, without quotation marks and invisible characters. -/
def plain (text : String) : String :=
  String.ofList (trimChars (text.toList.filterMap plainChar?))

/-- The digits of a number in base sixteen, in lower case and without leading zeros. -/
def hexDigits (n : Nat) : List Char := Nat.toDigits 16 n

def quoteChar (c : Char) : List Char :=
  if c == Char.ofNat 0 then ['\\', '0']
  else if c == '\t' then ['\\', 't']
  else if c == '\r' then ['\\', 'r']
  else if c == '\n' then ['\\', 'n']
  else if c == '\\' then ['\\', '\\']
  else if c == '"' then ['\\', '"']
  else if isPrintable c then [c]
  else ['\\', 'u', Char.ofNat 0x7B] ++ hexDigits c.toNat ++ [Char.ofNat 0x7D]

/-- The text in double quotes, visible as a whole. -/
def quoted (text : String) : String :=
  String.ofList ('"' :: text.toList.flatMap quoteChar ++ ['"'])

end ApiSchema.Text
