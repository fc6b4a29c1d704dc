import ApiSchema.Text.Basic

set_option autoImplicit false

namespace ApiSchema.Naming

open ApiSchema.Text

def isWordSeparator (c : Char) : Bool := c == '.' || c == '/' || c == '_'

def capitalize : List Char → List Char
  | [] => []
  | c :: rest => upperChar c ++ rest

/-- The words joined, each capitalized. -/
def pascalChars (cs : List Char) : List Char := (segments isWordSeparator cs).flatMap capitalize

/-- The Pascal case of a name: `foo_bar.baz` becomes `FooBarBaz`. -/
def pascalCase (name : String) : String := String.ofList (pascalChars name.toList)

/-- Whether an upper-case letter behind the character begins a word. -/
def endsWord (previous : Option Char) : Bool :=
  match previous with
  | some c => isLowercase c || c.isDigit
  | none => false

/-- The characters in lower case, with an underscore between the words that capitals mark. -/
def snakeChars (previous : Option Char) : List Char → List Char
  | [] => []
  | c :: rest =>
      (if isUppercase c && endsWord previous then ['_'] else []) ++ lowerChar c ++
        snakeChars (some c) rest

/-- The snake case of a name: `sku2Name` becomes `sku2_name`. -/
def snakeCase (name : String) : String := String.ofList (snakeChars none name.toList)

def swapSeparator (c : Char) : Char :=
  if c == '/' then '.' else if c == '.' then '/' else c

/-- A dotted name as a path, or a path as a dotted name. -/
def swapSeparators (name : String) : String := String.ofList (name.toList.map swapSeparator)

/-- The part of a trimmed expression between its first `<` and a closing `>`, or the part before
these if there is nothing between them. -/
def typeArgument? (cs : List Char) : Option (List Char) :=
  if cs.getLast? == some '>' then
    (cutAt ['<'] cs).map fun (generic, argument) =>
      match trimChars argument.dropLast with
      | [] => trimChars generic
      | element => element
  else none

/-- The element of a list type: the characters of `X` for `X[]`, `List<X>` and `X`. -/
def elementChars (cs : List Char) : List Char :=
  let trimmed := trimChars cs
  if ['[', ']'].isSuffixOf trimmed then trimChars (trimmed.take (trimmed.length - 2))
  else (typeArgument? trimmed).getD trimmed

/-- The element of a list type; another type is its own element. -/
def elementName (expression : String) : String := String.ofList (elementChars expression.toList)

def lastPiece (separates : Char → Bool) (cs : List Char) : List Char :=
  (splitChars separates cs).getLast?.getD cs

/-- The class name at the end of a dotted name, in Pascal case. -/
def className (dotted : String) : String :=
  String.ofList (pascalChars (lastPiece (· == '.') dotted.toList))

/-- The name of a model at the end of a chain of ancestors; empty ancestors do not count. -/
def nestedName (localPart : String) (ancestors : List String) : String :=
  match ancestors.filter fun ancestor => !ancestor.isEmpty with
  | [] => localPart
  | path => String.intercalate "#" path ++ "@" ++ localPart

def localName (name : String) : String := String.ofList (lastPiece (· == '@') name.toList)

structure ApiName where
  method : String
  request : String

/-- The names written as a dotted name or as a path; none if nothing but slashes is written. -/
def apiName? (raw : String) : Option ApiName :=
  let trimmed := (trimChars raw.toList).dropWhile (· == '/')
  if trimmed.isEmpty then none
  else
    let request := if trimmed.contains '/' then trimmed.map swapSeparator else trimmed
    some ⟨String.ofList (pascalChars request), String.ofList request⟩

end ApiSchema.Naming
