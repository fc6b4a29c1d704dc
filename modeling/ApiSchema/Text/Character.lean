import ApiSchema.Text.Alphabetic
import ApiSchema.Text.LowerMap
import ApiSchema.Text.Lowercase
import ApiSchema.Text.Numeric
import ApiSchema.Text.Unprintable
import ApiSchema.Text.UpperMap
import ApiSchema.Text.Uppercase

set_option autoImplicit false

namespace ApiSchema.Text

/-- The White_Space property. -/
def isBlank (c : Char) : Bool :=
  let code := c.toNat
  (0x9 ≤ code && code ≤ 0xD) || code == 0x20 || code == 0x85 || code == 0xA0 || code == 0x1680 ||
    (0x2000 ≤ code && code ≤ 0x200A) || code == 0x2028 || code == 0x2029 || code == 0x202F ||
    code == 0x205F || code == 0x3000

/-- The control characters of ASCII and of Latin-1. -/
def isControl (c : Char) : Bool :=
  c.toNat < 0x20 || (0x7F ≤ c.toNat && c.toNat < 0xA0)

def isUppercase (c : Char) : Bool := inRuns uppercaseRuns c

def isLowercase (c : Char) : Bool := inRuns lowercaseRuns c

def isAlphabetic (c : Char) : Bool := inRuns alphabeticRuns c

def isNumeric (c : Char) : Bool := inRuns numericRuns c

def isAlphanumeric (c : Char) : Bool := isAlphabetic c || isNumeric c

/-- A character that stands for itself in a quoted text. -/
def isPrintable (c : Char) : Bool := !inRuns unprintableRuns c && !inRuns extendingRuns c

/-- A full case mapping: an expansion if there is one, a shift otherwise, else the character. -/
def mapCase (shifts : List Shift) (expansions : List (Nat × List Nat)) (c : Char) : List Char :=
  match expansions.lookup c.toNat with
  | some codes => codes.map Char.ofNat
  | none =>
      match findRun Shift.run shifts c.toNat with
      | some shift => [shift.image c.toNat]
      | none => [c]

/-- The full upper case of a character, such as `SS` for `ß`. -/
def upperChar (c : Char) : List Char := mapCase upperShifts upperExpansions c

def lowerChar (c : Char) : List Char := mapCase lowerShifts lowerExpansions c

end ApiSchema.Text
