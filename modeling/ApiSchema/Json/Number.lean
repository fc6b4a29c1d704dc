import ApiSchema.Decimal.Shortest

set_option autoImplicit false

namespace ApiSchema.Json

/-- An integer of sixty-four bits, signed or not, or a double. -/
inductive Number where
  | integer (value : Int)
  | real (value : Float)

/-- The digits of a numeral as text, in plain notation or with an exponent; `point` digits stand
before the point when the notation is plain. -/
def layOut (digits : List Char) (point : Int) : List Char :=
  if -5 < point && point ≤ 0 then
    ['0', '.'] ++ List.replicate (-point).toNat '0' ++ digits
  else if 0 < point && point ≤ 16 then
    let whole := point.toNat
    let fraction := digits.drop whole
    digits.take whole ++ List.replicate (whole - digits.length) '0' ++
      '.' :: (if fraction.isEmpty then ['0'] else fraction)
  else
    let power := point - 1
    digits.take 1 ++ (if digits.length ≤ 1 then [] else '.' :: digits.drop 1) ++
      'e' :: (if power < 0 then '-' else '+') :: (toString power.natAbs).toList

/-- The shortest text of a finite double. It always has a point or an exponent. -/
def realText (value : Float) : String :=
  let bits := value.toBits.toNat
  let magnitude := bits % Nat.pow 2 63
  let sign := if bits / Nat.pow 2 63 == 0 then [] else ['-']
  let body :=
    if magnitude == 0 then ['0', '.', '0']
    else
      let numeral := (Decimal.Binary.ofBits magnitude).shortest
      let digits := (toString numeral.significand).toList
      layOut digits (numeral.exponent + digits.length)
  String.ofList (sign ++ body)

def Number.text : Number → String
  | .integer value => toString value
  | .real value => realText value

/-- Whether the number is zero; a negative zero is one. -/
def Number.isZero : Number → Bool
  | .integer value => value == 0
  | .real value => value == 0.0

end ApiSchema.Json
