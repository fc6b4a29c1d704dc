import ApiSchema.Json.Fault

/-!
Reading numbers. An integer of at most sixty-four bits is kept as it is. Any other number is a
double: the digits that fit sixty-four bits are scaled by a power of ten, in steps of at most
`10 ^ 308`, each rounded.
-/

set_option autoImplicit false

namespace ApiSchema.Json

structure Parts where
  negative : Bool
  whole : List Nat
  fraction : Option (List Nat)
  exponent : Option (Bool × List Nat)

/-- The decimal digits at the start of a text. -/
def digitsOf (cs : List Char) : List Nat :=
  (cs.takeWhile Char.isDigit).map fun c => c.toNat - '0'.toNat

/-- The number of characters of a number at the start of a text, and its parts; or the fault, given
the reason to report for a text that ends too soon. -/
def scanNumber (early : Reason) (cs : List Char) (start : Nat) : Except Fault (Nat × Parts) :=
  let missing (rest : List Char) (place : Nat) : Fault :=
    if rest.isEmpty then ⟨early, some place⟩ else ⟨.invalidNumber, some (place + 1)⟩
  let negative := cs.head? == some '-'
  let sign := if negative then 1 else 0
  let afterSign := cs.drop sign
  let whole := digitsOf afterSign
  let size := sign + whole.length
  if whole.isEmpty then .error (missing afterSign (start + sign))
  else if whole.head? == some 0 && whole.length != 1 then
    .error ⟨.invalidNumber, some (start + sign + 2)⟩
  else
    let afterWhole := cs.drop size
    let pointed := afterWhole.head? == some '.'
    let fraction := if pointed then digitsOf (afterWhole.drop 1) else []
    if pointed && fraction.isEmpty then .error (missing (afterWhole.drop 1) (start + size + 1))
    else
      let size := if pointed then size + 1 + fraction.length else size
      let afterFraction := cs.drop size
      let kept := if pointed then some fraction else none
      match afterFraction with
      | mark :: tail =>
          if mark == 'e' || mark == 'E' then
            let signed := tail.head? == some '+' || tail.head? == some '-'
            let skipped := if signed then 1 else 0
            let power := digitsOf (tail.drop skipped)
            if power.isEmpty then
              .error (missing (tail.drop skipped) (start + size + 1 + skipped))
            else
              .ok (size + 1 + skipped + power.length,
                ⟨negative, whole, kept, some (tail.head? == some '-', power)⟩)
          else .ok (size, ⟨negative, whole, kept, none⟩)
      | [] => .ok (size, ⟨negative, whole, kept, none⟩)

def appendDigits : Nat → List Nat → Nat × Nat
  | significand, [] => (significand, 0)
  | significand, digit :: rest =>
      if 10 * significand + digit < Nat.pow 2 64 then appendDigits (10 * significand + digit) rest
      else (significand, rest.length + 1)

/-- The digits of an exponent as a number, or how many of them passed the greatest number of
thirty-one bits. -/
def readExponent : Nat → List Nat → Nat → Except Nat Nat
  | power, [], _ => .ok power
  | power, digit :: rest, count =>
      if 10 * power + digit < Nat.pow 2 31 then readExponent (10 * power + digit) rest (count + 1)
      else .error (count + 1)

/-- The double scaled by a power of ten; none if the result is too large. -/
def scaleReal (value : Float) (exponent : Int) : Option Float :=
  if exponent.natAbs ≤ 308 then
    let power := Float.ofScientific 1 false exponent.natAbs
    if 0 ≤ exponent then
      if (value * power).isInf then none else some (value * power)
    else some (value / power)
  else if value == 0.0 then some value
  else if 0 ≤ exponent then none
  else scaleReal (value / 1e308) (exponent + 308)
termination_by exponent.natAbs
decreasing_by omega

def signedReal (negative : Bool) (value : Float) : Float := if negative then -value else value

/-- A number of at most sixty-four bits as a double. -/
def realOfNat (value : Nat) : Float := (UInt64.ofNat value).toFloat

/-- The number of the parts, which stand at `start` and take `size` characters. -/
def Parts.number (parts : Parts) (start size : Nat) : Except Fault Number :=
  let (significand, excess) := appendDigits 0 parts.whole
  let inexact (power : Int) (significand : Nat) : Except Fault Number :=
    match scaleReal (realOfNat significand) power with
    | some value => .ok (.real (signedReal parts.negative value))
    | none => .error ⟨.numberOutOfRange, some (start + size)⟩
  let fraction := parts.fraction.getD []
  let (significand, unread) := appendDigits significand fraction
  let power : Int := excess - ((fraction.length - unread : Nat) : Int)
  match parts.exponent with
  | some (lowering, digits) =>
      match readExponent 0 digits 0 with
      | .ok exponent =>
          inexact (if lowering then power - exponent else power + exponent) significand
      | .error count =>
          if significand == 0 || lowering then .ok (.real (signedReal parts.negative 0.0))
          else .error ⟨.numberOutOfRange, some (start + size - digits.length + count)⟩
  | none =>
      if parts.fraction.isSome || excess != 0 then inexact power significand
      else if !parts.negative then .ok (.integer significand)
      else if significand == 0 || Nat.pow 2 63 < significand then
        .ok (.real (-realOfNat significand))
      else .ok (.integer (-significand))

end ApiSchema.Json
