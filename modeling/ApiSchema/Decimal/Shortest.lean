/-!
The shortest decimal numeral of a binary floating-point number: of the decimals that round to
the number, those with the fewest digits, and of these the nearest.
-/

set_option autoImplicit false

namespace ApiSchema.Decimal

/-- The natural number `significand * 10 ^ exponent` or that quotient. -/
structure Numeral where
  significand : Nat
  exponent : Int

/-- A positive number `mantissa * 2 ^ exponent` and whether its lower neighbour is half as far as
its upper one. -/
structure Binary where
  mantissa : Nat
  exponent : Int
  narrow : Bool

namespace Binary

/-- The number that the bits of a finite double other than zero stand for, without its sign. -/
def ofBits (bits : Nat) : Binary :=
  let fraction : Nat := bits % Nat.pow 2 52
  let power : Nat := bits / Nat.pow 2 52 % Nat.pow 2 11
  if power == 0 then ⟨fraction, -1074, false⟩
  else ⟨Nat.pow 2 52 + fraction, (power : Int) - 1075, fraction == 0 && power != 1⟩

/-- The factor and the divisor by which a quarter of the last place is measured in units of
`10 ^ place`. -/
def scale (number : Binary) (place : Int) : Nat × Nat :=
  let quarter := number.exponent - 2
  (Nat.pow 2 quarter.toNat * Nat.pow 10 (-place).toNat,
    Nat.pow 2 (-quarter).toNat * Nat.pow 10 place.toNat)

/-- Whether `count * 10 ^ place` rounds to the number: it lies between the midpoints to the
neighbours, which round to the number when its mantissa is even. -/
def admits (number : Binary) (place : Int) (count : Nat) : Bool :=
  let (factor, divisor) := number.scale place
  let low := (4 * number.mantissa - if number.narrow then 1 else 2) * factor
  let high := (4 * number.mantissa + 2) * factor
  let point := count * divisor
  if number.mantissa % 2 == 0 then low ≤ point && point ≤ high else low < point && point < high

/-- The nearest multiple of `10 ^ place` that rounds to the number, the even one of two equally
near. -/
def nearest? (number : Binary) (place : Int) : Option Nat :=
  let (factor, divisor) := number.scale place
  let value := 4 * number.mantissa * factor
  let below := value / divisor
  match number.admits place below, number.admits place (below + 1) with
  | true, true =>
      let left := value - below * divisor
      let right := (below + 1) * divisor - value
      if left < right || (left == right && below % 2 == 0) then some below else some (below + 1)
  | true, false => some below
  | false, true => some (below + 1)
  | false, false => none

/-- The first of the places `start`, `start - 1`, … at which a multiple rounds to the number. -/
def coarsest (number : Binary) : Nat → Int → Numeral
  | 0, place => ⟨0, place⟩
  | count + 1, place =>
      match number.nearest? place with
      | some significand => ⟨significand, place⟩
      | none => coarsest number count (place - 1)

/-- The shortest numeral of the number. No double reaches `10 ^ 309`, and multiples of `10 ^ -324`
lie closer than doubles do. -/
def shortest (number : Binary) : Numeral := number.coarsest 633 308

end Binary

end ApiSchema.Decimal
