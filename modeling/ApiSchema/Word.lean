set_option autoImplicit false

namespace ApiSchema.Word

def ofNat? (number : Nat) : Option UInt64 :=
  if number < UInt64.size then some (.ofNat number) else none

def mul? (first second : UInt64) : Option UInt64 := ofNat? (first.toNat * second.toNat)

/-- The factor times the base if the exponent is odd, if it fits. -/
def mulOdd? (factor base : UInt64) (exponent : Nat) : Option UInt64 :=
  if exponent % 2 = 1 then mul? factor base else some factor

/-- The factor times the power of the base, if it fits. The base is squared and the exponent halved
until one is left of it, so no square is taken that the power does not have. -/
def mulPow? (factor base : UInt64) (exponent : Nat) : Option UInt64 :=
  if exponent = 0 then some factor
  else if exponent = 1 then mul? factor base
  else do
    let product ← mulOdd? factor base exponent
    let square ← mul? base base
    mulPow? product square (exponent / 2)
termination_by exponent

def pow? (base : UInt64) (exponent : UInt32) : Option UInt64 := mulPow? 1 base exponent.toNat

def boundedPow (base : UInt64) (exponent : UInt32) : UInt64 :=
  (pow? base exponent).getD 0xFFFFFFFFFFFFFFFF

def wrappedPow (base : UInt64) (exponent : UInt32) : UInt64 :=
  .ofNat (Nat.pow base.toNat exponent.toNat)

def boundedSub (first second : UInt64) : UInt64 := if second ≤ first then first - second else 0

/-- The number in thirty-two bits, or the greatest of these if it does not fit. -/
def boundedHalf (number : UInt64) : UInt32 :=
  if number ≤ 0xFFFFFFFF then number.toUInt32 else 0xFFFFFFFF

end ApiSchema.Word
