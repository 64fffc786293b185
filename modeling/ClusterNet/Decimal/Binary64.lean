/- Finite double-precision numbers and exact rounding to them. A magnitude is the pattern of the
   exponent and fraction bits, so its order is the order of the values. -/
namespace ClusterNet.Decimal

/-- The pattern of infinity; the magnitudes of finite numbers lie below it. -/
def infinityBits : Nat := 2047 * Nat.pow 2 52

structure Binary64 where
  negative : Bool
  magnitude : Nat
  deriving DecidableEq, Repr

namespace Binary64

/-- The value of a magnitude is `significand * 2 ^ (shift - 1074)`. -/
def significand (magnitude : Nat) : Nat :=
  if magnitude < Nat.pow 2 52 then magnitude else Nat.pow 2 52 + magnitude % Nat.pow 2 52

def shift (magnitude : Nat) : Nat := magnitude / Nat.pow 2 52 - 1

def numerator (magnitude : Nat) : Nat := significand magnitude * Nat.pow 2 (shift magnitude)

def denominator : Nat := Nat.pow 2 1074

def roundDiv (num den : Nat) : Nat :=
  let q := num / den
  let r := num % den
  if 2 * r < den then q
  else if den < 2 * r then q + 1
  else if q % 2 = 0 then q else q + 1

/-- The magnitude nearest to `num / den`, a tie going to the even one; nothing beyond the largest
    finite number. -/
def ofRatio (num den : Nat) : Option Nat :=
  let scaled := num * denominator
  let guess := Nat.log2 scaled - Nat.log2 den - 52
  let shift := if scaled / (den * Nat.pow 2 guess) < Nat.pow 2 52 then guess - 1 else guess
  let magnitude := shift * Nat.pow 2 52 + roundDiv scaled (den * Nat.pow 2 shift)
  if magnitude < infinityBits then some magnitude else none

def ofNat (n : Nat) : Option Nat := ofRatio n 1

def mul (a b : Nat) : Option Nat :=
  ofRatio (numerator a * numerator b) (denominator * denominator)

def div (a b : Nat) : Option Nat := ofRatio (numerator a) (numerator b)

/-- The double nearest to `digits * 10 ^ exponent`. Exponents past the range of doubles are settled
    without building the power. -/
def ofDecimal (digits : Nat) (exponent : Int) : Option Nat :=
  let length := (Nat.toDigits 10 digits).length
  if digits = 0 then some 0
  else if exponent + length > 310 then none
  else if exponent + length < -330 then some 0
  else match exponent with
    | .ofNat e => ofRatio (digits * Nat.pow 10 e) 1
    | .negSucc e => ofRatio digits (Nat.pow 10 (e + 1))

def scaleDown (magnitude : Nat) : Nat → Nat → Option Nat
  | 0, _ => some magnitude
  | fuel + 1, places =>
    if places ≤ 308 then do div magnitude (← ofNat (Nat.pow 10 places))
    else if magnitude = 0 then some 0
    else do scaleDown (← div magnitude (← ofNat (Nat.pow 10 308))) fuel (places - 308)

/-- The double read for `digits * 10 ^ exponent` when the digits are rounded first and scaled by
    powers of ten afterwards. -/
def ofScaled (digits : Nat) (exponent : Int) : Option Nat := do
  let magnitude ← ofNat digits
  match exponent with
  | .ofNat e =>
    if e ≤ 308 then mul magnitude (← ofNat (Nat.pow 10 e))
    else if magnitude = 0 then some 0 else none
  | .negSucc e => scaleDown magnitude (e + 1) (e + 1)

end Binary64
end ClusterNet.Decimal
