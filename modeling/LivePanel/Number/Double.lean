/-!
# Doubles

Finite IEEE doubles held by their 64 bits, so that they can be compared, decoded
and computed with in exact arithmetic on `Nat`. `Double.ofRatio?` is the one
rounding rule: the nearest double, a tie going to the even significand, and
nothing when the quotient is beyond the largest double.
-/

namespace LivePanel

/-- A finite IEEE double, by its bits. -/
structure Double where
  bits : UInt64
deriving DecidableEq, Inhabited

namespace Double

/-- Whether the sign bit is set. -/
def negative (d : Double) : Bool := d.bits.toNat / Nat.pow 2 63 == 1

/-- The eleven exponent bits. -/
def exponentField (d : Double) : Nat := d.bits.toNat / Nat.pow 2 52 % Nat.pow 2 11

/-- The 52 fraction bits. -/
def fraction (d : Double) : Nat := d.bits.toNat % Nat.pow 2 52

/-- The significand `m` of the absolute value `m * 2 ^ scale`. -/
def significand (d : Double) : Nat :=
  if d.exponentField = 0 then d.fraction else d.fraction + Nat.pow 2 52

/-- The binary exponent of the absolute value. -/
def scale (d : Double) : Int :=
  if d.exponentField = 0 then -1074 else (d.exponentField : Int) - 1075

/-- Whether the value is zero, of either sign. -/
def isZero (d : Double) : Bool := d.significand == 0

/-- The absolute value as numerator and denominator. -/
def ratio (d : Double) : Nat × Nat :=
  if 0 ≤ d.scale then (d.significand * Nat.pow 2 d.scale.toNat, 1)
  else (d.significand, Nat.pow 2 (-d.scale).toNat)

/-- Set the sign bit as asked. -/
def withSign (negative : Bool) (magnitude : Nat) : Double :=
  ⟨(magnitude + if negative then Nat.pow 2 63 else 0).toUInt64⟩

/-- Zero of the given sign. -/
def zero (negative : Bool) : Double := withSign negative 0

/-- The nearest whole number to `num / den`, a tie going to the even one. -/
def roundQuotient (num den : Nat) : Nat :=
  let q := num / den
  let r := num % den
  if 2 * r > den || (2 * r == den && q % 2 == 1) then q + 1 else q

/-- The largest `k` with `2 ^ k ≤ num / den`, for positive arguments. -/
def log2Quotient (num den : Nat) : Int :=
  let k : Int := (Nat.log2 num : Int) - Nat.log2 den
  let fits := if 0 ≤ k then den * Nat.pow 2 k.toNat ≤ num else den ≤ num * Nat.pow 2 (-k).toNat
  if fits then k else k - 1

/-- The bits of the double nearest to `num / den`, or of infinity where it is too large. -/
def magnitudeOfRatio (num den : Nat) : Nat :=
  if num = 0 then 0
  else
    let q : Int := max (log2Quotient num den - 52) (-1074)
    let m :=
      if 0 ≤ q then roundQuotient num (den * Nat.pow 2 q.toNat)
      else roundQuotient (num * Nat.pow 2 (-q).toNat) den
    if m < Nat.pow 2 52 then m else (q + 1075).toNat * Nat.pow 2 52 + (m - Nat.pow 2 52)

/-- The bits of infinity. -/
def infinityBits : Nat := 2047 * Nat.pow 2 52

/-- The double nearest to `num / den` with the given sign; `none` beyond the largest. -/
def ofRatio? (negative : Bool) (num den : Nat) : Option Double :=
  let m := magnitudeOfRatio num den
  if m < infinityBits then some (withSign negative m) else none

/-- The number of decimal digits of `n`. -/
def digitCount (n : Nat) : Nat := (Nat.toDigits 10 n).length

/-- The double nearest to `digits * 10 ^ exponent`; `none` beyond the largest. -/
def ofDecimal? (negative : Bool) (digits : Nat) (exponent : Int) : Option Double :=
  if digits = 0 then some (zero negative)
  else
    let top := (digitCount digits : Int) + exponent
    if top > 400 then none
    else if top < -400 then some (zero negative)
    else if 0 ≤ exponent then ofRatio? negative (digits * Nat.pow 10 exponent.toNat) 1
    else ofRatio? negative digits (Nat.pow 10 (-exponent).toNat)

/-- The nearest double to a whole number of at most 64 bits. -/
def ofNat (n : Nat) : Double := (ofRatio? false n 1).getD (zero false)

/-- The rounded product of two absolute values. -/
def mul? (a b : Double) : Option Double :=
  let (n, d) := a.ratio
  let (n', d') := b.ratio
  ofRatio? false (n * n') (d * d')

/-- The rounded quotient of two absolute values. -/
def div? (a b : Double) : Option Double :=
  let (n, d) := a.ratio
  let (n', d') := b.ratio
  if n' = 0 then none else ofRatio? false (n * d') (d * n')

/-- The same value with the other sign. -/
def neg (d : Double) : Double := ⟨d.bits ^^^ 0x8000000000000000⟩

end Double

end LivePanel
