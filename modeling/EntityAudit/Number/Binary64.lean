/-!
# `EntityAudit.Number.Binary64` — binary floating-point numbers of 64 bits

Numbers with a fraction are kept as binary floating-point numbers: a mantissa of at most 53 bits times a
power of two, between fixed limits.  Every result is the exact one, rounded to the nearest such number,
and to the one with an even mantissa if two are equally near.

## Contents

* `Magnitude` — a finite number without its sign
* `roundHalfEven`, `Magnitude.ofRatio?` — rounding
* `Magnitude.mul?`, `Magnitude.div?`, `Magnitude.powerOfTen?` — arithmetic
* `Magnitude.ofDecimal?` — the number nearest to a decimal
* `Binary64` — numbers with a sign, infinities and the undefined number
-/

namespace EntityAudit

/-! ## Finite numbers -/

/-- The number `mantissa · 2 ^ exponent`. -/
structure Magnitude where
  mantissa : Nat
  exponent : Int
deriving DecidableEq, Repr

/-- The quotient of two natural numbers, rounded to the nearest one, from the middle to the even one. -/
def roundHalfEven (num den : Nat) : Nat :=
  let q := num / den
  let twice := 2 * (num % den)
  if twice < den then q
  else if den < twice then q + 1
  else if q % 2 = 0 then q
  else q + 1

/-- `base ^ n`, or one if `n` is negative. -/
def powerOf (base : Nat) (n : Int) : Nat := Nat.pow base n.toNat

namespace Magnitude

/-- Zero. -/
def zero : Magnitude := ⟨0, -1074⟩

/-- The exponent of the leading bit of `num / den`. -/
def leadingExponent (num den : Nat) : Int :=
  let guess : Int := (Nat.log2 num : Int) - (Nat.log2 den : Int)
  if den * powerOf 2 guess ≤ num * powerOf 2 (-guess) then guess else guess - 1

/-- The number nearest to `num / den`, unless that is beyond the largest one. -/
def ofRatio? (num den : Nat) : Option Magnitude :=
  if num = 0 then some zero
  else
    let exponent := max (leadingExponent num den - 52) (-1074)
    let mantissa := roundHalfEven (num * powerOf 2 (-exponent)) (den * powerOf 2 exponent)
    let rounded : Magnitude :=
      if mantissa = powerOf 2 53 then ⟨powerOf 2 52, exponent + 1⟩ else ⟨mantissa, exponent⟩
    if rounded.exponent > 971 then none else some rounded

/-- The numerator of a number as a ratio. -/
def num (x : Magnitude) : Nat := x.mantissa * powerOf 2 x.exponent

/-- The denominator of a number as a ratio. -/
def den (x : Magnitude) : Nat := powerOf 2 (-x.exponent)

/-- The rounded product. -/
def mul? (x y : Magnitude) : Option Magnitude := ofRatio? (x.num * y.num) (x.den * y.den)

/-- The rounded quotient. -/
def div? (x y : Magnitude) : Option Magnitude := ofRatio? (x.num * y.den) (x.den * y.num)

/-- The number nearest to a power of ten. -/
def powerOfTen? (n : Nat) : Option Magnitude := ofRatio? (powerOf 10 n) 1

/-- The number nearest to `digits · 10 ^ k`, unless that is beyond the largest one.  The exponents of the
leading digit of numbers that are neither too large nor rounded to zero lie between -400 and 400. -/
def ofDecimal? (digits : Nat) (k : Int) : Option Magnitude :=
  let exponent := k + (Nat.toDigits 10 digits).length
  if digits = 0 ∨ exponent < -400 then some zero
  else if exponent > 400 then none
  else ofRatio? (digits * powerOf 10 k) (powerOf 10 (-k))

end Magnitude

/-! ## All numbers -/

/-- A binary floating-point number. -/
inductive Binary64 where
  | finite (isNegative : Bool) (magnitude : Magnitude)
  | infinite (isNegative : Bool)
  | undefined
deriving DecidableEq, Repr

end EntityAudit
