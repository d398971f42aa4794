import EntityAudit.Number.Binary64

/-!
# `EntityAudit.Number.Shortest` — the shortest decimal that means a number

A binary number stands for all reals that round to it.  Its text has the fewest digits of a decimal
among them; of several such decimals it is the nearest, and of two that are equally near the greater or
the even one.  A positional text always shows a point; a scientific one has one digit before the point and
an exponent.

## Contents

* `Tie` — which of two decimals is taken
* `Magnitude.decimalOn?` — the best multiple of a power of ten
* `Magnitude.decimal` — the shortest decimal
* `positional`, `scientific` — texts of decimals
* `DecimalStyle`, `Binary64.text` — the text of a number in a style
-/

namespace EntityAudit

/-- Which of two decimals that are equally near is taken. -/
inductive Tie where
  | greater
  | even
deriving DecidableEq, Repr

namespace Magnitude

/-- The nearest multiple of `10 ^ k` that rounds to the number, as a factor, if there is one.  The number
is four units of a quarter of its last place; the reals that round to it reach two units up and two
down, or one down when the next smaller number is nearer.  The ends belong to it when its mantissa is
even. -/
def decimalOn? (tie : Tie) (x : Magnitude) (k : Int) : Option Nat :=
  let value := 4 * x.mantissa
  let low := if x.mantissa = powerOf 2 52 ∧ x.exponent > -1074 then value - 1 else value - 2
  let high := value + 2
  let unit := powerOf 2 (x.exponent - 2) * powerOf 10 (-k)
  let grid := powerOf 2 (2 - x.exponent) * powerOf 10 k
  let isInside (c : Nat) : Bool :=
    0 < c && if x.mantissa % 2 = 0 then low * unit ≤ c * grid && c * grid ≤ high * unit
      else low * unit < c * grid && c * grid < high * unit
  let below := value * unit / grid
  let beyond := 2 * (value * unit - below * grid)
  let takesBelow : Bool := beyond < grid || (beyond = grid && tie = .even && below % 2 = 0)
  match isInside below, isInside (below + 1) with
  | true, true => some (if takesBelow then below else below + 1)
  | true, false => some below
  | false, true => some (below + 1)
  | false, false => none

/-- The shortest decimal on the powers of ten from `10 ^ k` down, of which `steps` are tried: its digits
as a number and their power of ten. -/
def decimalFrom (tie : Tie) (x : Magnitude) (k : Int) : (steps : Nat) → Nat × Int
  | 0 => (0, 0)
  | steps + 1 =>
    match x.decimalOn? tie k with
    | some digits => (digits, k)
    | none => decimalFrom tie x (k - 1) steps

/-- The shortest decimal that rounds to the number. -/
def decimal (tie : Tie) (x : Magnitude) : Nat × Int :=
  if x.mantissa = 0 then (0, 0) else x.decimalFrom tie 309 700

end Magnitude

/-- The digits of a number times a power of ten, with a point and at least one digit on either side. -/
def positional (digits : Nat) (k : Int) : String :=
  let ds := Nat.toDigits 10 digits
  if 0 ≤ k then String.ofList (ds ++ List.replicate k.toNat '0' ++ ['.', '0'])
  else
    let places := (-k).toNat
    let padded := List.replicate (places + 1 - ds.length) '0' ++ ds
    String.ofList (padded.take (padded.length - places) ++ '.' :: padded.drop (padded.length - places))

/-- The digits of a number times a power of ten, with a point after the first of several digits, and an
exponent with its sign. -/
def scientific (digits : Nat) (k : Int) : String :=
  let ds := Nat.toDigits 10 digits
  let exponent := k + (ds.length - 1 : Nat)
  let fraction := if ds.length = 1 then [] else '.' :: ds.drop 1
  String.ofList (ds.take 1 ++ fraction) ++ (if exponent < 0 then "e" else "e+") ++ toString exponent

/-- How a number is written. -/
structure DecimalStyle where
  tie : Tie
  /-- Which exponents of the leading digit are written positionally. -/
  isPositional : Int → Bool

/-- Every number is written positionally, the greater of two decimals if both are equally near. -/
def DecimalStyle.plain : DecimalStyle := ⟨.greater, fun _ => true⟩

/-- Numbers from a hundred-thousandth to ten quadrillions are written positionally, the even one of two
decimals if both are equally near. -/
def DecimalStyle.balanced : DecimalStyle :=
  ⟨.even, fun exponent => decide (-5 ≤ exponent ∧ exponent < 16)⟩

/-- The text of a number. -/
def Binary64.text (style : DecimalStyle) : Binary64 → String
  | finite isNegative magnitude =>
    let (digits, k) := magnitude.decimal style.tie
    let exponent := k + ((Nat.toDigits 10 digits).length - 1 : Nat)
    (if isNegative then "-" else "")
      ++ (if digits = 0 || style.isPositional exponent then positional digits k else scientific digits k)
  | infinite isNegative => if isNegative then "-inf" else "inf"
  | undefined => "NaN"

end EntityAudit
