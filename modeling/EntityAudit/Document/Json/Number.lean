import EntityAudit.Number.Binary64
import EntityAudit.Number.Width

/-!
# `EntityAudit.Document.Json.Number` — numbers in JSON texts

A number without fraction and exponent is an integer if 64 bits hold it.  Any other is computed from its
leading digits, as many as 64 bits hold, by one multiplication with or division by a power of ten.

## Contents

* `Number`
* `absorb`, `scaled?`, `Number.ofParts?` — the value of a number
* `Number.scan?` — reading a number
* `Number.scan?_length_lt` — what follows a number is shorter
-/

namespace EntityAudit.Json

/-- A number: an integer that 64 bits hold, or a binary floating-point number. -/
inductive Number where
  | integer (value : Int)
  | real (value : Binary64)
deriving DecidableEq, Repr

/-! ## Values -/

/-- The digit that a character is. -/
def digit (c : Char) : Nat := c.toNat - '0'.toNat

/-- Appends digits to a number as long as 64 bits hold it: the result, and how many were appended. -/
def absorb (n : Nat) : List Char → Nat × Nat
  | [] => (n, 0)
  | c :: rest =>
    if fitsUnsigned 64 (n * 10 + digit c : Nat) then
      let (m, count) := absorb (n * 10 + digit c) rest
      (m, count + 1)
    else (n, 0)

/-- A number divided by `10 ^ k`, in steps of `10 ^ 308`. -/
def divided (x : Magnitude) (k : Nat) : Magnitude :=
  let by10 (n : Nat) := ((Magnitude.powerOfTen? n).bind x.div?).getD .zero
  if k ≤ 308 then by10 k
  else if x.mantissa = 0 then x
  else divided (by10 308) (k - 308)
termination_by k

/-- A number times a power of ten, unless that is too large. -/
def scaled? (significand : Nat) (exponent : Int) : Option Magnitude :=
  match Magnitude.ofRatio? significand 1 with
  | none => none
  | some x =>
    if exponent < 0 then some (divided x (-exponent).toNat)
    else if significand = 0 then some x
    else (if exponent ≤ 308 then Magnitude.powerOfTen? exponent.toNat else none).bind x.mul?

/-- The value of a number with its sign, its digits before and after the point and its exponent. -/
def Number.ofParts? (isNegative : Bool) (whole : List Char) (fraction : Option (List Char))
    (exponent : Option Int) : Option Number :=
  let (leading, count) := absorb 0 whole
  if count = whole.length ∧ fraction = none ∧ exponent = none then
    if !isNegative then some (.integer leading)
    else if leading = 0 || !fitsSigned 64 (-leading) then
      (Magnitude.ofRatio? leading 1).map (fun x => .real (.finite true x))
    else some (.integer (-leading))
  else
    let (significand, places) := absorb leading (fraction.getD [])
    let power := (whole.length - count : Int) - places + exponent.getD 0
    (scaled? significand power).map (fun x => .real (.finite isNegative x))

/-! ## Reading -/

/-- The number that digits spell. -/
def natOf (digits : List Char) : Nat := digits.foldl (fun n c => n * 10 + digit c) 0

/-- The digits before the point: a zero, or digits that do not begin with one. -/
def scanWhole? : List Char → Option (List Char × List Char)
  | [] => none
  | c :: rest =>
    if c = '0' then
      match rest with
      | [] => some (['0'], [])
      | d :: _ => if d.isDigit then none else some (['0'], rest)
    else if c.isDigit then some (c :: rest.takeWhile Char.isDigit, rest.dropWhile Char.isDigit)
    else none

/-- The digits after the point, if there is a point. -/
def scanFraction? : List Char → Option (Option (List Char) × List Char)
  | '.' :: rest =>
    match rest.takeWhile Char.isDigit with
    | [] => none
    | digits => some (some digits, rest.dropWhile Char.isDigit)
  | cs => some (none, cs)

/-- The sign of an exponent: whether it is a minus. -/
def scanExponentSign : List Char → Bool × List Char
  | '+' :: rest => (false, rest)
  | '-' :: rest => (true, rest)
  | cs => (false, cs)

/-- The exponent, if there is one. -/
def scanExponent? : List Char → Option (Option Int × List Char)
  | [] => some (none, [])
  | c :: cs =>
    if c = 'e' ∨ c = 'E' then
      let (isNegative, rest) := scanExponentSign cs
      match rest.takeWhile Char.isDigit with
      | [] => none
      | digits =>
        let n : Int := natOf digits
        some (some (if isNegative then -n else n), rest.dropWhile Char.isDigit)
    else some (none, c :: cs)

/-- The sign of a number: whether it is a minus. -/
def scanSign : List Char → Bool × List Char
  | '-' :: rest => (true, rest)
  | cs => (false, cs)

/-- The number at the beginning of a text, and what follows it. -/
def Number.scan? (cs : List Char) : Option (Number × List Char) :=
  let (isNegative, unsigned) := scanSign cs
  match scanWhole? unsigned with
  | none => none
  | some (whole, afterWhole) =>
    match scanFraction? afterWhole with
    | none => none
    | some (fraction, afterFraction) =>
      match scanExponent? afterFraction with
      | none => none
      | some (exponent, rest) =>
        (Number.ofParts? isNegative whole fraction exponent).map (fun n => (n, rest))

/-! ## What follows a number -/

theorem length_dropWhile_le (p : Char → Bool) (cs : List Char) :
    (cs.dropWhile p).length ≤ cs.length :=
  (List.dropWhile_suffix p).length_le

theorem scanSign_length_le (cs : List Char) : (scanSign cs).2.length ≤ cs.length := by
  fun_cases scanSign cs <;> simp

theorem scanWhole?_length_lt {cs digits rest : List Char} (h : scanWhole? cs = some (digits, rest)) :
    rest.length < cs.length := by
  cases cs with
  | nil => simp [scanWhole?] at h
  | cons c tail =>
    simp only [scanWhole?] at h
    split at h
    · split at h
      · simp only [Option.some.injEq, Prod.mk.injEq] at h
        simp [← h.2]
      · split at h
        · simp at h
        · simp only [Option.some.injEq, Prod.mk.injEq] at h
          simp [← h.2]
    · split at h
      · simp only [Option.some.injEq, Prod.mk.injEq] at h
        have := length_dropWhile_le Char.isDigit tail
        simp only [← h.2, List.length_cons]
        omega
      · simp at h

theorem scanFraction?_length_le {cs rest : List Char} {digits : Option (List Char)}
    (h : scanFraction? cs = some (digits, rest)) : rest.length ≤ cs.length := by
  rw [scanFraction?.eq_def] at h
  split at h
  · rename_i tail
    split at h
    · simp at h
    · simp only [Option.some.injEq, Prod.mk.injEq] at h
      have := length_dropWhile_le Char.isDigit tail
      simp only [← h.2, List.length_cons]
      omega
  · simp only [Option.some.injEq, Prod.mk.injEq] at h
    simp [← h.2]

theorem scanExponentSign_length_le (cs : List Char) :
    (scanExponentSign cs).2.length ≤ cs.length := by
  fun_cases scanExponentSign cs <;> simp

theorem scanExponent?_length_le {cs rest : List Char} {exponent : Option Int}
    (h : scanExponent? cs = some (exponent, rest)) : rest.length ≤ cs.length := by
  cases cs with
  | nil => simp_all [scanExponent?]
  | cons c tail =>
    simp only [scanExponent?] at h
    have hs := scanExponentSign_length_le tail
    split at h
    · split at h
      · simp at h
      · simp only [Option.some.injEq, Prod.mk.injEq] at h
        have := length_dropWhile_le Char.isDigit (scanExponentSign tail).2
        simp only [← h.2, List.length_cons]
        omega
    · simp only [Option.some.injEq, Prod.mk.injEq] at h
      simp [← h.2]

/-- What follows a number is shorter. -/
theorem Number.scan?_length_lt {cs rest : List Char} {n : Number}
    (h : Number.scan? cs = some (n, rest)) : rest.length < cs.length := by
  simp only [Number.scan?] at h
  have hs := scanSign_length_le cs
  split at h
  · simp at h
  · rename_i whole afterWhole hw
    have hw' := scanWhole?_length_lt hw
    split at h
    · simp at h
    · rename_i fraction afterFraction hf
      have hf' := scanFraction?_length_le hf
      split at h
      · simp at h
      · rename_i exponent tail he
        have he' := scanExponent?_length_le he
        obtain ⟨m, _, heq⟩ := Option.map_eq_some_iff.mp h
        simp only [Prod.mk.injEq] at heq
        rw [← heq.2]
        omega

end EntityAudit.Json
