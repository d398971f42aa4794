/-!
# `EntityAudit.Number.Digits` — numbers from their digits

## Contents

* `digitValue?` — one digit
* `numberOf?` — a sequence of digits
-/

namespace EntityAudit

/-- The number that a digit spells in a base up to 16; letters may be small or capital. -/
def digitValue? (base : Nat) (c : Char) : Option Nat :=
  let value :=
    if '0' ≤ c ∧ c ≤ '9' then c.toNat - '0'.toNat
    else if 'a' ≤ c ∧ c ≤ 'f' then c.toNat - 'a'.toNat + 10
    else if 'A' ≤ c ∧ c ≤ 'F' then c.toNat - 'A'.toNat + 10
    else 16
  if value < base then some value else none

/-- The number that digits spell in a base, after the digits that spell `n`. -/
def numberAfter? (base n : Nat) : List Char → Option Nat
  | [] => some n
  | c :: rest =>
    match digitValue? base c with
    | none => none
    | some d => numberAfter? base (n * base + d) rest

/-- The number that digits spell in a base; no digits spell zero. -/
def numberOf? (base : Nat) (cs : List Char) : Option Nat := numberAfter? base 0 cs

end EntityAudit
