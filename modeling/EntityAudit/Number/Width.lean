/-!
# `EntityAudit.Number.Width` — integers of a fixed width

## Contents

* `fitsUnsigned`, `fitsSigned` — whether so many bits hold an integer
-/

namespace EntityAudit

/-- Whether so many bits hold an integer that is not negative. -/
def fitsUnsigned (bits : Nat) : Int → Bool
  | .ofNat n => Nat.blt n (Nat.pow 2 bits)
  | .negSucc _ => false

/-- Whether so many bits, one of them for the sign, hold an integer. -/
def fitsSigned (bits : Nat) : Int → Bool
  | .ofNat n => Nat.blt n (Nat.pow 2 (bits - 1))
  | .negSucc n => Nat.blt n (Nat.pow 2 (bits - 1))

end EntityAudit
