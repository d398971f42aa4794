/-!
# `EntityAudit.Unicode.Range` — membership in a property given by ranges

A property of characters is a list of ranges of code points in increasing order.  A search ends at the
first range that begins above the character, so the common case, a small code point, is decided at once.

## Contents

* `inRanges` — membership
-/

namespace EntityAudit.Unicode

/-- Whether `c` lies in one of the ranges, which are in increasing order and contain both their ends. -/
def inRanges (c : Char) : List (Nat × Nat) → Bool
  | [] => false
  | (first, last) :: rest =>
    if c.toNat < first then false
    else if c.toNat ≤ last then true
    else inRanges c rest

end EntityAudit.Unicode
