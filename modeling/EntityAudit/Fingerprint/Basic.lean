import EntityAudit.Fingerprint.Xxh3

/-!
# `EntityAudit.Fingerprint.Basic` — telling contents apart at a glance

A fingerprint stands for the contents of an artifact in reports: equal contents have equal fingerprints.

## Contents

* `Fingerprint` — a number of 64 bits
* `Fingerprint.of` — the fingerprint of a sequence of bytes
* `Fingerprint.hex` — its text, 16 hexadecimal digits
-/

namespace EntityAudit

/-- A number of 64 bits that stands for some contents. -/
structure Fingerprint where
  value : UInt64
deriving DecidableEq, Repr

/-- The fingerprint of a sequence of bytes. -/
def Fingerprint.of (bytes : ByteArray) : Fingerprint := ⟨Xxh3.hash bytes⟩

/-- The text of a fingerprint: always 16 lowercase hexadecimal digits. -/
def Fingerprint.hex (f : Fingerprint) : String :=
  let digits := Nat.toDigits 16 f.value.toNat
  String.ofList (List.replicate (16 - digits.length) '0' ++ digits)

end EntityAudit
