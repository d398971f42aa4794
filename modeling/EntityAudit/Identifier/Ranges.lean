/-!
# `EntityAudit.Identifier.Ranges` — the words of an identifier, found in its bytes

The words of a text can be found in its UTF-8 form without decoding it.  A cursor stands where a word may
begin, and a second one runs ahead of it, over a capital and then over small letters.  Where it has met a
small letter, the bytes between the two are a word, and the search goes on behind them; elsewhere it goes
on one byte further.  The word itself is the slice of the text at that range, and there is one only if
both ends lie between characters.

## Contents

* `ByteRange`, `slice?` — a range of bytes, and the text that stands there
* `smallStart`, `smallEnd` — the cursor that runs ahead
* `wordRanges`, `wordSlices?` — the ranges of the words, and the words
-/

namespace EntityAudit.Identifier

/-- The bytes from `start` up to `stop`. -/
structure ByteRange where
  start : Nat
  stop : Nat
deriving DecidableEq, Repr

/-- The part of a text at a range of its bytes.  There is none if the ends are not in order, or if one of
them lies behind the text or within a character. -/
def slice? (s : String) (r : ByteRange) : Option String :=
  if h : r.start ≤ r.stop ∧ (String.Pos.Raw.mk r.start).IsValid s ∧ (String.Pos.Raw.mk r.stop).IsValid s then
    some (s.extract ⟨⟨r.start⟩, h.2.1⟩ ⟨⟨r.stop⟩, h.2.2⟩)
  else none

/-- The byte of an ASCII capital. -/
def isCapitalByte (b : UInt8) : Bool := 0x41 ≤ b && b ≤ 0x5A

/-- The byte of an ASCII small letter. -/
def isSmallByte (b : UInt8) : Bool := 0x61 ≤ b && b ≤ 0x7A

/-- A byte that passes a test is within the array. -/
theorem lt_size_of_any {bytes : ByteArray} {i : Nat} {p : UInt8 → Bool} (h : bytes[i]?.any p = true) :
    i < bytes.size := by
  refine Decidable.byContradiction fun hout => ?_
  rw [getElem?_neg bytes i hout] at h
  exact Bool.false_ne_true h

/-- Where the small letters of a word have to begin: behind a capital, if there is one. -/
def smallStart (bytes : ByteArray) (i : Nat) : Nat :=
  if bytes[i]?.any isCapitalByte then i + 1 else i

/-- Where the small letters that stand from `j` on come to an end. -/
def smallEnd (bytes : ByteArray) (j : Nat) : Nat :=
  if h : bytes[j]?.any isSmallByte then smallEnd bytes (j + 1) else j
termination_by bytes.size - j
decreasing_by
  have := lt_size_of_any h
  omega

theorem le_smallStart (bytes : ByteArray) (i : Nat) : i ≤ smallStart bytes i := by
  rw [smallStart]
  split <;> omega

/-- The ranges of the words that begin at `i` or later. -/
def wordRangesFrom (bytes : ByteArray) (i : Nat) : List ByteRange :=
  if h : i < bytes.size then
    if hword : smallStart bytes i < smallEnd bytes (smallStart bytes i) then
      ⟨i, smallEnd bytes (smallStart bytes i)⟩
        :: wordRangesFrom bytes (smallEnd bytes (smallStart bytes i))
    else wordRangesFrom bytes (i + 1)
  else []
termination_by bytes.size - i
decreasing_by
  · have := le_smallStart bytes i
    omega
  · omega

/-- The ranges of the words of a text. -/
def wordRanges (s : String) : List ByteRange := wordRangesFrom s.toUTF8 0

/-- The words of a text, if all their ranges are ranges of characters. -/
def wordSlices? (s : String) : Option (List String) := (wordRanges s).mapM (slice? s)

end EntityAudit.Identifier
