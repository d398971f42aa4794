import EntityAudit.Unicode.CaseClass
import EntityAudit.Unicode.CaseMap
import EntityAudit.Unicode.Range

/-!
# `EntityAudit.Unicode.Case` — full case conversion

The locale-free mappings of single characters, whose images may have several characters, and the
lowercase form of a text.  The only mapping that looks around is that of the capital sigma: at the end
of a word it becomes `ς`, elsewhere `σ`.

## Contents

* `lowerChar`, `upperChar` — the images of one character
* `isCased`, `isCaseIgnorable`, `endsWord` — the context of a sigma
* `lower` — the lowercase form of a text
* `lower_of_noSigma` — without a capital sigma, `lower` is the concatenation of images
-/

namespace EntityAudit.Unicode

/-! ## Images of single characters -/

/-- Whether the run contains the code point `n`. -/
def Shift.covers (s : Shift) (n : Nat) : Bool :=
  s.first ≤ n && n ≤ s.last && (n - s.first) % s.step == 0

/-- The code point to which the runs, in increasing order, move `n`. -/
def shifted (n : Nat) : List Shift → Nat
  | [] => n
  | s :: rest =>
    if n < s.first then n
    else if s.covers n then (n + s.offset).toNat
    else shifted n rest

/-- The longer image of `c`, or else the image that the runs give it. -/
def image (special : List (Nat × List Nat)) (shifts : List Shift) (c : Char) : List Char :=
  match special.lookup c.toNat with
  | some points => points.map Char.ofNat
  | none => [Char.ofNat (shifted c.toNat shifts)]

/-- The lowercase image of a character. -/
def lowerChar (c : Char) : List Char :=
  image lowerSpecial lowerShifts c

/-- The uppercase image of a character. -/
def upperChar (c : Char) : List Char :=
  image upperSpecial upperShifts c

/-! ## The end of a word -/

/-- Whether a character is cased. -/
def isCased (c : Char) : Bool := inRanges c casedRanges

/-- Whether a character is looked through in the search for a cased one. -/
def isCaseIgnorable (c : Char) : Bool := inRanges c caseIgnorableRanges

/-- Whether the first character that is not looked through is cased. -/
def beginsCased (cs : List Char) : Bool :=
  match cs.dropWhile isCaseIgnorable with
  | [] => false
  | c :: _ => isCased c

/-- Whether a character ends a word: the nearest character `before` it is cased and the nearest one
`after` it is not.  `before` is read backwards. -/
def endsWord (before after : List Char) : Bool :=
  beginsCased before && !beginsCased after

/-! ## Texts -/

/-- The lowercase form of a text, of which `before` has been read already and is kept backwards. -/
def lowerAfter (before : List Char) : List Char → List Char
  | [] => []
  | c :: rest =>
    (if c = 'Σ' then [if endsWord before rest then 'ς' else 'σ'] else lowerChar c)
      ++ lowerAfter (c :: before) rest

/-- The lowercase form of a text. -/
def lower (cs : List Char) : List Char := lowerAfter [] cs

/-- Without a capital sigma the context does not matter. -/
theorem lowerAfter_of_noSigma {cs : List Char} (h : 'Σ' ∉ cs) (before : List Char) :
    lowerAfter before cs = cs.flatMap lowerChar := by
  induction cs generalizing before with
  | nil => rfl
  | cons c rest ih =>
    have hc : c ≠ 'Σ' := fun hc => h (hc ▸ List.mem_cons_self)
    have hrest : 'Σ' ∉ rest := fun hm => h (List.mem_cons_of_mem c hm)
    simp [lowerAfter, hc, ih hrest]

/-- Without a capital sigma, `lower` is the concatenation of images. -/
theorem lower_of_noSigma {cs : List Char} (h : 'Σ' ∉ cs) : lower cs = cs.flatMap lowerChar :=
  lowerAfter_of_noSigma h []

end EntityAudit.Unicode
