import EntityAudit.Unicode.Range

/-!
# `EntityAudit.Unicode.Blank` — white space at the ends of a text

## Contents

* `isBlank` — the property `White_Space`
* `trim` — a text without the white space at its ends
-/

namespace EntityAudit.Unicode

/-- The property `White_Space`, as ranges with both ends included. -/
def blankRanges : List (Nat × Nat) :=
  [(0x0009, 0x000D), (0x0020, 0x0020), (0x0085, 0x0085), (0x00A0, 0x00A0), (0x1680, 0x1680),
   (0x2000, 0x200A), (0x2028, 0x2029), (0x202F, 0x202F), (0x205F, 0x205F), (0x3000, 0x3000)]

/-- Whether a character is white space. -/
def isBlank (c : Char) : Bool := inRanges c blankRanges

/-- A text without the white space at its ends. -/
def trim (cs : List Char) : List Char :=
  ((cs.dropWhile isBlank).reverse.dropWhile isBlank).reverse

/-- A text is trimmed to nothing exactly when it holds nothing but white space. -/
theorem trim_eq_nil_iff {cs : List Char} : trim cs = [] ↔ cs.all isBlank = true := by
  have empty_iff : ∀ l : List Char, l.dropWhile isBlank = [] ↔ ∀ c ∈ l, isBlank c = true := by
    intro l
    induction l with
    | nil => simp
    | cons c rest ih => by_cases h : isBlank c <;> simp [h, ih]
  constructor
  · intro h
    have hrev : (cs.dropWhile isBlank).reverse.dropWhile isBlank = [] := by
      simpa [trim] using h
    have hall := (empty_iff _).mp hrev
    cases hd : cs.dropWhile isBlank with
    | nil => simpa using (empty_iff cs).mp hd
    | cons c rest =>
      have hc : isBlank c = false := by
        have := List.head_dropWhile_not isBlank (l := cs) (by simp [hd])
        simpa [hd] using this
      have : isBlank c = true := hall c (by simp [hd])
      simp [hc] at this
  · intro h
    have hall : ∀ c ∈ cs, isBlank c = true := by simpa using h
    simp [trim, (empty_iff cs).mpr hall]

end EntityAudit.Unicode
