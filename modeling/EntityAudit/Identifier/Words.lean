/-!
# `EntityAudit.Identifier.Words` — the words of an identifier

A word is an optional ASCII capital followed by ASCII small letters, as long as possible.  Digits, marks,
letters outside ASCII and capitals that no small letter follows belong to no word.

## Contents

* `isCapital`, `isSmall` — the two classes of letters
* `beginsSmall` — whether a text begins with a small letter
* `words` — the words of a text, from left to right
* `words_eq_nil_iff` — a text has words exactly when it has a small letter
-/

namespace EntityAudit.Identifier

/-- An ASCII capital. -/
def isCapital (c : Char) : Bool := 'A' ≤ c && c ≤ 'Z'

/-- An ASCII small letter. -/
def isSmall (c : Char) : Bool := 'a' ≤ c && c ≤ 'z'

/-- Whether a text begins with a small letter. -/
def beginsSmall : List Char → Bool
  | [] => false
  | c :: _ => isSmall c

/-- Puts a character in front of the first word. -/
def extendFirst (c : Char) : List (List Char) → List (List Char)
  | [] => [[c]]
  | w :: ws => (c :: w) :: ws

/-- The words of a text.  A letter belongs to the word that begins right after it when that word begins
with a small letter; a small letter is a word by itself otherwise. -/
def words : List Char → List (List Char)
  | [] => []
  | c :: rest =>
    if (isSmall c || isCapital c) && beginsSmall rest then extendFirst c (words rest)
    else if isSmall c then [c] :: words rest
    else words rest

/-- A text has words exactly when it has a small letter. -/
theorem words_eq_nil_iff {cs : List Char} : words cs = [] ↔ cs.any isSmall = false := by
  have extend_ne : ∀ (c : Char) (ws : List (List Char)), extendFirst c ws ≠ [] := by
    intro c ws
    cases ws <;> simp [extendFirst]
  induction cs with
  | nil => simp [words]
  | cons c rest ih =>
    by_cases hb : beginsSmall rest
    · have hany : rest.any isSmall = true := by
        cases rest with
        | nil => simp [beginsSmall] at hb
        | cons d ds => simp [beginsSmall] at hb; simp [hb]
      have hne : words rest ≠ [] := fun h => by simp [ih.mp h] at hany
      by_cases hs : isSmall c <;> by_cases hu : isCapital c <;>
        simp [words, hb, hs, hu, extend_ne, hne, hany]
    · by_cases hs : isSmall c <;> simp [words, hb, hs, ih]

end EntityAudit.Identifier
