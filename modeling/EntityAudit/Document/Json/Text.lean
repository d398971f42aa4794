import EntityAudit.Number.Digits

/-!
# `EntityAudit.Document.Json.Text` — strings in JSON texts

Between quotes a character stands for itself unless it is a control character.  An escape stands for a
unit of 16 bits; two units that are halves of one character make up that character, and a half alone
stands for nothing.

## Contents

* `scanUnits?` — the units between quotes
* `joinUnits?` — the characters that units stand for
* `scanText?` — both
* `scanText?_length_lt` — what follows a string is shorter
-/

namespace EntityAudit.Json

/-! ## Units -/

/-- What a letter after a backslash stands for. -/
def shortEscape? (c : Char) : Option Char :=
  if c = '"' ∨ c = '\\' ∨ c = '/' then some c
  else if c = 'b' then some '\x08'
  else if c = 'f' then some '\x0c'
  else if c = 'n' then some '\n'
  else if c = 'r' then some '\r'
  else if c = 't' then some '\t'
  else none

/-- Puts a unit in front of a list of units. -/
def consUnit (n : Nat) (r : List Nat × List Char) : List Nat × List Char := (n :: r.1, r.2)

/-- The units up to the closing quote, and what follows it. -/
def scanUnits? : List Char → Option (List Nat × List Char)
  | [] => none
  | '"' :: rest => some ([], rest)
  | '\\' :: 'u' :: a :: b :: c :: d :: rest =>
    match numberOf? 16 [a, b, c, d] with
    | none => none
    | some n => (scanUnits? rest).map (consUnit n)
  | '\\' :: c :: rest =>
    match shortEscape? c with
    | none => none
    | some e => (scanUnits? rest).map (consUnit e.toNat)
  | c :: rest => if c.toNat < 0x20 then none else (scanUnits? rest).map (consUnit c.toNat)

/-- What follows a string is shorter. -/
theorem scanUnits?_length_lt {cs rest : List Char} {units : List Nat}
    (h : scanUnits? cs = some (units, rest)) : rest.length < cs.length := by
  fun_induction scanUnits? cs generalizing units with
  | case1 => simp at h
  | case2 tail => simp_all
  | case3 => simp at h
  | case4 a b c d tail n hn ih =>
    obtain ⟨⟨us, r⟩, hr, heq⟩ := Option.map_eq_some_iff.mp h
    simp only [consUnit, Prod.mk.injEq] at heq
    have := ih (heq.2 ▸ hr)
    simp only [List.length_cons]
    omega
  | case5 => simp at h
  | case6 c tail _ e he ih =>
    obtain ⟨⟨us, r⟩, hr, heq⟩ := Option.map_eq_some_iff.mp h
    simp only [consUnit, Prod.mk.injEq] at heq
    have := ih (heq.2 ▸ hr)
    simp only [List.length_cons]
    omega
  | case7 => simp at h
  | case8 c tail _ _ _ hc ih =>
    obtain ⟨⟨us, r⟩, hr, heq⟩ := Option.map_eq_some_iff.mp h
    simp only [consUnit, Prod.mk.injEq] at heq
    have := ih (heq.2 ▸ hr)
    simp only [List.length_cons]
    omega

/-! ## Characters -/

/-- Whether a unit is the first half of a character. -/
def isLeadingHalf (n : Nat) : Bool := 0xD800 ≤ n && n ≤ 0xDBFF

/-- Whether a unit is the second half of a character. -/
def isTrailingHalf (n : Nat) : Bool := 0xDC00 ≤ n && n ≤ 0xDFFF

/-- The character of two halves. -/
def joined (n m : Nat) : Char := Char.ofNat (0x10000 + (n - 0xD800) * 0x400 + (m - 0xDC00))

/-- The characters that units stand for. -/
def joinUnits? : List Nat → Option (List Char)
  | [] => some []
  | [n] => if isLeadingHalf n || isTrailingHalf n then none else some [Char.ofNat n]
  | n :: m :: rest =>
    if isLeadingHalf n then
      if isTrailingHalf m then (joinUnits? rest).map (joined n m :: ·) else none
    else if isTrailingHalf n then none
    else (joinUnits? (m :: rest)).map (Char.ofNat n :: ·)

/-- The text up to the closing quote, and what follows it. -/
def scanText? (cs : List Char) : Option (String × List Char) :=
  match scanUnits? cs with
  | none => none
  | some (units, rest) => (joinUnits? units).map (fun text => (String.ofList text, rest))

theorem scanText?_length_lt {cs rest : List Char} {text : String}
    (h : scanText? cs = some (text, rest)) : rest.length < cs.length := by
  rw [scanText?] at h
  split at h
  · simp at h
  · rename_i units tail hs
    obtain ⟨_, _, heq⟩ := Option.map_eq_some_iff.mp h
    simp only [Prod.mk.injEq] at heq
    exact scanUnits?_length_lt (heq.2 ▸ hs)

end EntityAudit.Json
