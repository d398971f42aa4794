import EntityAudit.Document.Json.Text
import EntityAudit.Document.Json.Value

/-!
# `EntityAudit.Document.Json.Token` — the tokens of a JSON text

A text is a sequence of tokens with white space between them.  Where it cannot be read on, the sequence
ends with a token that says so.

## Contents

* `Bracket`, `Token`
* `Token.scan?` — the first token of a text
* `tokens` — all tokens
-/

namespace EntityAudit.Json

/-! ## Tokens -/

/-- What a bracket encloses. -/
inductive Bracket where
  | array
  | object
deriving DecidableEq, Repr

/-- The smallest parts of a text. -/
inductive Token where
  | opening (bracket : Bracket)
  | closing (bracket : Bracket)
  | comma
  | colon
  | scalar (value : Scalar)
  /-- The text cannot be read on. -/
  | unreadable
deriving DecidableEq, Repr

/-! ## Reading -/

/-- White space between tokens. -/
def isSpace (c : Char) : Bool := c = ' ' || c = '\t' || c = '\n' || c = '\r'

/-- A value that is spelled by a word, whose first letter has been read. -/
def scanWord? (tail : String) (value : Scalar) (cs : List Char) : Option (Token × List Char) :=
  (tail.toList.isPrefixOf? cs).map (fun rest => (.scalar value, rest))

/-- The token that a single character is. -/
def punctuation? (c : Char) : Option Token :=
  if c = '[' then some (.opening .array)
  else if c = ']' then some (.closing .array)
  else if c = '\x7b' then some (.opening .object)
  else if c = '\x7d' then some (.closing .object)
  else if c = ',' then some .comma
  else if c = ':' then some .colon
  else none

/-- The value without parts that begins with the character `c`, and what follows it. -/
def scanScalar? (c : Char) (rest : List Char) : Option (Token × List Char) :=
  if c = '"' then (scanText? rest).map (fun (text, rest) => (.scalar (.text text), rest))
  else if c = 'n' then scanWord? "ull" .null rest
  else if c = 't' then scanWord? "rue" (.boolean true) rest
  else if c = 'f' then scanWord? "alse" (.boolean false) rest
  else (Number.scan? (c :: rest)).map (fun (n, rest) => (.scalar (.number n), rest))

/-- The token that begins with the character `c`, and what follows it. -/
def Token.scan? (c : Char) (rest : List Char) : Option (Token × List Char) :=
  match punctuation? c with
  | some t => some (t, rest)
  | none => scanScalar? c rest

/-- A text is what it begins with and what follows. -/
theorem append_of_isPrefixOf? {word cs rest : List Char} (h : word.isPrefixOf? cs = some rest) :
    word ++ rest = cs := by
  induction word generalizing cs with
  | nil => exact (Option.some.inj h).symm
  | cons c word ih =>
    cases cs with
    | nil => exact nomatch (show (none : Option (List Char)) = some rest from h)
    | cons d cs =>
      have hstep : (if c == d then word.isPrefixOf? cs else none) = some rest := h
      split at hstep
      · rename_i hcd
        rw [beq_iff_eq.mp hcd, List.cons_append, ih hstep]
      · exact nomatch hstep

theorem scanWord?_length_le {tail : String} {value : Scalar} {cs rest : List Char} {t : Token}
    (h : scanWord? tail value cs = some (t, rest)) : rest.length ≤ cs.length := by
  obtain ⟨r, hr, heq⟩ := Option.map_eq_some_iff.mp h
  simp only [Prod.mk.injEq] at heq
  rw [← append_of_isPrefixOf? hr, heq.2]
  simp

theorem scanScalar?_length_le {c : Char} {rest after : List Char} {t : Token}
    (h : scanScalar? c rest = some (t, after)) : after.length ≤ rest.length := by
  rw [scanScalar?] at h
  split at h
  · obtain ⟨⟨text, r⟩, hr, heq⟩ := Option.map_eq_some_iff.mp h
    simp only [Prod.mk.injEq] at heq
    exact heq.2 ▸ Nat.le_of_lt (scanText?_length_lt hr)
  · split at h
    · exact scanWord?_length_le h
    · split at h
      · exact scanWord?_length_le h
      · split at h
        · exact scanWord?_length_le h
        · obtain ⟨⟨n, r⟩, hr, heq⟩ := Option.map_eq_some_iff.mp h
          simp only [Prod.mk.injEq] at heq
          exact heq.2 ▸ Nat.le_of_lt_succ (Number.scan?_length_lt hr)

/-- What follows a token is shorter. -/
theorem Token.scan?_length_le {c : Char} {rest after : List Char} {t : Token}
    (h : Token.scan? c rest = some (t, after)) : after.length ≤ rest.length := by
  rw [Token.scan?] at h
  split at h
  · simp only [Option.some.injEq, Prod.mk.injEq] at h
    simp [h.2]
  · exact scanScalar?_length_le h

/-- The tokens of a text. -/
def tokens : List Char → List Token
  | [] => []
  | c :: rest =>
    if isSpace c then tokens rest
    else
      match _h : Token.scan? c rest with
      | none => [.unreadable]
      | some (t, after) => t :: tokens after
termination_by cs => cs.length
decreasing_by
  · simp
  · exact Nat.lt_succ_of_le (Token.scan?_length_le _h)

end EntityAudit.Json
