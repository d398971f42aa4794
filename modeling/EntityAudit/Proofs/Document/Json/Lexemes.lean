import Mathlib.Data.List.Chain
import EntityAudit.Document.Json.Token
import EntityAudit.Proofs.Document.Json.Numbers
import EntityAudit.Proofs.Document.Json.Strings

/-!
# `EntityAudit.Proofs.Document.Json.Lexemes` — texts as spelled tokens

A text spells tokens if it consists of their spellings with white space anywhere between them.  The tokens
of a text that can be read are spelled by it, and no other tokens are, as long as no two scalars follow
each other: the spelling of a number has no mark at its end.

## Contents

* `ScalarSpelled`, `TokenSpelled`, `Spaced` — how scalars, tokens and sequences of tokens are spelled
* `scan?_of_tokenSpelled`, `tokenSpelled_of_scan?` — one token
* `Separated`, `tokens_of_spaced` — what is spelled is read
* `spaced_tokens` — what is read is spelled
-/

namespace EntityAudit.Json

/-! ## Spelling -/

/-- How a value without parts may be written. -/
inductive ScalarSpelled : List Char → Scalar → Prop where
  | null : ScalarSpelled "null".toList .null
  | true : ScalarSpelled "true".toList (.boolean true)
  | false : ScalarSpelled "false".toList (.boolean false)
  | number {cs : List Char} {n : Number} (h : NumberSpelled cs n) : ScalarSpelled cs (.number n)
  | text {body : List Char} {s : String} (h : TextSpelled body s.toList) :
      ScalarSpelled ('"' :: body ++ ['"']) (.text s)

/-- How a token may be written. -/
inductive TokenSpelled : List Char → Token → Prop where
  | openArray : TokenSpelled ['['] (.opening .array)
  | closeArray : TokenSpelled [']'] (.closing .array)
  | openObject : TokenSpelled ['\x7b'] (.opening .object)
  | closeObject : TokenSpelled ['\x7d'] (.closing .object)
  | comma : TokenSpelled [','] .comma
  | colon : TokenSpelled [':'] .colon
  | scalar {cs : List Char} {value : Scalar} (h : ScalarSpelled cs value) :
      TokenSpelled cs (.scalar value)

/-- How tokens may be written: one after the other, with white space around them. -/
inductive Spaced : List Token → List Char → Prop where
  | nil : Spaced [] []
  | space {ts : List Token} {c : Char} {cs : List Char} (hc : isSpace c = true) (h : Spaced ts cs) :
      Spaced ts (c :: cs)
  | token {ts : List Token} {t : Token} {lexeme cs : List Char} (ht : TokenSpelled lexeme t)
      (h : Spaced ts cs) : Spaced (t :: ts) (lexeme ++ cs)

theorem Spaced.append {ts us : List Token} {cs ds : List Char} (h : Spaced ts cs) (h' : Spaced us ds) :
    Spaced (ts ++ us) (cs ++ ds) := by
  induction h with
  | nil => exact h'
  | space hc _ ih => exact .space hc ih
  | token ht _ ih =>
      rw [List.append_assoc]
      exact .token ht ih

theorem Spaced.single {t : Token} {lexeme : List Char} (h : TokenSpelled lexeme t) :
    Spaced [t] lexeme := by
  rw [← List.append_nil lexeme]
  exact .token h .nil

/-! ## One token -/

/-- A number begins with a minus or a digit. -/
theorem NumberSpelled.exists_cons {cs : List Char} {n : Number} (h : NumberSpelled cs n) :
    ∃ c rest, cs = c :: rest ∧ (c = '-' ∨ c.isDigit = true) := by
  cases h with
  | parts hsign hwhole =>
      cases hsign with
      | none =>
          obtain ⟨d, rest, rfl, hd, -⟩ := hwhole.isDigits.exists_cons
          exact ⟨d, _, rfl, Or.inr hd⟩
      | minus => exact ⟨'-', _, rfl, Or.inl rfl⟩

/-- White space and punctuation. -/
def separators : List Char := [' ', '\t', '\n', '\r', '[', ']', '\x7b', '\x7d', ',', ':']

/-- Neither white space nor punctuation continues a number, nor a quote or a letter of a word begins one. -/
theorem separators_apart :
    (separators.all fun c => decide (c.isDigit = false ∧ c ≠ '.' ∧ c ≠ 'e' ∧ c ≠ 'E')) = true
      ∧ ((separators ++ ['"', 'n', 't', 'f']).all fun c => decide (c ≠ '-' ∧ c.isDigit = false)) = true := by
  decide

/-- The beginning of a number is that of nothing else. -/
theorem scanStart_number {c : Char} (h : c = '-' ∨ c.isDigit = true) :
    isSpace c = false ∧ punctuation? c = none ∧ c ≠ '"' ∧ c ≠ 'n' ∧ c ≠ 't' ∧ c ≠ 'f' := by
  have hne : ∀ d ∈ separators ++ ['"', 'n', 't', 'f'], c ≠ d := by
    rintro d hd rfl
    obtain ⟨hminus, hdigit⟩ := of_decide_eq_true (List.all_eq_true.mp separators_apart.2 c hd)
    rcases h with hc | hc
    · exact hminus hc
    · rw [hdigit] at hc
      exact Bool.false_ne_true hc
  simp only [separators, List.cons_append, List.nil_append, List.forall_mem_cons] at hne
  simp [isSpace, punctuation?, hne]

/-- **A spelled token is found**: it begins with a character that is no white space, and it is scanned up
to what follows, if that cannot continue a number. -/
theorem scan?_of_tokenSpelled {lexeme rest : List Char} {t : Token} (h : TokenSpelled lexeme t)
    (hrest : ∀ value, t = .scalar value → EndsNumber rest) :
    ∃ c tail, lexeme = c :: tail ∧ isSpace c = false ∧ Token.scan? c (tail ++ rest) = some (t, rest) := by
  cases h with
  | openArray => exact ⟨'[', [], rfl, by decide, rfl⟩
  | closeArray => exact ⟨']', [], rfl, by decide, rfl⟩
  | openObject => exact ⟨'\x7b', [], rfl, by decide, rfl⟩
  | closeObject => exact ⟨'\x7d', [], rfl, by decide, rfl⟩
  | comma => exact ⟨',', [], rfl, by decide, rfl⟩
  | colon => exact ⟨':', [], rfl, by decide, rfl⟩
  | scalar hscalar =>
      cases hscalar with
      | null => exact ⟨'n', "ull".toList, rfl, by decide, rfl⟩
      | true => exact ⟨'t', "rue".toList, rfl, by decide, rfl⟩
      | false => exact ⟨'f', "alse".toList, rfl, by decide, rfl⟩
      | number hnumber =>
          obtain ⟨c, tail, rfl, hc⟩ := hnumber.exists_cons
          obtain ⟨hspace, hpunctuation, hquote, hn, ht, hf⟩ := scanStart_number hc
          refine ⟨c, tail, rfl, hspace, ?_⟩
          have hscan := scan?_of_spelled hnumber (hrest _ rfl)
          rw [List.cons_append] at hscan
          rw [Token.scan?, hpunctuation]
          simp only [scanScalar?, if_neg hquote, if_neg hn, if_neg ht, if_neg hf, hscan,
            Option.map_some]
      | @text body s hbody =>
          refine ⟨'"', body ++ ['"'], rfl, by decide, ?_⟩
          have hscan : scanText? (body ++ '"' :: rest) = some (s, rest) :=
            scanText?_eq_some_iff.mpr ⟨body, rfl, hbody⟩
          have htext : body ++ ['"'] ++ rest = body ++ '"' :: rest := by
            rw [List.append_assoc, List.singleton_append]
          show (scanText? (body ++ ['"'] ++ rest)).map _ = _
          rw [htext, hscan, Option.map_some]

/-- One choice of a character of punctuation after another. -/
theorem tokenSpelled_of_ite {c d : Char} {t u : Token} {other : Option Token} (hd : TokenSpelled [d] u)
    (hother : other = some t → TokenSpelled [c] t) (h : (if c = d then some u else other) = some t) :
    TokenSpelled [c] t := by
  split at h
  · rename_i hc
    cases Option.some.inj h
    rw [hc]
    exact hd
  · exact hother h

theorem tokenSpelled_of_punctuation? {c : Char} {t : Token} (h : punctuation? c = some t) :
    TokenSpelled [c] t := by
  rw [punctuation?] at h
  refine tokenSpelled_of_ite .openArray (fun h => ?_) h
  refine tokenSpelled_of_ite .closeArray (fun h => ?_) h
  refine tokenSpelled_of_ite .openObject (fun h => ?_) h
  refine tokenSpelled_of_ite .closeObject (fun h => ?_) h
  refine tokenSpelled_of_ite .comma (fun h => ?_) h
  refine tokenSpelled_of_ite .colon (fun h => ?_) h
  cases h

/-- A word that is found stands at the beginning of the text. -/
theorem append_of_scanWord? {tail : String} {value : Scalar} {cs rest : List Char} {t : Token}
    (h : scanWord? tail value cs = some (t, rest)) : t = .scalar value ∧ cs = tail.toList ++ rest := by
  obtain ⟨r, hr, heq⟩ := Option.map_eq_some_iff.mp h
  obtain ⟨rfl, rfl⟩ := Prod.mk.inj heq
  exact ⟨rfl, (append_of_isPrefixOf? hr).symm⟩

/-- **A token that is found is spelled** by what stands before the rest. -/
theorem tokenSpelled_of_scan? {c : Char} {rest after : List Char} {t : Token}
    (h : Token.scan? c rest = some (t, after)) :
    ∃ lexeme, c :: rest = lexeme ++ after ∧ TokenSpelled lexeme t := by
  rw [Token.scan?] at h
  split at h
  · rename_i p hp
    obtain ⟨rfl, rfl⟩ := Prod.mk.inj (Option.some.inj h)
    exact ⟨[c], rfl, tokenSpelled_of_punctuation? hp⟩
  rw [scanScalar?] at h
  split at h
  · rename_i hquote
    obtain ⟨⟨s, r⟩, hscan, heq⟩ := Option.map_eq_some_iff.mp h
    obtain ⟨rfl, rfl⟩ := Prod.mk.inj heq
    obtain ⟨body, rfl, hbody⟩ := scanText?_eq_some_iff.mp hscan
    refine ⟨_, ?_, .scalar (.text hbody)⟩
    rw [hquote, List.cons_append, List.cons_append, List.append_assoc, List.singleton_append]
  split at h
  · rename_i hn
    obtain ⟨rfl, rfl⟩ := append_of_scanWord? h
    rw [hn]
    exact ⟨_, rfl, .scalar .null⟩
  split at h
  · rename_i ht
    obtain ⟨rfl, rfl⟩ := append_of_scanWord? h
    rw [ht]
    exact ⟨_, rfl, .scalar .true⟩
  split at h
  · rename_i hf
    obtain ⟨rfl, rfl⟩ := append_of_scanWord? h
    rw [hf]
    exact ⟨_, rfl, .scalar .false⟩
  · obtain ⟨⟨n, r⟩, hscan, heq⟩ := Option.map_eq_some_iff.mp h
    obtain ⟨rfl, rfl⟩ := Prod.mk.inj heq
    obtain ⟨body, hbody, hspelled⟩ := spelled_of_scan? hscan
    exact ⟨body, hbody, .scalar (.number hspelled)⟩

/-! ## Sequences of tokens -/

/-- Whether a token is a value without parts. -/
def Token.isScalar : Token → Bool
  | .scalar _ => true
  | _ => false

/-- No two scalars follow each other. -/
def Separated (ts : List Token) : Prop := ts.IsChain fun a b => a.isScalar = true → b.isScalar = false

theorem endsNumber_of_separator {c : Char} (h : c ∈ separators) (rest : List Char) :
    EndsNumber (c :: rest) := by
  obtain ⟨hdigit, hothers⟩ := of_decide_eq_true (List.all_eq_true.mp separators_apart.1 c h)
  refine ⟨endsDigits_cons hdigit rest, ?_⟩
  intro d hd
  cases hd
  exact hothers

/-- What begins with white space or punctuation cannot continue a number. -/
theorem Spaced.endsNumber {ts : List Token} {cs : List Char} (h : Spaced ts cs)
    (hhead : ∀ t ∈ ts.head?, t.isScalar = false) : EndsNumber cs := by
  cases h with
  | nil =>
      constructor
      · intro c hc
        cases hc
      · intro c hc
        cases hc
  | space hc _ =>
      apply endsNumber_of_separator
      simp only [isSpace, Bool.or_eq_true, decide_eq_true_eq] at hc
      rcases hc with ((rfl | rfl) | rfl) | rfl <;> decide
  | token ht _ =>
      have hscalar := hhead _ rfl
      cases ht with
      | scalar => exact absurd hscalar.symm Bool.false_ne_true
      | _ => exact endsNumber_of_separator (by decide) _

/-- **Tokens that are spelled are read**, if no two scalars follow each other. -/
theorem tokens_of_spaced {ts : List Token} {cs : List Char} (h : Spaced ts cs) (hts : Separated ts) :
    tokens cs = ts := by
  induction h with
  | nil => exact tokens.eq_1
  | space hc _ ih => rw [tokens, if_pos hc, ih hts]
  | @token ts t lexeme cs ht hspaced ih =>
      obtain ⟨hnext, htail⟩ := List.isChain_cons.mp hts
      have hrest : ∀ value, t = .scalar value → EndsNumber cs := by
        rintro value rfl
        exact hspaced.endsNumber fun u hu => hnext u hu rfl
      obtain ⟨c, tail, rfl, hspace, hscan⟩ := scan?_of_tokenSpelled ht hrest
      rw [List.cons_append, tokens, hspace, if_neg Bool.false_ne_true]
      split
      · rename_i hnone
        cases hscan.symm.trans hnone
      · rename_i u after hsome
        obtain ⟨rfl, rfl⟩ := Prod.mk.inj (Option.some.inj (hscan.symm.trans hsome))
        rw [ih htail]

/-- **Tokens that are read are spelled**, if the text could be read to its end. -/
theorem spaced_tokens {cs : List Char} (h : Token.unreadable ∉ tokens cs) : Spaced (tokens cs) cs := by
  induction cs using tokens.induct with
  | case1 =>
      rw [tokens]
      exact .nil
  | case2 c rest hspace ih =>
      rw [tokens, if_pos hspace] at h ⊢
      exact .space hspace (ih h)
  | case3 c rest hspace hscan =>
      rw [tokens, if_neg hspace] at h
      split at h
      · exact absurd List.mem_cons_self h
      · rename_i hsome
        cases hscan.symm.trans hsome
  | case4 c rest hspace t after hscan ih =>
      have hstep : tokens (c :: rest) = t :: tokens after := by
        rw [tokens, if_neg hspace]
        split
        · rename_i hnone
          cases hscan.symm.trans hnone
        · rename_i hsome
          obtain ⟨rfl, rfl⟩ := Prod.mk.inj (Option.some.inj (hscan.symm.trans hsome))
          rfl
      rw [hstep] at h ⊢
      obtain ⟨lexeme, hlexeme, hspelled⟩ := tokenSpelled_of_scan? hscan
      rw [hlexeme]
      exact .token hspelled (ih fun hmem => h (List.mem_cons_of_mem t hmem))

end EntityAudit.Json
