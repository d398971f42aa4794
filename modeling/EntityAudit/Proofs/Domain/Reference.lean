import Mathlib.Data.List.TakeWhile
import EntityAudit.Domain.ValueType

/-!
# `EntityAudit.Proofs.Domain.Reference` — which references name a value type

A reference is read by trimming it and then dropping an empty parameter list.  Seen from the text, this
leaves little freedom: the qualified name of the type, perhaps an empty parameter list right before it,
and white space at the ends of the whole.

## Contents

* `exists_trim`, `trim_append` — the white space at the ends of a text
* `dropEmptyParameters_eq_iff` — the parameter list in front of a text
* `TypeRef.Names`, `ofRef?_eq_some_iff_names` — references and the types that they name
-/

namespace EntityAudit

/-! ## White space -/

namespace Unicode

/-- A text has nothing but white space. -/
def IsBlankText (cs : List Char) : Prop := ∀ c ∈ cs, isBlank c = true

/-- A text with a character that is no white space at each of its ends, or the empty one. -/
structure IsTrimmed (cs : List Char) : Prop where
  head : ∀ c ∈ cs.head?, isBlank c = false
  last : ∀ c ∈ cs.getLast?, isBlank c = false

/-- What white space in front of a text leaves of it. -/
theorem exists_dropWhile_isBlank (cs : List Char) :
    ∃ left, IsBlankText left ∧ cs = left ++ cs.dropWhile isBlank :=
  ⟨cs.takeWhile isBlank, fun _ hc => List.mem_takeWhile_imp hc, List.takeWhile_append_dropWhile.symm⟩

/-- A text is what is left when it is trimmed, between white space. -/
theorem exists_trim (cs : List Char) :
    ∃ left right, IsBlankText left ∧ IsBlankText right ∧ cs = left ++ trim cs ++ right := by
  obtain ⟨left, hleft, hcs⟩ := exists_dropWhile_isBlank cs
  obtain ⟨right, hright, hrest⟩ := exists_dropWhile_isBlank (cs.dropWhile isBlank).reverse
  refine ⟨left, right.reverse, hleft, fun c hc => hright c (List.mem_reverse.mp hc), ?_⟩
  have htrim : cs.dropWhile isBlank = trim cs ++ right.reverse := by
    rw [← List.reverse_reverse (cs.dropWhile isBlank), hrest, List.reverse_append]
    rfl
  rw [List.append_assoc, ← htrim]
  exact hcs

/-- White space in front goes, and nothing else. -/
theorem dropWhile_isBlank_append {left cs : List Char} (hleft : IsBlankText left)
    (hhead : ∀ c ∈ cs.head?, isBlank c = false) : (left ++ cs).dropWhile isBlank = cs := by
  rw [List.dropWhile_append_of_pos hleft]
  cases cs with
  | nil => rfl
  | cons c rest =>
      have hc : ¬ isBlank c = true := Bool.eq_false_iff.mp (hhead c rfl)
      exact List.dropWhile_cons_of_neg hc

/-- **White space at the ends of a trimmed text is all that trimming takes away.** -/
theorem trim_append {left cs right : List Char} (hleft : IsBlankText left) (hright : IsBlankText right)
    (hcs : IsTrimmed cs) (hne : cs ≠ []) : trim (left ++ cs ++ right) = cs := by
  have hfront : (left ++ cs ++ right).dropWhile isBlank = cs ++ right := by
    rw [List.append_assoc]
    obtain ⟨first, rest, rfl⟩ := List.exists_cons_of_ne_nil hne
    exact dropWhile_isBlank_append hleft hcs.head
  have hback : (cs ++ right).reverse.dropWhile isBlank = cs.reverse := by
    rw [List.reverse_append]
    refine dropWhile_isBlank_append (fun c hc => hright c (List.mem_reverse.mp hc)) fun c hc => ?_
    rw [List.head?_reverse] at hc
    exact hcs.last c hc
  rw [trim, hfront, hback, List.reverse_reverse]

end Unicode

/-! ## Parameter lists -/

/-- A text without the empty parameter list in front: the text itself, or what follows the list.  One list is
dropped at most. -/
theorem dropEmptyParameters_eq_iff {cs name : List Char} (hname : name.head? ≠ some '(') :
    dropEmptyParameters cs = name ↔ cs = name ∨ cs = '(' :: ')' :: name := by
  constructor
  · intro h
    unfold dropEmptyParameters at h
    split at h
    · exact Or.inr (h ▸ rfl)
    · exact Or.inl h
  · rintro (rfl | rfl)
    · unfold dropEmptyParameters
      split
      · exact absurd rfl hname
      · rfl
    · rfl

/-! ## References -/

namespace ValueType

/-- The qualified name of a value type begins and ends with a letter. -/
theorem qualifiedName_ends (t : ValueType) :
    t.qualifiedName.toList.head? = some 'j' ∧ Unicode.IsTrimmed t.qualifiedName.toList
      ∧ Unicode.IsTrimmed ('(' :: ')' :: t.qualifiedName.toList) := by
  have hall : ∀ t : ValueType, t.qualifiedName.toList.head? = some 'j'
      ∧ t.qualifiedName.toList.getLast?.all (fun c => !Unicode.isBlank c) = true
      ∧ ('(' :: ')' :: t.qualifiedName.toList).getLast? = t.qualifiedName.toList.getLast? := by
    intro t
    cases t <;> decide +kernel
  obtain ⟨hhead, hlast, hsame⟩ := hall t
  have hend : ∀ c ∈ t.qualifiedName.toList.getLast?, Unicode.isBlank c = false := by
    intro c hc
    rw [Option.mem_def.mp hc] at hlast
    simpa using hlast
  refine ⟨hhead, ⟨fun c hc => ?_, hend⟩, ⟨fun c hc => ?_, fun c hc => hend c (hsame ▸ hc)⟩⟩
  · rw [hhead] at hc
    cases hc
    decide +kernel
  · cases hc
    decide +kernel

end ValueType

/-- **The reference names the value type**: between white space there is the qualified name of the type, or
that name behind an empty parameter list. -/
def TypeRef.Names (r : TypeRef) (t : ValueType) : Prop :=
  ∃ left right, Unicode.IsBlankText left ∧ Unicode.IsBlankText right ∧
    (r.text.toList = left ++ t.qualifiedName.toList ++ right ∨
      r.text.toList = left ++ '(' :: ')' :: t.qualifiedName.toList ++ right)

/-- **A reference resolves to the type that it names.** -/
theorem ofRef?_eq_some_iff_names {r : TypeRef} {t : ValueType} :
    ValueType.ofRef? r = some t ↔ r.Names t := by
  obtain ⟨hhead, hplain, hlisted⟩ := t.qualifiedName_ends
  have hname : t.qualifiedName.toList.head? ≠ some '(' := by
    rw [hhead]
    decide
  have hne : t.qualifiedName.toList ≠ [] := by
    intro hnil
    rw [hnil] at hhead
    exact nomatch hhead
  have hnormalized : r.normalized = t.qualifiedName ↔
      dropEmptyParameters (Unicode.trim r.text.toList) = t.qualifiedName.toList := by
    rw [← String.toList_inj, TypeRef.normalized, String.toList_ofList]
  rw [ValueType.ofRef?_eq_some_iff, hnormalized, dropEmptyParameters_eq_iff hname]
  constructor
  · intro h
    obtain ⟨left, right, hleft, hright, htext⟩ := Unicode.exists_trim r.text.toList
    refine ⟨left, right, hleft, hright, h.imp (fun hsame => ?_) fun hsame => ?_⟩
    · rwa [hsame] at htext
    · rwa [hsame] at htext
  · rintro ⟨left, right, hleft, hright, htext | htext⟩
    · exact Or.inl (htext ▸ Unicode.trim_append hleft hright hplain hne)
    · exact Or.inr (htext ▸ Unicode.trim_append hleft hright hlisted (List.cons_ne_nil _ _))

end EntityAudit
