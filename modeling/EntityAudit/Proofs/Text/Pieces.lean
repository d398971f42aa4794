import Mathlib.Data.List.Basic

/-!
# `EntityAudit.Proofs.Text.Pieces` — texts that are cut at a separator and joined by one

The facts on joining hold of all lists; they serve for the words of a text and for the tokens of a list.

## Contents

* `mem_of_mem_splitOn`, `notMem_of_mem_splitOn` — the characters of the pieces
* `mem_intercalate` — what is in a join
* `intercalate_cons`, `intercalate_concat`, `intercalate_concat_append` — a join from its first piece,
  from its last, and with a separator behind it
* `append_cons_inj`, `replicate_append_inj`, `mem_of_append_eq`, `isPrefixOf?_eq_some_iff` — what the front
  of a text tells
-/

namespace EntityAudit.Text

/-- The characters of a piece are characters of the text, and none is the separator. -/
theorem mem_of_mem_splitOn {cs w : List Char} {sep d : Char} (h : w ∈ cs.splitOn sep)
    (hd : d ∈ w) : d ∈ cs ∧ d ≠ sep := by
  induction cs generalizing w with
  | nil =>
      rw [List.splitOn_nil, List.mem_singleton] at h
      rw [h] at hd
      exact absurd hd List.not_mem_nil
  | cons c rest ih =>
      rw [List.splitOn_cons_eq_if_modifyHead] at h
      by_cases hc : c = sep
      · rw [hc, beq_self_eq_true, if_pos rfl] at h
        rcases List.mem_cons.mp h with rfl | hrest
        · exact absurd hd List.not_mem_nil
        · obtain ⟨hmem, hne⟩ := ih hrest hd
          exact ⟨List.mem_cons_of_mem c hmem, hne⟩
      · rw [beq_false_of_ne hc, if_neg Bool.false_ne_true] at h
        obtain ⟨first, others, hsplit⟩ := List.exists_cons_of_ne_nil (List.splitOn_ne_nil sep rest)
        rw [hsplit] at h ih
        rcases List.mem_cons.mp h with rfl | hothers
        · rcases List.mem_cons.mp hd with rfl | htail
          · exact ⟨List.mem_cons_self, hc⟩
          · obtain ⟨hmem, hne⟩ := ih List.mem_cons_self htail
            exact ⟨List.mem_cons_of_mem c hmem, hne⟩
        · obtain ⟨hmem, hne⟩ := ih (List.mem_cons_of_mem first hothers) hd
          exact ⟨List.mem_cons_of_mem c hmem, hne⟩

/-- What is in joined words is in one of them or the separator. -/
theorem mem_intercalate {α : Type} {ws : List (List α)} {sep d : α} (h : d ∈ [sep].intercalate ws) :
    d = sep ∨ ∃ w ∈ ws, d ∈ w := by
  induction ws with
  | nil => exact absurd h List.not_mem_nil
  | cons w ws ih =>
      cases ws with
      | nil =>
          rw [List.intercalate_singleton] at h
          exact Or.inr ⟨w, List.mem_cons_self, h⟩
      | cons v vs =>
          rw [List.intercalate_cons_cons, List.append_assoc, List.mem_append, List.mem_append] at h
          rcases h with hw | hdelim | hrest
          · exact Or.inr ⟨w, List.mem_cons_self, hw⟩
          · exact Or.inl (List.mem_singleton.mp hdelim)
          · rcases ih hrest with heq | ⟨u, hu, hd⟩
            · exact Or.inl heq
            · exact Or.inr ⟨u, List.mem_cons_of_mem w hu, hd⟩

theorem notMem_of_mem_splitOn {cs w : List Char} {sep : Char} (h : w ∈ cs.splitOn sep) : sep ∉ w :=
  fun hmem => (mem_of_mem_splitOn h hmem).2 rfl

/-- A join is its first piece and then, behind a separator each, the others. -/
theorem intercalate_cons {α : Type} (sep : α) (first : List α) (others : List (List α)) :
    [sep].intercalate (first :: others) = first ++ others.flatMap (sep :: ·) := by
  induction others generalizing first with
  | nil => rw [List.intercalate_singleton, List.flatMap_nil, List.append_nil]
  | cons second others ih =>
      rw [List.intercalate_cons_cons, ih, List.flatMap_cons, List.append_assoc, List.singleton_append,
        List.cons_append]

/-- A join is all pieces but the last, with a separator behind each, and then the last piece. -/
theorem intercalate_concat {α : Type} (sep : α) (others : List (List α)) (last : List α) :
    [sep].intercalate (others ++ [last]) = others.flatMap (· ++ [sep]) ++ last := by
  induction others with
  | nil => exact List.intercalate_singleton
  | cons first others ih =>
      rw [List.cons_append, List.intercalate_cons_of_ne_nil (List.append_ne_nil_of_right_ne_nil _
        (List.cons_ne_nil last [])), ih, List.flatMap_cons, List.append_assoc _ _ last]

/-- A join with a separator behind it has one behind each piece. -/
theorem intercalate_concat_append {α : Type} (sep : α) (others : List (List α)) (last : List α) :
    [sep].intercalate (others ++ [last]) ++ [sep] = (others ++ [last]).flatMap (· ++ [sep]) := by
  rw [intercalate_concat, List.flatMap_append, List.flatMap_singleton, List.append_assoc]

/-! ## Reading from the front -/

/-- A text up to its first separator is read back. -/
theorem append_cons_inj {α : Type} {x : α} {u v r s : List α} (hu : x ∉ u) (hv : x ∉ v)
    (h : u ++ x :: r = v ++ x :: s) : u = v ∧ r = s := by
  induction u generalizing v with
  | nil =>
      cases v with
      | nil => exact ⟨rfl, (List.cons.inj h).2⟩
      | cons c v => exact absurd (List.mem_cons.mpr (Or.inl (List.cons.inj h).1)) hv
  | cons c u ih =>
      cases v with
      | nil => exact absurd (List.mem_cons.mpr (Or.inl (List.cons.inj h).1.symm)) hu
      | cons d v =>
          obtain ⟨hhead, htail⟩ := List.cons.inj h
          obtain ⟨htext, hrest⟩ := ih (fun hmem => hu (List.mem_cons_of_mem c hmem))
            (fun hmem => hv (List.mem_cons_of_mem d hmem)) htail
          exact ⟨by rw [hhead, htext], hrest⟩

/-- **A text that can be moved along by another one repeats it.** If `s` stands before `w` and after it, then
whatever follows the first `s` begins within `w`. -/
theorem mem_of_append_eq {α : Type} {w r t : List α} {q : α} (hw : w ≠ []) (s : List α)
    (h : s ++ q :: r = w ++ (s ++ t)) : q ∈ w := by
  rcases List.append_eq_append_iff.mp h with ⟨v, hwv, hrest⟩ | ⟨v, hs, hrest⟩
  · -- The mark stands within `w`, or at its end.
    cases v with
    | nil =>
        rw [List.append_nil] at hwv
        rw [List.nil_append, ← hwv] at hrest
        cases w with
        | nil => exact absurd rfl hw
        | cons c w =>
            rw [List.cons_append] at hrest
            rw [(List.cons.inj hrest).1]
            exact List.mem_cons_self
    | cons c v =>
        rw [List.cons_append] at hrest
        rw [hwv, (List.cons.inj hrest).1]
        exact List.mem_append_right s List.mem_cons_self
  · -- The text begins with `w`: the same holds of what is left of it, which is shorter.
    have hshorter : v.length < s.length := by
      have hpos : 0 < w.length := List.length_pos_iff.mpr hw
      rw [hs, List.length_append]
      omega
    have hleft : v ++ q :: r = w ++ (v ++ t) := by
      rw [← hrest, hs, List.append_assoc]
    exact mem_of_append_eq hw v hleft
termination_by s.length

/-- A text behind copies of a character that it does not begin with. -/
theorem replicate_append_inj {α : Type} {x : α} {m n : Nat} {u v : List α} (hu : u.head? ≠ some x)
    (hv : v.head? ≠ some x) (h : List.replicate m x ++ u = List.replicate n x ++ v) : m = n ∧ u = v := by
  induction m generalizing n with
  | zero =>
      cases n with
      | zero => exact ⟨rfl, h⟩
      | succ n =>
          rw [List.replicate_zero, List.nil_append, List.replicate_succ, List.cons_append] at h
          rw [h] at hu
          exact absurd rfl hu
  | succ m ih =>
      rw [List.replicate_succ, List.cons_append] at h
      cases n with
      | zero =>
          rw [List.replicate_zero, List.nil_append] at h
          rw [← h] at hv
          exact absurd rfl hv
      | succ n =>
          rw [List.replicate_succ, List.cons_append] at h
          obtain ⟨hdepth, htext⟩ := ih (List.cons.inj h).2
          exact ⟨congrArg Nat.succ hdepth, htext⟩

/-- What follows a prefix is the rest of the text. -/
theorem isPrefixOf?_eq_some_iff {stem cs rest : List Char} :
    stem.isPrefixOf? cs = some rest ↔ cs = stem ++ rest := by
  induction stem generalizing cs with
  | nil => exact Option.some_inj
  | cons c stem ih =>
      cases cs with
      | nil => exact ⟨nofun, nofun⟩
      | cons d cs =>
          have hstep : (c :: stem).isPrefixOf? (d :: cs) = if c == d then stem.isPrefixOf? cs else none := rfl
          rw [hstep, List.cons_append, List.cons.injEq]
          by_cases hcd : c = d
          · rw [hcd, beq_self_eq_true, if_pos rfl, ih, and_iff_right rfl]
          · rw [beq_false_of_ne hcd, if_neg Bool.false_ne_true]
            exact ⟨nofun, fun h => absurd h.1.symm hcd⟩

end EntityAudit.Text
