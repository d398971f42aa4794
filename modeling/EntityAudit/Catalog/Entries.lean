/-!
# `EntityAudit.Catalog.Entries` — lists of entries in the order of their keys

A list of keyed entries in strictly increasing order of keys.  Insertion replaces an entry with the same
key and keeps the order.

## Contents

* `insertEntry` — insertion
* `lookup_insertEntry_self`, `lookup_insertEntry_ne` — what is found afterwards, in any list
* `Ordered`, `ordered_insertEntry` — the order
* `eq_of_lookup_eq` — ordered lists that answer alike are equal
-/

namespace EntityAudit

variable {α : Type}

/-! ## Insertion -/

/-- Puts an entry in its place, instead of one with the same key. -/
def insertEntry (key : String) (value : α) : List (String × α) → List (String × α)
  | [] => [(key, value)]
  | (k, v) :: rest =>
    if key < k then (key, value) :: (k, v) :: rest
    else if key = k then (key, value) :: rest
    else (k, v) :: insertEntry key value rest

theorem lookup_insertEntry_self (key : String) (value : α) (entries : List (String × α)) :
    (insertEntry key value entries).lookup key = some value := by
  induction entries with
  | nil => simp [insertEntry]
  | cons e rest ih =>
    obtain ⟨k, v⟩ := e
    rw [insertEntry]
    split
    · simp
    · split
      · simp
      · rename_i hne
        have hb : (key == k) = false := by simp [hne]
        simp [List.lookup_cons, hb, ih]

theorem lookup_insertEntry_ne {key other : String} (h : other ≠ key) (value : α)
    (entries : List (String × α)) :
    (insertEntry key value entries).lookup other = entries.lookup other := by
  have hb : (other == key) = false := by simp [h]
  induction entries with
  | nil => simp [insertEntry, List.lookup_cons, hb]
  | cons e rest ih =>
    obtain ⟨k, v⟩ := e
    rw [insertEntry]
    split
    · simp [List.lookup_cons, hb]
    · split
      · rename_i heq
        subst heq
        simp [List.lookup_cons, hb]
      · simp [List.lookup_cons, ih]

/-! ## Order -/

/-- The keys increase strictly. -/
def Ordered (entries : List (String × α)) : Prop := entries.Pairwise (fun a b => a.1 < b.1)

theorem mem_insertEntry {key : String} {value : α} {entries : List (String × α)}
    {e : String × α} (h : e ∈ insertEntry key value entries) : e = (key, value) ∨ e ∈ entries := by
  induction entries with
  | nil => simpa [insertEntry] using h
  | cons d rest ih =>
    obtain ⟨k, v⟩ := d
    rw [insertEntry] at h
    split at h
    · simpa using h
    · split at h
      · rcases List.mem_cons.mp h with rfl | hr
        · exact .inl rfl
        · exact .inr (List.mem_cons_of_mem _ hr)
      · rcases List.mem_cons.mp h with rfl | hr
        · exact .inr List.mem_cons_self
        · exact (ih hr).imp id (List.mem_cons_of_mem _)

theorem lt_of_not_lt_of_ne {a b : String} (h : ¬ a < b) (hne : a ≠ b) : b < a :=
  Decidable.byContradiction fun hba => hne (String.le_antisymm hba h)

theorem ordered_insertEntry {key : String} {value : α} {entries : List (String × α)}
    (h : Ordered entries) : Ordered (insertEntry key value entries) := by
  induction entries with
  | nil => exact List.pairwise_singleton _ _
  | cons d rest ih =>
    obtain ⟨k, v⟩ := d
    obtain ⟨hhead, htail⟩ := List.pairwise_cons.mp h
    rw [insertEntry]
    split
    · rename_i hlt
      refine List.pairwise_cons.mpr ⟨fun e he => ?_, h⟩
      rcases List.mem_cons.mp he with rfl | hr
      · exact hlt
      · exact String.lt_trans hlt (hhead e hr)
    · split
      · rename_i heq
        subst heq
        exact List.pairwise_cons.mpr ⟨hhead, htail⟩
      · rename_i hnlt hne
        refine List.pairwise_cons.mpr ⟨fun e he => ?_, ih htail⟩
        rcases mem_insertEntry he with rfl | hr
        · exact lt_of_not_lt_of_ne hnlt hne
        · exact hhead e hr

/-! ## Equality -/

theorem lookup_eq_none_of_lt {key : String} {entries : List (String × α)}
    (h : ∀ e ∈ entries, key < e.1) : entries.lookup key = none := by
  induction entries with
  | nil => rfl
  | cons d rest ih =>
    obtain ⟨k, v⟩ := d
    have hk : key < k := h _ List.mem_cons_self
    have hb : (key == k) = false := by
      simpa using fun heq : key = k => String.lt_irrefl k (heq ▸ hk)
    simp [List.lookup_cons, hb, ih fun e he => h e (List.mem_cons_of_mem _ he)]

/-- Ordered lists that answer every question alike are equal. -/
theorem eq_of_lookup_eq {xs ys : List (String × α)} (hx : Ordered xs) (hy : Ordered ys)
    (h : ∀ key, xs.lookup key = ys.lookup key) : xs = ys := by
  induction xs generalizing ys with
  | nil =>
    cases ys with
    | nil => rfl
    | cons d rest =>
      obtain ⟨l, w⟩ := d
      exact absurd (h l) (by simp)
  | cons c xs ih =>
    obtain ⟨k, v⟩ := c
    obtain ⟨hxh, hxt⟩ := List.pairwise_cons.mp hx
    cases ys with
    | nil => exact absurd (h k) (by simp)
    | cons d ys =>
      obtain ⟨l, w⟩ := d
      obtain ⟨hyh, hyt⟩ := List.pairwise_cons.mp hy
      have hkl : k = l := by
        refine Decidable.byContradiction fun hne => ?_
        by_cases hlt : k < l
        · have : ((l, w) :: ys).lookup k = none := lookup_eq_none_of_lt fun e he => by
            rcases List.mem_cons.mp he with rfl | hr
            · exact hlt
            · exact String.lt_trans hlt (hyh e hr)
          exact absurd (h k) (by simp [this])
        · have hgt : l < k := lt_of_not_lt_of_ne hlt hne
          have : ((k, v) :: xs).lookup l = none := lookup_eq_none_of_lt fun e he => by
            rcases List.mem_cons.mp he with rfl | hr
            · exact hgt
            · exact String.lt_trans hgt (hxh e hr)
          exact absurd (h l) (by simp [this])
      subst hkl
      have hvw : v = w := by simpa [List.lookup_cons] using h k
      subst hvw
      have htail : xs = ys := ih hxt hyt fun key => by
        by_cases hk : key = k
        · subst hk
          rw [lookup_eq_none_of_lt fun e he => hxh e he, lookup_eq_none_of_lt fun e he => hyh e he]
        · have hb : (key == k) = false := by simp [hk]
          simpa [List.lookup_cons, hb] using h key
      rw [htail]

end EntityAudit
