import EntityAudit.Catalog.Entries

/-!
# `EntityAudit.Catalog.Basic` — values under names

A catalog holds at most one value under each name and lists the names in order, so a catalog is
determined by its answers.

## Contents

* `Catalog`, `Catalog.empty`, `Catalog.get?`, `Catalog.insert`, `Catalog.names`
* `Catalog.get?_insert` — what is found after an insertion
* `Catalog.ext_get?` — catalogs that answer alike are equal
-/

namespace EntityAudit

/-- Values under names, in the order of the names. -/
structure Catalog (α : Type) where
  entries : List (String × α)
  ordered : Ordered entries

namespace Catalog

variable {α : Type}

/-- No values. -/
def empty : Catalog α := ⟨[], List.Pairwise.nil⟩

/-- The value under a name. -/
def get? (c : Catalog α) (name : String) : Option α := c.entries.lookup name

/-- Puts a value under a name, instead of the one that was there. -/
def insert (c : Catalog α) (name : String) (value : α) : Catalog α :=
  ⟨insertEntry name value c.entries, ordered_insertEntry c.ordered⟩

/-- The names, in increasing order. -/
def names (c : Catalog α) : List String := c.entries.map Prod.fst

/-- The number of values. -/
def size (c : Catalog α) : Nat := c.entries.length

@[simp] theorem get?_empty (name : String) : (empty : Catalog α).get? name = none := rfl

theorem get?_insert (c : Catalog α) (name other : String) (value : α) :
    (c.insert name value).get? other = if other = name then some value else c.get? other := by
  by_cases h : other = name
  · subst h
    simp [insert, get?, lookup_insertEntry_self]
  · simp [insert, get?, lookup_insertEntry_ne h, h]

/-- Catalogs that answer every question alike are equal. -/
theorem ext_get? {c d : Catalog α} (h : ∀ name, c.get? name = d.get? name) : c = d := by
  obtain ⟨xs, hx⟩ := c
  obtain ⟨ys, hy⟩ := d
  have : xs = ys := eq_of_lookup_eq hx hy h
  subst this
  rfl

end Catalog

end EntityAudit
