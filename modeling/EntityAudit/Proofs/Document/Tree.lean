import EntityAudit.Catalog.Entries
import EntityAudit.Proofs.Document.Denotation

/-!
# `EntityAudit.Proofs.Document.Tree` — data depends on the tree of a document, not on its format

Formats differ in what else they can express, but all of them have texts, flags, integers, lists and tables.
A document that has nothing else is a tree, and the order in which it gives the entries of a table is not
part of the tree.  Data is read out of a value as it is read out of its tree: the order in which a format
visits the entries of a table decides which fault is found first, but not whether there is one.

Two things that formats do in their own ways are left aside by `Schema.suits`: lists in place of records,
where surplus items are a fault in one format and not in another, and tables in place of names.

## Contents

* `Tree`, `Tree.format` — trees, as values of a format
* `sortedEntries`, `Tree.ofEntries?` — tables out of entries in any order
* `Schema.suits`, `Fields.suit` — no list is in place of a record and no table in place of a name
* `SameEntries`, `sameEntries_sorted` — entries that are those of a table
* `Format.Tells`, `Format.Shows` — a format shows the trees of its values
* `Schema.denotes_iff_tree`, `ofFormat_iff_tree` — data is read as it is read out of the tree
-/

namespace EntityAudit

/-! ## Trees -/

/-- A document without anything that only some formats have.  The entries of a table are in the order of
their keys. -/
inductive Tree where
  | text (value : String)
  | flag (value : Bool)
  | integer (value : Int)
  | list (items : List Tree)
  | table (entries : List (String × Tree))

namespace Tree

/-- The items of a list. -/
def items : Tree → List Tree
  | list items => items
  | _ => []

/-- The entries of a table. -/
def entries : Tree → List (String × Tree)
  | table entries => entries
  | _ => []

/-- Whether a tree is a list. -/
def isList : Tree → Bool
  | list _ => true
  | _ => false

/-- Whether a tree is a table. -/
def isTable : Tree → Bool
  | table _ => true
  | _ => false

/-- What a tree is. -/
def view : Tree → View Tree
  | text value => .text value
  | flag value => .flag value
  | integer _ => .other
  | list items => .sequence items true
  | table entries => .table entries true

/-- A tree as a fault mentions it. -/
def found : Tree → Found
  | text value => .text value
  | flag value => .boolean value
  | integer value => .integer value
  | list _ => .sequence
  | table _ => .map

/-- Trees as values of a format, in which a choice is always a name. -/
def format : Format Tree where
  view := Tree.view
  unexpected t expected := .data (.invalidType t.found expected)
  choice pick t :=
    match t with
    | .text name => pick name
    | _ => .error (.data .notAChoice)
  allowsSurplus := false

theorem choice_eq_ok_iff {α : Type} {pick : String → Except DocumentFault α} {t : Tree} {a : α} :
    format.choice pick t = .ok a ↔ ∃ name, t = .text name ∧ pick name = .ok a := by
  cases t <;> simp [format]

theorem lawful_format : format.Lawful := by
  constructor
  intro α pick t a
  simp only [choice_eq_ok_iff, Except.ok.injEq]
  constructor
  · rintro ⟨name, ht, ha⟩
    exact ⟨name, ⟨name, ht, rfl⟩, ha⟩
  · rintro ⟨name, ⟨_, ht, rfl⟩, ha⟩
    exact ⟨_, ht, ha⟩

end Tree

/-! ## Entries in any order -/

section Entries

variable {α : Type}

/-- Entries in the order of their keys. -/
def sortedEntries (entries : List (String × α)) : List (String × α) :=
  entries.foldr (fun e => insertEntry e.1 e.2) []

theorem ordered_sortedEntries (entries : List (String × α)) : Ordered (sortedEntries entries) := by
  induction entries with
  | nil => exact List.Pairwise.nil
  | cons e rest ih => exact ordered_insertEntry ih

/-- Keys in increasing order are not repeated. -/
theorem nodup_keys_of_ordered {entries : List (String × α)} (h : Ordered entries) :
    (entries.map Prod.fst).Nodup := by
  unfold List.Nodup
  rw [List.pairwise_map]
  apply h.imp
  intro a b hlt heq
  exact String.lt_irrefl b.1 (heq ▸ hlt)

/-- Under a new key, what is inserted joins what is there. -/
theorem mem_insertEntry_iff {key : String} {value : α} {entries : List (String × α)} {e : String × α}
    (h : key ∉ entries.map Prod.fst) : e ∈ insertEntry key value entries ↔ e = (key, value) ∨ e ∈ entries := by
  induction entries with
  | nil => simp [insertEntry]
  | cons d rest ih =>
      obtain ⟨k, v⟩ := d
      rw [List.map_cons, List.mem_cons, not_or] at h
      rw [insertEntry, if_neg h.1]
      split
      · exact List.mem_cons
      · rw [List.mem_cons, ih h.2, List.mem_cons]
        exact or_left_comm

/-- **Sorting neither adds nor loses an entry**, if no key is repeated. -/
theorem mem_sortedEntries {entries : List (String × α)} (h : (entries.map Prod.fst).Nodup)
    {e : String × α} : e ∈ sortedEntries entries ↔ e ∈ entries := by
  induction entries generalizing e with
  | nil => exact Iff.rfl
  | cons d rest ih =>
      obtain ⟨hd, hrest⟩ := List.nodup_cons.mp h
      -- The entries behind are the same before and after sorting, and so are their keys.
      have hnew : d.1 ∉ (sortedEntries rest).map Prod.fst := by
        intro hmem
        obtain ⟨e, he, heq⟩ := List.mem_map.mp hmem
        exact hd (heq ▸ List.mem_map_of_mem ((ih hrest).mp he))
      show e ∈ insertEntry d.1 d.2 (sortedEntries rest) ↔ e ∈ d :: rest
      rw [mem_insertEntry_iff hnew, ih hrest, List.mem_cons]

end Entries

/-- The table of entries in any order, unless a key is repeated. -/
def Tree.ofEntries? (entries : List (String × Tree)) : Option Tree :=
  if (entries.map Prod.fst).Nodup then some (.table (sortedEntries entries)) else none

theorem Tree.ofEntries?_eq_some_iff {entries : List (String × Tree)} {t : Tree} :
    ofEntries? entries = some t ↔ (entries.map Prod.fst).Nodup ∧ t = .table (sortedEntries entries) := by
  unfold ofEntries?
  split <;> simp_all [eq_comm]

/-! ## Trees of parts -/

section Parts

variable {α β : Type}

/-- A part in front of other parts, if there are all of them. -/
def consPart? (part : Option β) (others : Option (List β)) : Option (List β) :=
  match part, others with
  | some b, some bs => some (b :: bs)
  | _, _ => none

/-- Parts that are found one by one belong to what they are found for, one by one. -/
theorem forall₂_of_parts {p : α → Option β} {q : List α → Option (List β)}
    (hnil : q [] = some [])
    (hcons : ∀ a as, q (a :: as) = consPart? (p a) (q as)) {as : List α} {bs : List β}
    (h : q as = some bs) : List.Forall₂ (fun a b => p a = some b) as bs := by
  induction as generalizing bs with
  | nil =>
      rw [hnil] at h
      cases h
      exact .nil
  | cons a as ih =>
      rw [hcons] at h
      cases hb : p a with
      | none =>
          rw [hb] at h
          cases h
      | some b =>
          cases hothers : q as with
          | none =>
              rw [hb, hothers] at h
              cases h
          | some others =>
              rw [hb, hothers] at h
              cases h
              exact .cons hb (ih hothers)

end Parts

/-! ## Trees for a schema -/

mutual

/-- Whether no list is in place of a record and no table in place of a name. -/
def Schema.suits {α : Type} : Schema α → Tree → Bool
  | .choice _ _ _ _, t => !t.isTable
  | .list item, t => t.items.all (fun t => item.suits t)
  | .record _ fields, t => !t.isList && fields.suit t.entries
  | .via shape _ _ _, t => shape.suits t
  | _, _ => true

/-- Whether that holds of the entries under the keys of all fields. -/
def Fields.suit {α σ : Type} : Fields α σ → List (String × Tree) → Bool
  | .nil, _ => true
  | .cons key shape _ rest, entries =>
    entries.all (fun e => e.1 != key || shape.suits e.2) && rest.suit entries

end

/-! ## Values and their trees -/

section Related

variable {α β : Type} {R : α → β → Prop} {xs : List α} {ys : List β}

theorem exists_right_of_mem (h : List.Forall₂ R xs ys) {x : α} (hx : x ∈ xs) : ∃ y ∈ ys, R x y := by
  induction h with
  | nil => exact absurd hx List.not_mem_nil
  | @cons a b as bs hab _ ih =>
      rcases List.mem_cons.mp hx with rfl | hrest
      · exact ⟨b, List.mem_cons_self, hab⟩
      · obtain ⟨y, hy, hxy⟩ := ih hrest
        exact ⟨y, List.mem_cons_of_mem b hy, hxy⟩

theorem exists_left_of_mem (h : List.Forall₂ R xs ys) {y : β} (hy : y ∈ ys) : ∃ x ∈ xs, R x y :=
  exists_right_of_mem (R := flip R) h.flip hy

end Related

variable {ν : Type}

/-- The entries of two tables are the same, given which values have which trees. -/
structure SameEntries (R : ν → Tree → Prop) (members : List (String × ν))
    (entries : List (String × Tree)) : Prop where
  members_nodup : (members.map Prod.fst).Nodup
  entries_nodup : (entries.map Prod.fst).Nodup
  entry_of_member : ∀ {key v}, (key, v) ∈ members → ∃ t, (key, t) ∈ entries ∧ R v t
  member_of_entry : ∀ {key t}, (key, t) ∈ entries → ∃ v, (key, v) ∈ members ∧ R v t

/-- **The order of the entries of a table does not matter.** -/
theorem sameEntries_sorted {R : ν → Tree → Prop} {members : List (String × ν)}
    {entries : List (String × Tree)} (hnodup : (entries.map Prod.fst).Nodup)
    (h : List.Forall₂ (fun m e => m.1 = e.1 ∧ R m.2 e.2) members entries) :
    SameEntries R members (sortedEntries entries) := by
  have hkeys : members.map Prod.fst = entries.map Prod.fst := by
    rw [← List.forall₂_eq_eq_eq, List.forall₂_map_left_iff, List.forall₂_map_right_iff]
    exact h.imp fun _ _ hsame => hsame.1
  refine ⟨hkeys ▸ hnodup, nodup_keys_of_ordered (ordered_sortedEntries entries), ?_, ?_⟩
  · intro key v hmem
    obtain ⟨⟨k, t⟩, he, rfl, hv⟩ := exists_right_of_mem h hmem
    exact ⟨t, (mem_sortedEntries hnodup).mpr he, hv⟩
  · intro key t hmem
    obtain ⟨⟨k, v⟩, hm, rfl, hv⟩ := exists_left_of_mem h ((mem_sortedEntries hnodup).mp hmem)
    exact ⟨v, hm, hv⟩

theorem SameEntries.mem_keys_iff {R : ν → Tree → Prop} {members : List (String × ν)}
    {entries : List (String × Tree)} (h : SameEntries R members entries) {key : String} :
    key ∈ members.map Prod.fst ↔ key ∈ entries.map Prod.fst := by
  simp only [List.mem_map, Prod.exists, exists_and_right, exists_eq_right]
  constructor
  · rintro ⟨v, hv⟩
    obtain ⟨t, ht, -⟩ := h.entry_of_member hv
    exact ⟨t, ht⟩
  · rintro ⟨t, ht⟩
    obtain ⟨v, hv, -⟩ := h.member_of_entry ht
    exact ⟨v, hv⟩

/-- What a format says of a value is told by the tree of the value. -/
def Format.Tells (f : Format ν) (R : ν → Tree → Prop) (v : ν) : Tree → Prop
  | .text s => f.view v = .text s
  | .flag b => f.view v = .flag b
  | .integer _ => f.view v = .other
  | .list ts => ∃ items, f.view v = .sequence items true ∧ List.Forall₂ R items ts
  | .table es => ∃ members, f.view v = .table members true ∧ SameEntries R members es

/-- A format shows the trees of its values: a value is what its tree is, and apart from tables, only texts
choose names. -/
structure Format.Shows (f : Format ν) (R : ν → Tree → Prop) : Prop where
  tells : ∀ {v t}, R v t → f.Tells R v t
  choice_iff : ∀ {v name}, (∀ members isWhole, f.view v ≠ .table members isWhole) →
    (f.choice .ok v = .ok name ↔ f.view v = .text name)

variable {f : Format ν} {R : ν → Tree → Prop}

namespace Format.Shows

theorem text (hf : f.Shows R) {v : ν} {s : String} (h : R v (.text s)) : f.view v = .text s := hf.tells h

theorem flag (hf : f.Shows R) {v : ν} {b : Bool} (h : R v (.flag b)) : f.view v = .flag b := hf.tells h

theorem integer (hf : f.Shows R) {v : ν} {n : Int} (h : R v (.integer n)) : f.view v = .other := hf.tells h

theorem list (hf : f.Shows R) {v : ν} {ts : List Tree} (h : R v (.list ts)) :
    ∃ items, f.view v = .sequence items true ∧ List.Forall₂ R items ts := hf.tells h

theorem table (hf : f.Shows R) {v : ν} {es : List (String × Tree)} (h : R v (.table es)) :
    ∃ members, f.view v = .table members true ∧ SameEntries R members es := hf.tells h

/-- A value is a text, a flag or nothing at all exactly if its tree is. -/
theorem view_iff (hf : f.Shows R) {v : ν} {t : Tree} (ht : R v t) :
    (∀ s, f.view v = .text s ↔ t.view = .text s) ∧ (∀ b, f.view v = .flag b ↔ t.view = .flag b)
      ∧ (f.view v = .null ↔ t.view = .null) := by
  cases t with
  | text s => simp [hf.text ht, Tree.view]
  | flag b => simp [hf.flag ht, Tree.view]
  | integer n => simp [hf.integer ht, Tree.view]
  | list ts =>
      obtain ⟨items, hview, -⟩ := hf.list ht
      simp [hview, Tree.view]
  | table es =>
      obtain ⟨members, hview, -⟩ := hf.table ht
      simp [hview, Tree.view]

/-- A value whose tree is no table chooses a name exactly if its tree is the text. -/
theorem choice_iff_tree (hf : f.Shows R) {v : ν} {t : Tree} (ht : R v t) (htable : t.isTable = false)
    {name : String} : f.choice .ok v = .ok name ↔ t = .text name := by
  have hview : t.view = .text name ↔ t = .text name := by
    cases t <;> simp [Tree.view]
  rw [hf.choice_iff, (hf.view_iff ht).1, hview]
  intro members isWhole h
  cases t with
  | text s => simp [hf.text ht] at h
  | flag b => simp [hf.flag ht] at h
  | integer n => simp [hf.integer ht] at h
  | list ts =>
      obtain ⟨items, hitems, -⟩ := hf.list ht
      simp [hitems] at h
  | table es => cases htable

end Format.Shows

/-! ## Data -/

/-- Lists of values stand for the same data as the trees of the values, if the values do. -/
theorem forall₂_iff_tree {α : Type} {P : ν → α → Prop} {Q : Tree → α → Prop} {items : List ν}
    {ts : List Tree} (h : List.Forall₂ R items ts) (hiff : ∀ {v t}, t ∈ ts → R v t → ∀ a, P v a ↔ Q t a)
    (as : List α) : List.Forall₂ P items as ↔ List.Forall₂ Q ts as := by
  induction h generalizing as with
  | nil => rw [List.forall₂_nil_left_iff, List.forall₂_nil_left_iff]
  | @cons v t items ts hvt _ ih =>
      rw [List.forall₂_cons_left_iff, List.forall₂_cons_left_iff]
      have hrest : ∀ as, List.Forall₂ P items as ↔ List.Forall₂ Q ts as :=
        ih fun ht => hiff (List.mem_cons_of_mem t ht)
      simp only [hrest, hiff List.mem_cons_self hvt]

/-- A list stands for what its tree stands for, if its items do. -/
theorem denotes_list_iff_tree (hf : f.Shows R) {α : Type} {item : Schema α} {v : ν} {t : Tree}
    (ht : R v t) (as : List α)
    (h : ∀ {w u}, u ∈ t.items → R w u → ∀ a, item.Denotes f w a ↔ item.Denotes Tree.format u a) :
    (Schema.list item).Denotes f v as ↔ (Schema.list item).Denotes Tree.format t as := by
  rw [Schema.Denotes, Schema.Denotes]
  cases t with
  | list ts =>
      obtain ⟨items, hview, hitems⟩ := hf.list ht
      have hall := forall₂_iff_tree hitems h as
      simp [hview, Tree.format, Tree.view, hall]
  | table es =>
      obtain ⟨members, hview, -⟩ := hf.table ht
      simp [hview, Tree.format, Tree.view]
  | text s => simp [hf.text ht, Tree.format, Tree.view]
  | flag b => simp [hf.flag ht, Tree.format, Tree.view]
  | integer n => simp [hf.integer ht, Tree.format, Tree.view]

/-- A field stands under its key in both tables, or in none of them. -/
theorem field_iff_tree {α : Type} {shape : Schema α} {presence : Presence α} {key : String}
    {members : List (String × ν)} {entries : List (String × Tree)} (h : SameEntries R members entries)
    (hiff : ∀ {v t}, (key, t) ∈ entries → R v t → ∀ a, shape.Denotes f v a ↔ shape.Denotes Tree.format t a)
    (a : α) :
    ((∃ v, (key, v) ∈ members ∧ shape.Denotes f v a)
        ∨ key ∉ members.map Prod.fst ∧ presence.fallback = some a)
      ↔ ((∃ t, (key, t) ∈ entries ∧ shape.Denotes Tree.format t a)
        ∨ key ∉ entries.map Prod.fst ∧ presence.fallback = some a) := by
  rw [h.mem_keys_iff]
  apply or_congr_left
  constructor
  · rintro ⟨v, hv, ha⟩
    obtain ⟨t, ht, hvt⟩ := h.entry_of_member hv
    exact ⟨t, ht, (hiff ht hvt a).mp ha⟩
  · rintro ⟨t, ht, ha⟩
    obtain ⟨v, hv, hvt⟩ := h.member_of_entry ht
    exact ⟨v, hv, (hiff ht hvt a).mpr ha⟩

/-- A table is a record exactly if it has no repeated key and no unknown one, and each field stands under its
key. -/
theorem denotes_record_of_table {μ : Type} {g : Format μ} {α σ : Type} {name : String}
    {fields : Fields α σ} {v : μ} {members : List (String × μ)} (hview : g.view v = .table members true)
    (a : α) :
    (Schema.record name fields).Denotes g v a ↔ (members.map Prod.fst).Nodup
      ∧ (∀ key ∈ members.map Prod.fst, key ∈ fields.keys) ∧ fields.Under g members a := by
  rw [Schema.Denotes, hview]
  constructor
  · rintro (⟨ms, heq, hrecord⟩ | ⟨items, heq, -⟩)
    · cases heq
      exact hrecord
    · cases heq
  · exact fun hrecord => Or.inl ⟨members, rfl, hrecord⟩

/-- A record stands for what its tree stands for, if its fields do and the tree is not a list. -/
theorem denotes_record_iff_tree (hf : f.Shows R) {α σ : Type} {name : String} {fields : Fields α σ}
    {v : ν} {t : Tree} (ht : R v t) (hlist : t.isList = false) (a : α)
    (h : ∀ {members}, SameEntries R members t.entries →
      (fields.Under f members a ↔ fields.Under Tree.format t.entries a)) :
    (Schema.record name fields).Denotes f v a ↔ (Schema.record name fields).Denotes Tree.format t a := by
  cases t with
  | list ts => cases hlist
  | table es =>
      obtain ⟨members, hview, hsame⟩ := hf.table ht
      have htree : Tree.format.view (.table es) = .table es true := rfl
      -- Whether a key is repeated or unknown is a matter of the keys alone.
      have hknown : (∀ key ∈ members.map Prod.fst, key ∈ fields.keys)
          ↔ ∀ key ∈ es.map Prod.fst, key ∈ fields.keys :=
        forall_congr' fun key => imp_congr_left hsame.mem_keys_iff
      rw [denotes_record_of_table hview, denotes_record_of_table htree, hknown]
      simp only [hsame.members_nodup, hsame.entries_nodup, true_and]
      exact and_congr_right' (h hsame)
  | text s => simp [Schema.Denotes, hf.text ht, Tree.format, Tree.view]
  | flag b => simp [Schema.Denotes, hf.flag ht, Tree.format, Tree.view]
  | integer n => simp [Schema.Denotes, hf.integer ht, Tree.format, Tree.view]

mutual

/-- **Data is read out of a value as it is read out of its tree**, if no list is in place of a record and no
table in place of a name. -/
theorem Schema.denotes_iff_tree (hf : f.Shows R) {α : Type} : (schema : Schema α) → {v : ν} → {t : Tree} →
    R v t → schema.suits t = true → (a : α) → (schema.Denotes f v a ↔ schema.Denotes Tree.format t a)
  | .text, _, _, ht, _, s => (hf.view_iff ht).1 s
  | .flag, _, _, ht, _, b => (hf.view_iff ht).2.1 b
  | .path, v, t, ht, _, p => by
      obtain ⟨htext, -, hnull⟩ := hf.view_iff ht
      simp only [Schema.Denotes, htext, hnull, Tree.format]
  | .choice _ nameOf _ _, v, t, ht, h, a => by
      rw [Schema.suits, Bool.not_eq_true'] at h
      rw [Schema.Denotes, Schema.Denotes, hf.choice_iff_tree ht h, Tree.choice_eq_ok_iff]
      simp
  | .list item, v, t, ht, h, as => by
      rw [Schema.suits, List.all_eq_true] at h
      exact denotes_list_iff_tree hf ht as fun hmem ht => Schema.denotes_iff_tree hf item ht (h _ hmem)
  | .record name fields, v, t, ht, h, a => by
      rw [Schema.suits, Bool.and_eq_true, Bool.not_eq_true'] at h
      exact denotes_record_iff_tree hf ht h.1 a fun hsame => Fields.under_iff_tree hf fields hsame h.2 a
  | .via shape into _ _, v, t, ht, h, b => by
      rw [Schema.Denotes, Schema.Denotes]
      exact exists_congr fun a => and_congr_left' (Schema.denotes_iff_tree hf shape ht h a)

/-- The fields of a record stand under their keys in both tables. -/
theorem Fields.under_iff_tree (hf : f.Shows R) {α σ : Type} : (fields : Fields α σ) →
    {members : List (String × ν)} → {entries : List (String × Tree)} → SameEntries R members entries →
    fields.suit entries = true → (a : α) → (fields.Under f members a ↔ fields.Under Tree.format entries a)
  | .nil, _, _, _, _, _ => Iff.rfl
  | .cons key shape presence rest, members, entries, hsame, h, (a, b) => by
      rw [Fields.suit, Bool.and_eq_true, List.all_eq_true] at h
      rw [Fields.Under, Fields.Under]
      apply and_congr
      · apply field_iff_tree hsame
        intro v t hmem ht
        have hshape : shape.suits t = true := by simpa using h.1 _ hmem
        exact Schema.denotes_iff_tree hf shape ht hshape
      · exact Fields.under_iff_tree hf rest hsame h.2 b

end

/-- **Reading finds in a value what it finds in its tree.** -/
theorem ofFormat_iff_tree (hf : f.Shows R) (hlawful : f.Lawful) {α : Type} {schema : Schema α}
    (hkeyed : schema.isKeyed = true) {v : ν} {t : Tree} (ht : R v t) (hsuits : schema.suits t = true)
    (a : α) : schema.ofFormat f v = .ok a ↔ schema.ofFormat Tree.format t = .ok a := by
  rw [Schema.exact hlawful schema hkeyed v a, Schema.exact Tree.lawful_format schema hkeyed t a]
  exact Schema.denotes_iff_tree hf schema ht hsuits a

end EntityAudit
