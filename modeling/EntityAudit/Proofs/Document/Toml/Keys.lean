import EntityAudit.Document.Toml.Grammar

/-!
# `EntityAudit.Proofs.Document.Toml.Keys` — no table of a TOML text has a key twice

The tables of a text grow statement by statement, and each statement changes them at the end of a path.  A
change puts an entry in its place or leaves the text without a meaning, so the entries of every table stay in
the order of their keys.  That holds of tables under headers, of those that a key leads through, and of inline
tables, which are made in the same way.

## Contents

* `Value.IsOrdered`, `Node.IsOrdered`, `AreOrdered` — the entries of all tables are in order
* `AreOrdered.changeAt?`, `AreOrdered.addTable?` to `AreOrdered.addBelow?` — changes keep the order
* `Node.IsOrdered.toValue`, `isOrdered_of_inlineTable?` — finished tables
* `isOrdered_of_scanScalar?`, `isOrdered_of_scanValue?` — values in a text
* `Document.IsOrdered.add?`, `isOrdered_of_parse?` — whole texts
-/

namespace EntityAudit.Toml

/-! ## Order -/

/-- Every table in the value has its entries in the order of their keys. -/
inductive Value.IsOrdered : Value → Prop where
  | text (s : String) : IsOrdered (.text s)
  | integer (n : Option Int) : IsOrdered (.integer n)
  | real (x : Option Binary64) : IsOrdered (.real x)
  | boolean (b : Bool) : IsOrdered (.boolean b)
  | moment : IsOrdered .moment
  | array {items : List Value} (hitems : ∀ v ∈ items, IsOrdered v) : IsOrdered (.array items)
  | table {entries : List (String × Value)} (hkeys : Ordered entries)
      (hvalues : ∀ e ∈ entries, IsOrdered e.2) : IsOrdered (.table entries)

mutual

/-- Every table in the node has its entries in the order of their keys. -/
inductive Node.IsOrdered : Node → Prop where
  | value {v : Value} (hvalue : v.IsOrdered) : Node.IsOrdered (.value v)
  | table {origin : Origin} {entries : Entries} (hentries : AreOrdered entries) :
      Node.IsOrdered (.table origin entries)
  | tables {items : List Entries} (hitems : ∀ entries ∈ items, AreOrdered entries) :
      Node.IsOrdered (.tables items)

/-- The entries are in the order of their keys, and so are those of every table below them. -/
inductive AreOrdered : Entries → Prop where
  | intro {entries : Entries} (hkeys : Ordered entries) (hnodes : ∀ e ∈ entries, Node.IsOrdered e.2) :
      AreOrdered entries

end

theorem AreOrdered.nil : AreOrdered [] := ⟨List.Pairwise.nil, nofun⟩

/-! ## Changes -/

section Changes

variable {entries entries' : Entries} {k : Key} {v : Value}

theorem AreOrdered.insert (h : AreOrdered entries) {node : Node} (hnode : node.IsOrdered) (key : String) :
    AreOrdered (insertEntry key node entries) := by
  obtain ⟨hkeys, hnodes⟩ := h
  refine ⟨ordered_insertEntry hkeys, fun e he => ?_⟩
  rcases mem_insertEntry he with rfl | hmem
  · exact hnode
  · exact hnodes e hmem

theorem AreOrdered.lookup (h : AreOrdered entries) {key : String} {node : Node}
    (hlookup : entries.lookup key = some node) : node.IsOrdered := by
  obtain ⟨hkeys, hnodes⟩ := h
  obtain ⟨before, after, rfl, -⟩ := List.lookup_eq_some_iff.mp hlookup
  exact hnodes (key, node) (List.mem_append_right before List.mem_cons_self)

/-- **A change at the end of a path keeps the order** if it does so there. -/
theorem AreOrdered.changeAt? {fresh : Origin} {change : Origin → Entries → Option Entries}
    (hchange : ∀ {origin inner inner'}, AreOrdered inner → change origin inner = some inner' →
      AreOrdered inner')
    {path : List String} {origin : Origin} (h : AreOrdered entries)
    (hchanged : changeAt? fresh change path origin entries = some entries') : AreOrdered entries' := by
  induction path generalizing origin entries entries' with
  | nil => exact hchange h hchanged
  | cons key rest ih =>
      rw [Toml.changeAt?] at hchanged
      split at hchanged
      · -- The table is missing.
        obtain ⟨inner, hinner, rfl⟩ := Option.map_eq_some_iff.mp hchanged
        exact h.insert (.table (ih .nil hinner)) key
      · rename_i before hlookup
        split at hchanged
        · cases hchanged
        · obtain ⟨inner, hinner, rfl⟩ := Option.map_eq_some_iff.mp hchanged
          cases h.lookup hlookup with
          | table hbefore => exact h.insert (.table (ih hbefore hinner)) key
      · -- The path goes on in the latest table of an array.
        rename_i latest others hlookup
        obtain ⟨inner, hinner, rfl⟩ := Option.map_eq_some_iff.mp hchanged
        cases h.lookup hlookup with
        | tables hitems =>
            obtain ⟨hlatest, hothers⟩ := List.forall_mem_cons.mp hitems
            exact h.insert (.tables (List.forall_mem_cons.mpr ⟨ih hlatest hinner, hothers⟩)) key
      · cases hchanged

theorem AreOrdered.addTable? (h : AreOrdered entries) (hadd : addTable? k entries = some entries') :
    AreOrdered entries' := by
  refine AreOrdered.changeAt? (fun {_ inner _} hinner hchange => ?_) h hadd
  split at hchange
  · cases hchange
    exact hinner.insert (.table .nil) k.name
  · rename_i hlookup
    cases hchange
    cases hinner.lookup hlookup with
    | table hbefore => exact hinner.insert (.table hbefore) k.name
  · cases hchange

theorem AreOrdered.addItem? (h : AreOrdered entries) (hadd : addItem? k entries = some entries') :
    AreOrdered entries' := by
  refine AreOrdered.changeAt? (fun {_ inner _} hinner hchange => ?_) h hadd
  split at hchange
  · cases hchange
    exact hinner.insert (.tables (List.forall_mem_singleton.mpr .nil)) k.name
  · rename_i hlookup
    cases hchange
    cases hinner.lookup hlookup with
    | tables hitems =>
        exact hinner.insert (.tables (List.forall_mem_cons.mpr ⟨.nil, hitems⟩)) k.name
  · cases hchange

theorem AreOrdered.addValue? (h : AreOrdered entries) (hv : v.IsOrdered) {origin : Origin}
    (hadd : addValue? k v origin entries = some entries') : AreOrdered entries' := by
  refine AreOrdered.changeAt? (fun {_ inner _} hinner hchange => ?_) h hadd
  split at hchange
  · cases hchange
  · split at hchange
    · cases hchange
      exact hinner.insert (.value hv) k.name
    · cases hchange

theorem AreOrdered.addBelow? (h : AreOrdered entries) (hv : v.IsOrdered) {header : List String}
    (hadd : addBelow? header k v entries = some entries') : AreOrdered entries' :=
  AreOrdered.changeAt? (fun hinner hchange => hinner.addValue? hv hchange) h hadd

end Changes

/-! ## Finished tables -/

theorem entryValues_eq_map (entries : Entries) :
    entryValues entries = entries.map (fun e => (e.1, e.2.toValue)) := by
  induction entries with
  | nil => rw [entryValues, List.map_nil]
  | cons e rest ih => rw [entryValues, List.map_cons, ih]

theorem itemValues_eq_map (items : List Entries) :
    itemValues items = items.map (fun entries => .table (entryValues entries)) := by
  induction items with
  | nil => rw [itemValues, List.map_nil]
  | cons entries rest ih => rw [itemValues, List.map_cons, ih]

/-- A finished table has the keys that it had before. -/
theorem ordered_entryValues {entries : Entries} (h : Ordered entries) : Ordered (entryValues entries) := by
  rw [entryValues_eq_map]
  exact List.pairwise_map.mpr h

mutual

/-- **A finished node is in order.** -/
theorem Node.IsOrdered.toValue : {node : Node} → node.IsOrdered → node.toValue.IsOrdered
  | .value _, .value hvalue => by
      rw [Node.toValue]
      exact hvalue
  | .table _ entries, .table hentries => by
      rw [Node.toValue]
      exact hentries.toValue
  | .tables items, .tables hitems => by
      rw [Node.toValue, itemValues_eq_map]
      refine .array fun v hv => ?_
      obtain ⟨entries, hmem, rfl⟩ := List.mem_map.mp (List.mem_reverse.mp hv)
      exact (hitems entries hmem).toValue

theorem AreOrdered.toValue {entries : Entries} : AreOrdered entries → (Value.table (entryValues entries)).IsOrdered
  | .intro hkeys hnodes => by
      refine .table (ordered_entryValues hkeys) fun e he => ?_
      rw [entryValues_eq_map] at he
      obtain ⟨d, hmem, rfl⟩ := List.mem_map.mp he
      exact (hnodes d hmem).toValue

end

/-- The entries of a table between braces are added one by one. -/
theorem AreOrdered.foldlM_addValue? {fields : List (Key × Value)} (hfields : ∀ f ∈ fields, f.2.IsOrdered)
    {entries entries' : Entries} (h : AreOrdered entries)
    (hadd : fields.foldlM (fun es (k, v) => Toml.addValue? k v .header es) entries = some entries') :
    AreOrdered entries' := by
  induction fields generalizing entries with
  | nil =>
      cases hadd
      exact h
  | cons f fields ih =>
      obtain ⟨hf, hfields⟩ := List.forall_mem_cons.mp hfields
      rw [List.foldlM_cons] at hadd
      obtain ⟨next, hnext, hrest⟩ := Option.bind_eq_some_iff.mp hadd
      exact ih hfields (h.addValue? hf hnext) hrest

theorem isOrdered_of_inlineTable? {fields : List (Key × Value)} (hfields : ∀ f ∈ fields, f.2.IsOrdered)
    {v : Value} (h : inlineTable? fields = some v) : v.IsOrdered := by
  obtain ⟨entries, hentries, rfl⟩ := Option.map_eq_some_iff.mp h
  exact (AreOrdered.foldlM_addValue? hfields .nil hentries).toValue

/-! ## Values in a text -/

section Scanned

variable {cs rest : List Char} {v : Value} {limit : Nat}

theorem isOrdered_of_integerIn? {base : Nat} (h : integerIn? base cs = some v) : v.IsOrdered := by
  unfold integerIn? at h
  split at h
  · obtain ⟨digits, -, rfl⟩ := Option.map_eq_some_iff.mp h
    exact .integer _
  · cases h

theorem isOrdered_of_decimalInteger? {unsigned : List Char} (h : decimalInteger? cs unsigned = some v) :
    v.IsOrdered := by
  unfold decimalInteger? at h
  split at h
  · cases h
  · obtain ⟨digits, -, rfl⟩ := Option.map_eq_some_iff.mp h
    exact .integer _

theorem isOrdered_of_real? {isNegative : Bool} {unsigned : List Char}
    (h : real? cs isNegative unsigned = some v) : v.IsOrdered := by
  unfold real? at h
  split at h
  · cases h
  · split at h
    · cases h
    · split at h
      · obtain ⟨digits, -, rfl⟩ := Option.map_eq_some_iff.mp h
        exact .real _
      · cases h

theorem isOrdered_of_numeral? {isNegative : Bool} {unsigned : List Char}
    (h : numeral? cs isNegative unsigned = some v) : v.IsOrdered := by
  unfold numeral? at h
  split at h
  · split at h
    · cases h
    · exact isOrdered_of_decimalInteger? h
  · split at h
    · split at h
      · cases h
        exact .moment
      · cases h
    · split at h
      · cases h
      · split at h
        · exact isOrdered_of_real? h
        · split at h
          · exact isOrdered_of_decimalInteger? h
          · cases h

/-- A run is no table. -/
theorem isOrdered_of_scalar? (h : scalar? cs = some v) : v.IsOrdered := by
  unfold scalar? at h
  split at h
  · cases h
    exact .boolean true
  · split at h
    · cases h
      exact .boolean false
    · split at h
      · exact isOrdered_of_integerIn? h
      · exact isOrdered_of_integerIn? h
      · exact isOrdered_of_integerIn? h
      · dsimp only at h
        split at h
        · cases h
          exact .real _
        · split at h
          · cases h
            exact .real _
          · exact isOrdered_of_numeral? h

theorem isOrdered_of_scanScalar? (h : scanScalar? cs = some (v, rest)) : v.IsOrdered := by
  obtain ⟨w, hw, heq⟩ := Option.map_eq_some_iff.mp h
  cases heq
  exact isOrdered_of_scalar? hw

/-- A string is no table. -/
theorem isOrdered_of_text {r : Option (String × List Char)}
    (h : r.map (fun (s, after) => (Value.text s, after)) = some (v, rest)) : v.IsOrdered := by
  obtain ⟨⟨s, after⟩, -, heq⟩ := Option.map_eq_some_iff.mp h
  cases heq
  exact .text s

/-- The items of an array are in order if all values that are read are. -/
theorem isOrdered_of_scanItems? {value : List Char → Option (Value × List Char)}
    (hvalue : ∀ {cs v rest}, value cs = some (v, rest) → v.IsOrdered) {items : List Value}
    (h : scanItems? value limit cs = some (items, rest)) : ∀ v ∈ items, v.IsOrdered := by
  induction limit generalizing cs items rest with
  | zero => cases h
  | succ limit ih =>
      rw [scanItems?] at h
      split at h
      · cases h
      · cases h
        exact List.forall_mem_nil _
      · split at h
        · cases h
        · rename_i hv
          split at h
          · obtain ⟨⟨items, after⟩, hitems, heq⟩ := Option.map_eq_some_iff.mp h
            cases heq
            exact List.forall_mem_cons.mpr ⟨hvalue hv, ih hitems⟩
          · cases h
            exact List.forall_mem_singleton.mpr (hvalue hv)
          · cases h

/-- The values between braces are in order if all values that are read are. -/
theorem isOrdered_of_scanFields? {value : List Char → Option (Value × List Char)}
    (hvalue : ∀ {cs v rest}, value cs = some (v, rest) → v.IsOrdered) {fields : List (Key × Value)}
    (h : scanFields? value limit cs = some (fields, rest)) : ∀ f ∈ fields, f.2.IsOrdered := by
  induction limit generalizing cs fields rest with
  | zero => cases h
  | succ limit ih =>
      rw [scanFields?] at h
      split at h
      · cases h
      · cases h
        exact List.forall_mem_nil _
      · split at h
        · cases h
        · split at h
          · cases h
          · rename_i hv
            split at h
            · obtain ⟨⟨fields, after⟩, hfields, heq⟩ := Option.map_eq_some_iff.mp h
              cases heq
              exact List.forall_mem_cons.mpr ⟨hvalue hv, ih hfields⟩
            · cases h
              exact List.forall_mem_singleton.mpr (hvalue hv)
            · cases h

/-- **A value in a text is in order**, however deep its tables are. -/
theorem isOrdered_of_scanValue? {depth : Nat} (h : scanValue? limit depth cs = some (v, rest)) :
    v.IsOrdered := by
  induction depth generalizing cs v rest with
  | zero =>
      unfold scanValue? at h
      split at h
      · rename_i heq
        cases heq
      · rename_i heq
        cases heq
      · exact isOrdered_of_text h
      · exact isOrdered_of_text h
      · exact isOrdered_of_scanScalar? h
  | succ depth ih =>
      unfold scanValue? at h
      split at h
      · rename_i heq
        cases heq
        obtain ⟨⟨items, after⟩, hitems, heq⟩ := Option.map_eq_some_iff.mp h
        cases heq
        exact .array (isOrdered_of_scanItems? ih hitems)
      · rename_i heq
        cases heq
        split at h
        · cases h
        · rename_i hfields
          obtain ⟨w, hw, heq⟩ := Option.map_eq_some_iff.mp h
          cases heq
          exact isOrdered_of_inlineTable? (isOrdered_of_scanFields? ih hfields) hw
      · exact isOrdered_of_text h
      · exact isOrdered_of_text h
      · exact isOrdered_of_scanScalar? h

end Scanned

/-! ## Texts -/

/-- The value in a statement is in order, if there is one. -/
def Statement.IsOrdered : Statement → Prop
  | .entry _ v => v.IsOrdered
  | _ => True

theorem isOrdered_of_scanStatement? {limit : Nat} {cs rest : List Char} {s : Statement}
    (h : scanStatement? limit cs = some (s, rest)) : s.IsOrdered := by
  unfold scanStatement? at h
  split at h
  · split at h
    · cases h
      exact True.intro
    · cases h
  · split at h
    · cases h
      exact True.intro
    · cases h
  · split at h
    · cases h
      exact True.intro
    · split at h
      · obtain ⟨⟨v, after⟩, hv, heq⟩ := Option.map_eq_some_iff.mp h
        cases heq
        exact isOrdered_of_scanValue? hv
      · cases h

theorem isOrdered_of_scanStatements? {limit : Nat} {cs : List Char} {statements : List Statement}
    (h : scanStatements? limit cs = some statements) : ∀ s ∈ statements, s.IsOrdered := by
  induction limit generalizing cs statements with
  | zero =>
      cases cs with
      | nil =>
          cases h
          exact List.forall_mem_nil _
      | cons c cs => cases h
  | succ limit ih =>
      cases cs with
      | nil =>
          cases h
          exact List.forall_mem_nil _
      | cons c cs =>
          unfold scanStatements? at h
          split at h
          · cases h
          · rename_i hs
            split at h
            · cases h
            · obtain ⟨others, hothers, rfl⟩ := Option.map_eq_some_iff.mp h
              exact List.forall_mem_cons.mpr ⟨isOrdered_of_scanStatement? hs, ih hothers⟩

/-- A statement keeps the order of a document. -/
theorem Document.add?_isOrdered {d d' : Document} {s : Statement} (hs : s.IsOrdered) (h : AreOrdered d.root)
    (hadd : d.add? s = some d') : AreOrdered d'.root := by
  cases s with
  | nothing =>
      cases hadd
      exact h
  | table k =>
      obtain ⟨root, hroot, rfl⟩ := Option.map_eq_some_iff.mp hadd
      exact h.addTable? hroot
  | item k =>
      obtain ⟨root, hroot, rfl⟩ := Option.map_eq_some_iff.mp hadd
      exact h.addItem? hroot
  | entry k v =>
      obtain ⟨root, hroot, rfl⟩ := Option.map_eq_some_iff.mp hadd
      exact h.addBelow? hs hroot

theorem isOrdered_foldlM_add? {statements : List Statement} (hs : ∀ s ∈ statements, s.IsOrdered)
    {d d' : Document} (h : AreOrdered d.root) (hadd : statements.foldlM Document.add? d = some d') :
    AreOrdered d'.root := by
  induction statements generalizing d with
  | nil =>
      cases hadd
      exact h
  | cons s statements ih =>
      obtain ⟨hfirst, hs⟩ := List.forall_mem_cons.mp hs
      rw [List.foldlM_cons] at hadd
      obtain ⟨next, hnext, hrest⟩ := Option.bind_eq_some_iff.mp hadd
      exact ih hs (Document.add?_isOrdered hfirst h hnext) hrest

/-- **No table of a text has a key twice**, since the entries of each are in the order of their keys. -/
theorem isOrdered_of_parse? {text : String} {v : Value} (h : parse? text = some v) : v.IsOrdered := by
  unfold parse? at h
  dsimp only at h
  split at h
  · cases h
  · rename_i hstatements
    obtain ⟨d, hd, rfl⟩ := Option.map_eq_some_iff.mp h
    exact (isOrdered_foldlM_add? (isOrdered_of_scanStatements? hstatements) .nil hd).toValue

end EntityAudit.Toml
