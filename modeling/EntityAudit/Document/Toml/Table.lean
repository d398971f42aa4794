import EntityAudit.Document.Toml.Value

/-!
# `EntityAudit.Document.Toml.Table` — tables under construction

A table comes into being under its own header, as a part of the path in some header, or as a part of the
key of an entry.  This decides what may still be added to it.  A value, be it an array or a table, is
complete.

## Contents

* `Key` — a key that leads through tables
* `Origin`, `Node` — what is under a key so far
* `passed?`, `changeAt?` — a change at the end of a path
* `addTable?`, `addItem?`, `addBelow?` — what headers and entries do
* `Node.value` — the finished value
-/

namespace EntityAudit.Toml

/-- A key: the tables that it leads through, and the name in the last one. -/
structure Key where
  path : List String
  name : String
deriving DecidableEq, Repr

/-- The names of a key. -/
def Key.names (k : Key) : List String := k.path ++ [k.name]

/-! ## What is under a key -/

/-- How a table came into being. -/
inductive Origin where
  /-- Under its own header. -/
  | header
  /-- On the way to the table of a header. -/
  | implied
  /-- On the way to an entry, or on the way to a header and later on the way to an entry. -/
  | dotted
deriving DecidableEq, Repr

/-- What is under a key so far. -/
inductive Node where
  | value (value : Value)
  | table (origin : Origin) (entries : List (String × Node))
  /-- Tables under headers of their own, the latest first. -/
  | tables (items : List (List (String × Node)))

/-- The entries of a table under construction, in the order of their keys. -/
abbrev Entries := List (String × Node)

/-! ## Changes -/

/-- The origin of a table after a path led through it.  The path of an entry must not lead through a table
that has a header; it makes any other table its own. -/
def passed? (fresh origin : Origin) : Option Origin :=
  if fresh = .dotted then (if origin = .header then none else some .dotted) else some origin

/-- The entries after a change at the end of a path, unless the path or the change is not allowed.
Tables that are missing on the way are of the origin `fresh`. -/
def changeAt? (fresh : Origin) (change : Origin → Entries → Option Entries) :
    List String → Origin → Entries → Option Entries
  | [], origin, entries => change origin entries
  | key :: rest, _, entries =>
    match entries.lookup key with
    | none =>
      (changeAt? fresh change rest fresh []).map
        (fun inner => insertEntry key (.table fresh inner) entries)
    | some (.table origin inner) =>
      match passed? fresh origin with
      | none => none
      | some origin =>
        (changeAt? fresh change rest origin inner).map
          (fun inner => insertEntry key (.table origin inner) entries)
    | some (.tables (latest :: before)) =>
      (changeAt? fresh change rest .header latest).map
        (fun latest => insertEntry key (.tables (latest :: before)) entries)
    | some _ => none

/-- The header of a table: there is no such table yet, or only on the way to others. -/
def addTable? (k : Key) (root : Entries) : Option Entries :=
  changeAt? .implied
    (fun _ entries =>
      match entries.lookup k.name with
      | none => some (insertEntry k.name (.table .header []) entries)
      | some (.table .implied inner) => some (insertEntry k.name (.table .header inner) entries)
      | some _ => none)
    k.path .header root

/-- The header of an item of an array of tables. -/
def addItem? (k : Key) (root : Entries) : Option Entries :=
  changeAt? .implied
    (fun _ entries =>
      match entries.lookup k.name with
      | none => some (insertEntry k.name (.tables [[]]) entries)
      | some (.tables items) => some (insertEntry k.name (.tables ([] :: items)) entries)
      | some _ => none)
    k.path .header root

/-- A value under a key of the table `origin`, `entries`.  The key must be new, and the last table that it
leads through, if any, must belong to entries. -/
def addValue? (k : Key) (v : Value) (origin : Origin) (entries : Entries) : Option Entries :=
  changeAt? .dotted
    (fun last entries =>
      if last = .dotted ↔ k.path = [] then none
      else
        match entries.lookup k.name with
        | none => some (insertEntry k.name (.value v) entries)
        | some _ => none)
    k.path origin entries

/-- An entry below the latest header. -/
def addBelow? (header : List String) (k : Key) (v : Value) (root : Entries) : Option Entries :=
  changeAt? .implied (addValue? k v) header .header root

/-! ## Finished values -/

mutual

/-- The finished value. -/
def Node.toValue : Node → Value
  | .value v => v
  | .table _ entries => .table (entryValues entries)
  | .tables items => .array (itemValues items).reverse

/-- The finished entries of a table. -/
def entryValues : List (String × Node) → List (String × Value)
  | [] => []
  | (key, node) :: rest => (key, node.toValue) :: entryValues rest

/-- The finished items of an array of tables. -/
def itemValues : List (List (String × Node)) → List Value
  | [] => []
  | entries :: rest => .table (entryValues entries) :: itemValues rest

end

/-- The table that the entries between braces make up. -/
def inlineTable? (entries : List (Key × Value)) : Option Value :=
  (entries.foldlM (fun es (k, v) => addValue? k v .header es) []).map (fun es => .table (entryValues es))

end EntityAudit.Toml
