import EntityAudit.Catalog.Entries
import EntityAudit.Number.Shortest

/-!
# `EntityAudit.Document.Toml.Value` — TOML values

## Contents

* `Value` — values; the keys of a table increase
* `Value.kind` — the name of a kind of values
-/

namespace EntityAudit.Toml

/-- A TOML value.  The entries of a table are in the order of their keys. -/
inductive Value where
  | text (value : String)
  /-- An integer, unless its characters spell no number. -/
  | integer (value : Option Int)
  /-- A floating-point number, unless it is beyond the largest one. -/
  | real (value : Option Binary64)
  | boolean (value : Bool)
  /-- A date, a time, or both. -/
  | moment
  | array (items : List Value)
  | table (entries : List (String × Value))

/-- The name of the kind of a value. -/
def Value.kind : Value → String
  | text _ => "string"
  | integer _ => "integer"
  | real _ => "float"
  | boolean _ => "boolean"
  | moment => "datetime"
  | array _ => "array"
  | table _ => "table"

end EntityAudit.Toml
