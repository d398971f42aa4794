import EntityAudit.Unicode.Quoted

/-!
# `EntityAudit.Document.Fault` — why a document was not accepted

A document is malformed when it is not a document of its format at all.  Otherwise its data may not be
what was asked for, and the first such fault is named.

## Contents

* `Found` — a value that was not expected
* `DataFault`, `DataFault.message`
* `DocumentFault`, `DocumentFault.message`
-/

namespace EntityAudit

/-! ## Values that were not expected -/

/-- A value as a fault mentions it. -/
inductive Found where
  | boolean (value : Bool)
  | integer (value : Int)
  /-- An integer beyond 64 bits, with the name of the width that holds it. -/
  | wideInteger (value : Int) (width : String)
  /-- A floating-point number as its format shows it. -/
  | real (shown : String)
  | text (value : String)
  | null
  | sequence
  | map
deriving DecidableEq, Repr

/-- How a fault mentions a value. -/
def Found.describe : Found → String
  | boolean value => "boolean `" ++ (if value then "true" else "false") ++ "`"
  | integer value => "integer `" ++ toString value ++ "`"
  | wideInteger value width => "integer `" ++ toString value ++ "` as " ++ width
  | real shown => "floating point `" ++ shown ++ "`"
  | text value => "string " ++ Unicode.quoted value
  | null => "null"
  | sequence => "sequence"
  | map => "map"

/-! ## Faults of data -/

/-- A fault of the data in a document. -/
inductive DataFault where
  | invalidType (found : Found) (expected : String)
  | invalidLength (length : Nat) (record : String) (fields : Nat)
  | missingField (key : String)
  | duplicateField (key : String)
  | unknownField (key : String) (known : List String)
  | unknownVariant (name : String) (known : List String)
  /-- A choice is neither a name nor a table. -/
  | notAChoice
  /-- A choice is a table without a key. -/
  | noChoice
  /-- A choice is a table with several keys. -/
  | severalChoices
  /-- The chosen name comes with values. -/
  | choiceWithArray
  /-- The chosen name comes with keys. -/
  | choiceWithTable
  /-- The chosen name comes with a value of the kind. -/
  | choiceWithValue (kind : String)
  | integerOverflow
  | realOverflow
deriving DecidableEq, Repr

/-- A list of what is known: one name, a choice of two, or a list. -/
def knownNames : List String → String
  | [] => "there are no fields"
  | [a] => "expected `" ++ a ++ "`"
  | [a, b] => "expected `" ++ a ++ "` or `" ++ b ++ "`"
  | names =>
    "expected one of " ++ String.intercalate ", " (names.map (fun n => "`" ++ n ++ "`"))

/-- What a fault says. -/
def DataFault.message : DataFault → String
  | invalidType found expected => "invalid type: " ++ found.describe ++ ", expected " ++ expected
  | invalidLength length record fields =>
    "invalid length " ++ toString length ++ ", expected struct " ++ record ++ " with "
      ++ toString fields ++ (if fields = 1 then " element" else " elements")
  | missingField key => "missing field `" ++ key ++ "`"
  | duplicateField key => "duplicate field `" ++ key ++ "`"
  | unknownField key known => "unknown field `" ++ key ++ "`, " ++ knownNames known
  | unknownVariant name known => "unknown variant `" ++ name ++ "`, " ++ knownNames known
  | notAChoice => "wanted string or table"
  | noChoice => "wanted exactly 1 element, found 0 elements"
  | severalChoices => "wanted exactly 1 element, more than 1 element"
  | choiceWithArray => "expected empty array"
  | choiceWithTable => "expected empty table"
  | choiceWithValue kind => "expected table, found " ++ kind
  | integerOverflow => "integer number overflowed"
  | realOverflow => "floating-point number overflowed"

/-! ## Faults -/

/-- Why a document was not accepted. -/
inductive DocumentFault where
  | malformed
  | data (fault : DataFault)
deriving DecidableEq, Repr

/-- The text of a fault; where a document is malformed is not said. -/
def DocumentFault.message : DocumentFault → String
  | malformed => "<syntax>"
  | data fault => fault.message

/-- The name of the stage at which a fault was found. -/
def DocumentFault.stage : DocumentFault → String
  | malformed => "syntax"
  | data _ => "data"

end EntityAudit
