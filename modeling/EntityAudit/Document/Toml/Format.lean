import EntityAudit.Document.Format
import EntityAudit.Document.Toml.Grammar
import EntityAudit.Number.Width

/-!
# `EntityAudit.Document.Toml.Format` — data in TOML texts

A choice is a name, or a table with that name as its only key and without anything under it.  The keys of
a table are visited in order, so a text may have its entries in any order.  A moment is shown as a table
with a key of its own, which no record has.

## Contents

* `integerFound?`, `Value.unexpected` — values in faults
* `choiceOfTable`, `format` — values of a format
* `Schema.ofToml` — the data that a text stands for
-/

namespace EntityAudit

namespace Toml

/-! ## Values in faults -/

/-- An integer as a fault mentions it, unless it is beyond 128 bits. -/
def integerFound? (n : Int) : Option Found :=
  if fitsSigned 64 n || fitsUnsigned 64 n then some (.integer n)
  else if fitsSigned 128 n then some (.wideInteger n "i128")
  else if fitsUnsigned 128 n then some (.wideInteger n "u128")
  else none

/-- The fault that a value is not of the kind that is expected, or that it is no number of a size that can
be shown. -/
def Value.unexpected (v : Value) (expected : String) : DocumentFault :=
  .data <|
    match v with
    | text value => .invalidType (.text value) expected
    | integer value =>
      match value.bind integerFound? with
      | some found => .invalidType found expected
      | none => .integerOverflow
    | real (some value) => .invalidType (.real (value.text .plain)) expected
    | real none => .realOverflow
    | boolean value => .invalidType (.boolean value) expected
    | array _ => .invalidType .sequence expected
    | moment | table _ => .invalidType .map expected

/-! ## The format -/

/-- The key under which a moment is shown. -/
def momentKey : String := "$__toml_private_datetime"

/-- What a value is. -/
def Value.view : Value → View Value
  | boolean value => .flag value
  | text value => .text value
  | array items => .sequence items true
  | table entries => .table entries true
  | moment => .table [(momentKey, moment)] true
  | integer _ | real _ => .other

/-- The choice that a table makes. -/
def choiceOfTable {α : Type} (pick : String → Except DocumentFault α) :
    List (String × Value) → Except DocumentFault α
  | [] => .error (.data .noChoice)
  | _ :: _ :: _ => .error (.data .severalChoices)
  | [(name, value)] =>
    match pick name with
    | .error e => .error e
    | .ok a =>
      match value with
      | .array [] | .table [] => .ok a
      | .array _ => .error (.data .choiceWithArray)
      | .table _ => .error (.data .choiceWithTable)
      | value => .error (.data (.choiceWithValue value.kind))

/-- Values of a format. -/
def format : Format Value where
  view := Value.view
  unexpected := Value.unexpected
  choice pick v :=
    match v with
    | .text name => pick name
    | .table entries => choiceOfTable pick entries
    | _ => .error (.data .notAChoice)
  allowsSurplus := true

end Toml

/-- The data that a text stands for, or the first fault. -/
def Schema.ofToml {α : Type} (schema : Schema α) (text : String) : Except DocumentFault α :=
  match Toml.parse? text with
  | none => .error .malformed
  | some v => schema.ofFormat Toml.format v

end EntityAudit
