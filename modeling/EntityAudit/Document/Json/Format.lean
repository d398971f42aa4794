import EntityAudit.Document.Format
import EntityAudit.Document.Json.Draft

/-!
# `EntityAudit.Document.Json.Format` — data in JSON texts

A choice is a name, or an object with that name as its only key and without a value.  Data is checked in
the order of the text, so the first problem in the text, be it of the data or of the text itself, is the
one that is reported.

## Contents

* `Draft.unexpected`, `choiceOfMembers`, `format` — drafts as values of a format
* `Schema.ofJson` — the data that a text stands for
* `Schema.toValue`, `Schema.toJson` — the value and the text that stand for data
-/

namespace EntityAudit

namespace Json

/-! ## Reading -/

/-- A draft that is not of the kind that is expected; where there is no value, the text is malformed. -/
def Draft.unexpected (d : Draft) (expected : String) : DocumentFault :=
  match d.found? with
  | some found => .data (.invalidType found expected)
  | none => .malformed

/-- What a draft is. -/
def Draft.view : Draft → View Draft
  | scalar .null => .null
  | scalar (.boolean value) => .flag value
  | scalar (.text value) => .text value
  | scalar (.number _) => .other
  | array items isClosed => .sequence items isClosed
  | object members isClosed => .table members isClosed
  | missing => .other

/-- The choice that an object makes. -/
def choiceOfMembers {α : Type} (pick : String → Except DocumentFault α)
    (members : List (String × Draft)) (isClosed : Bool) : Except DocumentFault α :=
  match members with
  | [] => .error .malformed
  | (name, value) :: rest =>
    match pick name with
    | .error e => .error e
    | .ok a =>
      match value with
      | .scalar .null => provided (rest.isEmpty && isClosed) a
      | value => .error (value.unexpected "unit")

/-- Drafts as values of a format. -/
def format : Format Draft where
  view := Draft.view
  unexpected := Draft.unexpected
  choice pick d :=
    match d with
    | .scalar (.text name) => pick name
    | .object members isClosed => choiceOfMembers pick members isClosed
    | _ => .error .malformed
  allowsSurplus := false

end Json

/-- The data that a text stands for, or the first fault. -/
def Schema.ofJson {α : Type} (schema : Schema α) (text : String) : Except DocumentFault α :=
  let reading := Json.read text
  match schema.ofFormat Json.format reading.root with
  | .error e => .error e
  | .ok a => provided reading.isWhole a

/-! ## Writing -/

mutual

/-- The value that stands for data. -/
def Schema.toValue {α : Type} : Schema α → α → Json.Value
  | .text, s => .scalar (.text s)
  | .flag, b => .scalar (.boolean b)
  | .path, none => .scalar .null
  | .path, some p => .scalar (.text p.text)
  | .choice _ nameOf _ _, a => .scalar (.text (nameOf a))
  | .list item, as => .array (as.map (fun a => item.toValue a))
  | .record _ fields, a => .object (fields.toMembers a)
  | .via shape _ out _, b => shape.toValue (out b)

/-- The members that stand for a record, without those that are left out. -/
def Fields.toMembers {α σ : Type} : Fields α σ → α → List (String × Json.Value)
  | .nil, () => []
  | .cons key shape presence rest, (a, b) =>
    if presence.omits a then rest.toMembers b else (key, shape.toValue a) :: rest.toMembers b

end

/-- The text that stands for data. -/
def Schema.toJson {α : Type} (schema : Schema α) (a : α) : String := (schema.toValue a).render

end EntityAudit
