import EntityAudit.Document.Schema

/-!
# `EntityAudit.Document.Format` — data out of values of any format

Formats differ in their values, but data is found in them in one way.  A record is a table with its fields
under their keys, or a sequence of its fields in the order of their declaration.  Data is checked in the
order of the values, and the first fault decides.

## Contents

* `View`, `Format` — how a format shows its values
* `provided` — a result, if a value was read to its end
* `Schema.ofFormat`, `Fields.offer`, `Fields.ofItems` — the data that a value stands for
-/

namespace EntityAudit

/-! ## Formats -/

/-- What a value is.  `isWhole` says whether a sequence or table was read to its end. -/
inductive View (ν : Type) where
  | null
  | flag (value : Bool)
  | text (value : String)
  | sequence (items : List ν) (isWhole : Bool)
  | table (members : List (String × ν)) (isWhole : Bool)
  | other

/-- A format with values of the type `ν`. -/
structure Format (ν : Type) where
  view : ν → View ν
  /-- The fault that a value is not of the kind that is expected. -/
  unexpected : ν → String → DocumentFault
  /-- The value that a choice makes, given the value of each name. -/
  choice {α : Type} : (String → Except DocumentFault α) → ν → Except DocumentFault α
  /-- Whether a sequence may have more items than a record has fields. -/
  allowsSurplus : Bool

/-- A result, provided that everything was read to its end. -/
def provided {α : Type} (isWhole : Bool) (a : α) : Except DocumentFault α :=
  if isWhole then .ok a else .error .malformed

/-! ## Data -/

variable {ν : Type}

mutual

/-- The data that a value stands for, or the first fault. -/
def Schema.ofFormat {α : Type} (f : Format ν) : Schema α → ν → Except DocumentFault α
  | .text, v =>
    match f.view v with
    | .text s => .ok s
    | _ => .error (f.unexpected v "a string")
  | .flag, v =>
    match f.view v with
    | .flag b => .ok b
    | _ => .error (f.unexpected v "a boolean")
  | .path, v =>
    match f.view v with
    | .text s => .ok (some ⟨s⟩)
    | .null => .ok none
    | _ => .error (f.unexpected v "path string")
  | .choice values nameOf _ _, v => f.choice (chosen values nameOf) v
  | .list item, v =>
    match f.view v with
    | .sequence items isWhole =>
      match items.mapM (fun v => item.ofFormat f v) with
      | .error e => .error e
      | .ok as => provided isWhole as
    | _ => .error (f.unexpected v "a sequence")
  | .record name fields, v =>
    match f.view v with
    | .sequence items isWhole => fields.ofItems f name fields.keys.length 0 items isWhole
    | .table members isWhole =>
      match members.foldlM (fun slots m => fields.offer f fields.keys m.1 m.2 slots) fields.empty with
      | .error e => .error e
      | .ok slots => if isWhole then fields.finish slots else .error .malformed
    | _ => .error (f.unexpected v ("struct " ++ name))
  | .via shape into _ _, v => (shape.ofFormat f v).map into

/-- What is known of a record after one more member.  `known` are all keys of the record. -/
def Fields.offer {α σ : Type} (f : Format ν) (known : List String) :
    Fields α σ → String → ν → σ → Except DocumentFault σ
  | .nil, key, _, () => .error (.data (.unknownField key known))
  | .cons own shape _ rest, key, v, (slot, slots) =>
    if key = own then
      match slot with
      | some _ => .error (.data (.duplicateField key))
      | none => (shape.ofFormat f v).map (fun a => (some a, slots))
    else (rest.offer f known key v slots).map (fun slots => (slot, slots))

/-- The record whose fields from the position `index` on are the items of a sequence. -/
def Fields.ofItems {α σ : Type} (f : Format ν) (record : String) (total index : Nat) :
    Fields α σ → List ν → Bool → Except DocumentFault α
  | .nil, items, isWhole => provided ((items.isEmpty || f.allowsSurplus) && isWhole) ()
  | .cons _ _ presence rest, [], isWhole =>
    if isWhole then
      match presence.fallback with
      | none => .error (.data (.invalidLength index record total))
      | some a => (rest.ofItems f record total (index + 1) [] isWhole).map (fun b => (a, b))
    else .error .malformed
  | .cons _ shape _ rest, v :: items, isWhole =>
    match shape.ofFormat f v with
    | .error e => .error e
    | .ok a => (rest.ofItems f record total (index + 1) items isWhole).map (fun b => (a, b))

end

end EntityAudit
