import EntityAudit.Document.Fault
import EntityAudit.Path.Basic

/-!
# `EntityAudit.Document.Schema` — the shape of data in a document

A schema says which values stand for data of a type: texts, flags, paths, names out of a choice, lists
and records.  Each format reads and writes a schema in its own way; what a record does with its fields is
the same in all of them.

## Contents

* `Presence` — whether a field may be missing, and whether it is written
* `Schema`, `Fields` — shapes of data and of records
* `Fields.keys`, `Fields.empty`, `Fields.finish` — the fields of a record while it is read
* `valueNamed?` — the value that a name chooses
-/

namespace EntityAudit

/-! ## Shapes -/

/-- Whether a field may be missing, and which of its values are not written. -/
structure Presence (α : Type) where
  /-- What a missing field means. -/
  fallback : Option α := none
  /-- Whether a field with this value is not written. -/
  omits : α → Bool := fun _ => false
  /-- What is not written is restored by the fallback. -/
  fallback_of_omits : ∀ a, omits a = true → fallback = some a := by simp

/-- A field that must be there. -/
def Presence.required {α : Type} : Presence α := {}

/-- A field that may be missing and is always written. -/
def Presence.defaulting {α : Type} (a : α) : Presence α where
  fallback := some a

/-- A list that is not written if it is empty. -/
def Presence.unlessEmpty {α : Type} : Presence (List α) where
  fallback := some []
  omits := List.isEmpty
  fallback_of_omits as h := by rw [List.isEmpty_iff.mp h]

/-- A value that is not written if there is none. -/
def Presence.unlessNone {α : Type} : Presence (Option α) where
  fallback := some none
  omits := Option.isNone
  fallback_of_omits a h := by rw [Option.isNone_iff_eq_none.mp h]

mutual

/-- The shape of data of a type. -/
inductive Schema : Type → Type 1 where
  | text : Schema String
  | flag : Schema Bool
  /-- A path, or none. -/
  | path : Schema (Option Path)
  /-- One of finitely many values, chosen by its name. -/
  | choice {α : Type} (values : List α) (nameOf : α → String) (complete : ∀ a, a ∈ values)
      (distinct : ∀ a b, nameOf a = nameOf b → a = b) : Schema α
  | list {α : Type} (item : Schema α) : Schema (List α)
  | record {α σ : Type} (name : String) (fields : Fields α σ) : Schema α
  /-- Data that is written as data of another type. -/
  | via {α β : Type} (shape : Schema α) (into : α → β) (out : β → α)
      (into_out : ∀ b, into (out b) = b) : Schema β

/-- The fields of a record, in the order of their declaration.  `α` is the type of the record and `σ` that
of what is known of it while it is read. -/
inductive Fields : Type → Type → Type 1 where
  | nil : Fields Unit Unit
  | cons {α β σ : Type} (key : String) (shape : Schema α) (presence : Presence α)
      (rest : Fields β σ) : Fields (α × β) (Option α × σ)

end

/-! ## Records -/

namespace Fields

/-- The keys of a record. -/
def keys {α σ : Type} : Fields α σ → List String
  | .nil => []
  | .cons key _ _ rest => key :: rest.keys

/-- What is known of a record at the start: nothing. -/
def empty {α σ : Type} : Fields α σ → σ
  | .nil => ()
  | .cons _ _ _ rest => (none, rest.empty)

/-- The record, from what is known of it in the end; the first field that is missing and must not be is a
fault. -/
def finish {α σ : Type} : Fields α σ → σ → Except DocumentFault α
  | .nil, () => .ok ()
  | .cons key _ presence rest, (slot, slots) =>
    match slot <|> presence.fallback with
    | none => .error (.data (.missingField key))
    | some a => (rest.finish slots).map (fun b => (a, b))

end Fields

/-! ## Choices -/

/-- The value that a name chooses. -/
def valueNamed? {α : Type} (values : List α) (nameOf : α → String) (name : String) : Option α :=
  values.find? (fun a => nameOf a == name)

/-- Every value is chosen by its name. -/
theorem valueNamed?_nameOf {α : Type} {values : List α} {nameOf : α → String}
    (complete : ∀ a, a ∈ values) (distinct : ∀ a b, nameOf a = nameOf b → a = b) (a : α) :
    valueNamed? values nameOf (nameOf a) = some a := by
  cases h : valueNamed? values nameOf (nameOf a) with
  | none => exact absurd (List.find?_eq_none.mp h a (complete a)) (by simp)
  | some b =>
    have hb : nameOf b = nameOf a := by simpa using List.find?_some h
    rw [distinct b a hb]

/-- The value that a name chooses, or the fault that there is none. -/
def chosen {α : Type} (values : List α) (nameOf : α → String) (name : String) :
    Except DocumentFault α :=
  match valueNamed? values nameOf name with
  | some a => .ok a
  | none => .error (.data (.unknownVariant name (values.map nameOf)))

end EntityAudit
