import EntityAudit.Unicode.Blank

/-!
# `EntityAudit.Domain.ValueType` — the types a column may have

A column is of one of ten value types.  A method names its return type by a reference, either a plain
qualified name or the form of a method type, which begins with an empty parameter list; a reference that
does not name one of the ten is unresolved.

## Contents

* `ValueType`, `ValueType.simpleName`, `ValueType.qualifiedName`, `ValueType.isTemporal`
* `TypeRef`, `TypeRef.normalized` — references
* `ValueType.ofRef?` — resolution
-/

namespace EntityAudit

/-! ## Value types -/

/-- A type that a column may have. -/
inductive ValueType where
  | boolean
  | byte
  | character
  | date
  | double
  | float
  | integer
  | long
  | short
  | string
deriving DecidableEq, Repr

namespace ValueType

/-- Every value type, in alphabetical order. -/
def all : List ValueType :=
  [boolean, byte, character, date, double, float, integer, long, short, string]

/-- The name used in declarations. -/
def simpleName : ValueType → String
  | boolean => "Boolean"
  | byte => "Byte"
  | character => "Character"
  | date => "Date"
  | double => "Double"
  | float => "Float"
  | integer => "Integer"
  | long => "Long"
  | short => "Short"
  | string => "String"

/-- The package that a value type belongs to. -/
def package : ValueType → String
  | date => "java.util"
  | _ => "java.lang"

/-- The name by which a reference resolves to a value type. -/
def qualifiedName (t : ValueType) : String := t.package ++ "." ++ t.simpleName

/-- Whether values are points in time. -/
def isTemporal (t : ValueType) : Bool := t == date

theorem mem_all (t : ValueType) : t ∈ all := by
  cases t <;> decide

theorem simpleName_injective {t u : ValueType} (h : t.simpleName = u.simpleName) : t = u := by
  cases t <;> cases u <;> first | rfl | exact absurd h (by decide)

end ValueType

/-! ## References -/

/-- The return type of a method as it was declared. -/
structure TypeRef where
  text : String
deriving DecidableEq, Repr

/-- A text without the empty parameter list that it may begin with. -/
def dropEmptyParameters : List Char → List Char
  | '(' :: ')' :: rest => rest
  | cs => cs

/-- The name of the type: no white space at the ends, then no empty parameter list in front. -/
def TypeRef.normalized (r : TypeRef) : String :=
  String.ofList (dropEmptyParameters (Unicode.trim r.text.toList))

/-- The value type that a reference names. -/
def ValueType.ofRef? (r : TypeRef) : Option ValueType :=
  ValueType.all.find? (fun t => t.qualifiedName == r.normalized)

/-- A reference resolves to a value type exactly when its normalized form is the type's qualified name. -/
theorem ValueType.ofRef?_eq_some_iff {r : TypeRef} {t : ValueType} :
    ValueType.ofRef? r = some t ↔ r.normalized = t.qualifiedName := by
  have distinct : ∀ t u : ValueType, t.qualifiedName = u.qualifiedName → t = u := by
    intro t u h
    cases t <;> cases u <;> first | rfl | exact absurd h (by decide)
  constructor
  · intro h
    have := List.find?_some h
    simpa using (beq_iff_eq.mp this).symm
  · intro h
    cases hf : ValueType.ofRef? r with
    | none =>
      have := List.find?_eq_none.mp hf t (ValueType.mem_all t)
      simp [h] at this
    | some u =>
      have := List.find?_some hf
      exact congrArg some (distinct u t ((beq_iff_eq.mp this).trans h))

end EntityAudit
