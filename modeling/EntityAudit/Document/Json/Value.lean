import EntityAudit.Document.Fault
import EntityAudit.Document.Json.Number
import EntityAudit.Number.Shortest

/-!
# `EntityAudit.Document.Json.Value` — JSON values and their text

The text of a value has no white space.  In a string, a quote, a backslash and the control characters are
escaped and everything else stands for itself.

## Contents

* `Scalar`, `Value`
* `escape`, `quote` — strings
* `Value.chars`, `Value.render` — the text of a value
-/

namespace EntityAudit.Json

/-- A value without parts. -/
inductive Scalar where
  | null
  | boolean (value : Bool)
  | number (value : Number)
  | text (value : String)
deriving DecidableEq, Repr

/-- A JSON value.  The members of an object are kept in order. -/
inductive Value where
  | scalar (value : Scalar)
  | array (items : List Value)
  | object (members : List (String × Value))

/-! ## As a fault mentions them -/

/-- The text of a number: large and small ones have an exponent. -/
def Number.text : Number → String
  | integer value => toString value
  | real value => value.text .balanced

/-- A number as a fault mentions it. -/
def Number.found : Number → Found
  | integer value => .integer value
  | real value => .real (value.text .balanced)

/-- A value without parts as a fault mentions it. -/
def Scalar.found : Scalar → Found
  | null => .null
  | boolean value => .boolean value
  | number value => value.found
  | text value => .text value

/-! ## Strings -/

/-- The hexadecimal digit of a number below 16. -/
def hexDigit (n : Nat) : Char := Nat.digitChar n

/-- How a character is written between quotes. -/
def escape (c : Char) : List Char :=
  if c = '"' then ['\\', '"']
  else if c = '\\' then ['\\', '\\']
  else if c = '\x08' then ['\\', 'b']
  else if c = '\x0c' then ['\\', 'f']
  else if c = '\n' then ['\\', 'n']
  else if c = '\r' then ['\\', 'r']
  else if c = '\t' then ['\\', 't']
  else if c.toNat < 0x20 then ['\\', 'u', '0', '0', hexDigit (c.toNat / 16), hexDigit (c.toNat % 16)]
  else [c]

/-- A text between quotes. -/
def quote (s : String) : List Char := '"' :: s.toList.flatMap escape ++ ['"']

/-! ## Values -/

/-- The characters of a value without parts. -/
def Scalar.chars : Scalar → List Char
  | null => "null".toList
  | boolean value => if value then "true".toList else "false".toList
  | number value => value.text.toList
  | text value => quote value

/-- Texts with commas between them. -/
def commaSeparated : List (List Char) → List Char
  | [] => []
  | [cs] => cs
  | cs :: rest => cs ++ ',' :: commaSeparated rest

mutual

/-- The characters of a value. -/
def Value.chars : Value → List Char
  | .scalar value => value.chars
  | .array items => '[' :: commaSeparated (itemChars items) ++ [']']
  | .object members => '\x7b' :: commaSeparated (memberChars members) ++ ['\x7d']

/-- The characters of the items of an array. -/
def itemChars : List Value → List (List Char)
  | [] => []
  | item :: rest => item.chars :: itemChars rest

/-- The characters of the members of an object. -/
def memberChars : List (String × Value) → List (List Char)
  | [] => []
  | (key, value) :: rest => (quote key ++ ':' :: value.chars) :: memberChars rest

end

/-- The text of a value. -/
def Value.render (v : Value) : String := String.ofList v.chars

end EntityAudit.Json
