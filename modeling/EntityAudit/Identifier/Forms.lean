import EntityAudit.Identifier.Words
import EntityAudit.Unicode.Case

/-!
# `EntityAudit.Identifier.Forms` — the two spellings of a name

A name has a *delimited* form, small words joined by a delimiter (`car_make`), used for fields and
parameters, and a *compact* form, a small first word and capitalized later ones (`carMake`), used for
columns and accessors.

## Contents

* `delimiter` — what joins the words
* `delimited` — the delimited form
* `capitalize` — the first character in uppercase
* `compact` — the compact form
-/

namespace EntityAudit.Identifier

/-- The character that joins the words of a delimited form. -/
def delimiter : Char := '_'

/-! ## On lists of characters -/

/-- The delimited form.  A text that has the delimiter already is only lowercased; any other is taken
apart into words, and what belongs to no word is dropped. -/
def delimitedChars (cs : List Char) : List Char :=
  if delimiter ∈ cs then Unicode.lower cs
  else Unicode.lower ([delimiter].intercalate (words cs))

/-- The first character in uppercase, the others unchanged. -/
def capitalizeChars : List Char → List Char
  | [] => []
  | c :: rest => Unicode.upperChar c ++ rest

/-- A text without the delimiter that it may begin with. -/
def dropLeadingDelimiter : List Char → List Char
  | [] => []
  | c :: rest => if c = delimiter then rest else c :: rest

/-- The compact form of the pieces between delimiters: the first in lowercase, the others capitalized. -/
def joinPieces : List (List Char) → List Char
  | [] => []
  | first :: rest => Unicode.lower first ++ rest.flatMap capitalizeChars

/-- The compact form.  A text without the delimiter stays as it is; one delimiter at the beginning is
ignored. -/
def compactChars (cs : List Char) : List Char :=
  if delimiter ∈ cs then joinPieces ((dropLeadingDelimiter cs).splitOn delimiter) else cs

/-! ## On texts -/

/-- The delimited form of a name. -/
def delimited (s : String) : String := String.ofList (delimitedChars s.toList)

/-- A name with its first character in uppercase. -/
def capitalize (s : String) : String := String.ofList (capitalizeChars s.toList)

/-- The compact form of a name. -/
def compact (s : String) : String := String.ofList (compactChars s.toList)

/-- The lowercase form of a name. -/
def lowercase (s : String) : String := String.ofList (Unicode.lower s.toList)

@[simp] theorem toList_delimited (s : String) :
    (delimited s).toList = delimitedChars s.toList := String.toList_ofList

@[simp] theorem toList_capitalize (s : String) :
    (capitalize s).toList = capitalizeChars s.toList := String.toList_ofList

@[simp] theorem toList_compact (s : String) :
    (compact s).toList = compactChars s.toList := String.toList_ofList

end EntityAudit.Identifier
