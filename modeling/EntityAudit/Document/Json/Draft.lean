import EntityAudit.Document.Json.Token

/-!
# `EntityAudit.Document.Json.Draft` — a JSON text as far as it can be read

A text that is not a JSON text has a readable beginning, and its data may have a fault before the point
where reading ends.  So a text is read into a draft, in which arrays and objects may be unfinished.
Tokens are read one at a time; what is unfinished lies on a stack.

## Contents

* `Draft` — values that may be unfinished
* `Value.draft` — a value as a draft
* `Slot`, `Awaited`, `State` — how far a text has been read
* `State.step`, `State.close` — one token, and the end of the text
* `Reading`, `read` — a whole text
-/

namespace EntityAudit.Json

/-! ## Drafts -/

/-- A value that may be unfinished. -/
inductive Draft where
  | scalar (value : Scalar)
  | array (items : List Draft) (isClosed : Bool)
  | object (members : List (String × Draft)) (isClosed : Bool)
  /-- There is no value. -/
  | missing

mutual

/-- A value as a draft. -/
def Value.draft : Value → Draft
  | .scalar value => .scalar value
  | .array items => .array (itemDrafts items) true
  | .object members => .object (memberDrafts members) true

/-- The items of an array as drafts. -/
def itemDrafts : List Value → List Draft
  | [] => []
  | item :: rest => item.draft :: itemDrafts rest

/-- The members of an object as drafts. -/
def memberDrafts : List (String × Value) → List (String × Draft)
  | [] => []
  | (key, value) :: rest => (key, value.draft) :: memberDrafts rest

end

/-- A draft as a fault mentions it. -/
def Draft.found? : Draft → Option Found
  | scalar value => some value.found
  | array _ _ => some .sequence
  | object _ _ => some .map
  | missing => none

/-! ## Reading -/

/-- The place in an unfinished array or object to which the next value belongs.  What comes before is kept
backwards. -/
inductive Slot where
  | item (before : List Draft)
  | member (before : List (String × Draft)) (key : String)

/-- What is awaited, with the innermost array or object so far. -/
inductive Awaited where
  | value
  /-- A value, or the end of an empty array. -/
  | firstItem
  | afterItem (items : List Draft)
  /-- A key, or the end of an empty object. -/
  | firstKey
  | nextKey (members : List (String × Draft))
  | colon (members : List (String × Draft)) (key : String)
  | afterMember (members : List (String × Draft))

/-- How far a text has been read: what is awaited, inside of which arrays and objects, or the result. -/
inductive State where
  | reading (awaited : Awaited) (inside : List Slot)
  | finished (root : Draft)
  | stopped (root : Draft)

/-- A value is complete and takes its place. -/
def State.place (d : Draft) : List Slot → State
  | [] => .finished d
  | .item before :: up => .reading (.afterItem (d :: before)) up
  | .member before key :: up => .reading (.afterMember ((key, d) :: before)) up

/-- The whole draft, when reading ends with a value that is unfinished. -/
def wrap (d : Draft) : List Slot → Draft
  | [] => d
  | .item before :: up => wrap (.array (d :: before).reverse false) up
  | .member before key :: up => wrap (.object ((key, d) :: before).reverse false) up

/-- The innermost value, when reading ends. -/
def Awaited.unfinished : Awaited → Draft
  | value => .missing
  | firstItem => .array [] false
  | afterItem items => .array items.reverse false
  | firstKey => .object [] false
  | nextKey members => .object members.reverse false
  | colon members key => .object ((key, .missing) :: members).reverse false
  | afterMember members => .object members.reverse false

/-- A value begins. -/
def State.begin (t : Token) (inside : List Slot) : State :=
  match t with
  | .scalar value => .place (.scalar value) inside
  | .opening .array => .reading .firstItem inside
  | .opening .object => .reading .firstKey inside
  | _ => .stopped (wrap .missing inside)

/-- One token while something is awaited. -/
def State.receive (t : Token) (awaited : Awaited) (inside : List Slot) : State :=
  match awaited, t with
  | .value, t => .begin t inside
  | .firstItem, .closing .array => .place (.array [] true) inside
  | .firstItem, t => .begin t (.item [] :: inside)
  | .afterItem items, .comma => .reading .value (.item items :: inside)
  | .afterItem items, .closing .array => .place (.array items.reverse true) inside
  | .firstKey, .closing .object => .place (.object [] true) inside
  | .firstKey, .scalar (.text key) => .reading (.colon [] key) inside
  | .nextKey members, .scalar (.text key) => .reading (.colon members key) inside
  | .colon members key, .colon => .reading .value (.member members key :: inside)
  | .afterMember members, .comma => .reading (.nextKey members) inside
  | .afterMember members, .closing .object => .place (.object members.reverse true) inside
  | awaited, _ => .stopped (wrap awaited.unfinished inside)

/-- One token. -/
def State.step (s : State) (t : Token) : State :=
  match s with
  | reading awaited inside => .receive t awaited inside
  | finished root => .stopped root
  | stopped root => .stopped root

/-- What was read of a text, and whether that is all of it. -/
structure Reading where
  root : Draft
  isWhole : Bool

/-- The end of the text. -/
def State.close : State → Reading
  | reading awaited inside => ⟨wrap awaited.unfinished inside, false⟩
  | finished root => ⟨root, true⟩
  | stopped root => ⟨root, false⟩

/-- Reads a text. -/
def read (text : String) : Reading :=
  ((tokens text.toList).foldl State.step (.reading .value [])).close

end EntityAudit.Json
