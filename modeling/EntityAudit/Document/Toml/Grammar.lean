import EntityAudit.Document.Toml.Scalar
import EntityAudit.Document.Toml.Table
import EntityAudit.Document.Toml.Text

/-!
# `EntityAudit.Document.Toml.Grammar` — TOML texts

A text is a sequence of lines, each with a header, an entry or nothing, and with or without a comment.
Arrays and inline tables may extend over several lines, and may be nested up to a depth of 80; a key has
at most as many names.  Every repetition is limited by a number that is at least the length of the text.

## Contents

* `skipSpace?`, `skipLine?` — white space and comments
* `scanKey?` — keys
* `scanItems?`, `scanFields?`, `scanValue?` — values
* `Statement`, `scanStatement?` — headers and entries
* `Document`, `parse?`, `parse?_ofList` — a whole text
-/

namespace EntityAudit.Toml

/-! ## White space and comments -/

/-- What follows white space, line breaks and comments. -/
def skipSpace? (inComment : Bool) : List Char → Option (List Char)
  | [] => some []
  | '\n' :: rest => skipSpace? false rest
  | '\r' :: '\n' :: rest => skipSpace? false rest
  | c :: rest =>
    if inComment then (if isTextChar c then skipSpace? true rest else none)
    else if isBlank c then skipSpace? false rest
    else if c = '#' then skipSpace? true rest
    else some (c :: rest)

/-- What follows the end of a line, before which only white space and a comment may stand. -/
def skipLine? (inComment : Bool) : List Char → Option (List Char)
  | [] => some []
  | '\n' :: rest => some rest
  | '\r' :: '\n' :: rest => some rest
  | c :: rest =>
    if inComment then (if isTextChar c then skipLine? true rest else none)
    else if isBlank c then skipLine? false rest
    else if c = '#' then skipLine? true rest
    else none

/-- What follows white space in a line. -/
def skipBlanks (cs : List Char) : List Char := cs.dropWhile isBlank

/-! ## Keys -/

/-- The greatest depth of nested arrays and inline tables, and the greatest number of names in a key. -/
def maxDepth : Nat := 80

/-- A character of a bare key. -/
def isBareChar (c : Char) : Bool := c.isAlphanum || c = '_' || c = '-'

/-- A name in a key. -/
def scanName? (cs : List Char) : Option (String × List Char) :=
  match cs.takeWhile isBareChar with
  | [] => scanLine? cs
  | name => some (String.ofList name, cs.dropWhile isBareChar)

/-- The names of a key, with points between them. -/
def scanNames? : (limit : Nat) → List Char → Option (List String × List Char)
  | 0, _ => none
  | limit + 1, cs =>
    match scanName? (skipBlanks cs) with
    | none => none
    | some (name, rest) =>
      match skipBlanks rest with
      | '.' :: more => (scanNames? limit more).map (fun (names, after) => (name :: names, after))
      | after => some ([name], after)

/-- A key, and what follows it and the white space around it. -/
def scanKey? (limit : Nat) (cs : List Char) : Option (Key × List Char) :=
  match scanNames? limit cs with
  | none => none
  | some (names, rest) =>
    if names.length ≤ maxDepth then
      names.getLast?.map (fun name => (⟨names.dropLast, name⟩, rest))
    else none

/-! ## Values -/

/-- The items of an array up to its end, and what follows it. -/
def scanItems? (value : List Char → Option (Value × List Char)) :
    (limit : Nat) → List Char → Option (List Value × List Char)
  | 0, _ => none
  | limit + 1, cs =>
    match skipSpace? false cs with
    | none => none
    | some (']' :: rest) => some ([], rest)
    | some start =>
      match value start with
      | none => none
      | some (v, rest) =>
        match skipSpace? false rest with
        | some (',' :: more) =>
          (scanItems? value limit more).map (fun (vs, after) => (v :: vs, after))
        | some (']' :: after) => some ([v], after)
        | _ => none

/-- The key at the beginning of a text, and what follows the equals sign after it.  Around the sign the line
may be broken. -/
def scanAssigned? (limit : Nat) (cs : List Char) : Option (Key × List Char) :=
  match scanKey? limit cs with
  | none => none
  | some (k, rest) =>
    match skipSpace? false rest with
    | some ('=' :: afterSign) => (skipSpace? false afterSign).map (fun start => (k, start))
    | _ => none

/-- The entries of an inline table up to its end, and what follows it. -/
def scanFields? (value : List Char → Option (Value × List Char)) :
    (limit : Nat) → List Char → Option (List (Key × Value) × List Char)
  | 0, _ => none
  | limit + 1, cs =>
    match skipSpace? false cs with
    | none => none
    | some ('\x7d' :: rest) => some ([], rest)
    | some start =>
      match scanAssigned? limit start with
      | none => none
      | some (k, valueStart) =>
        match value valueStart with
        | none => none
        | some (v, rest) =>
          match skipSpace? false rest with
          | some (',' :: more) =>
            (scanFields? value limit more).map (fun (fields, after) => ((k, v) :: fields, after))
          | some ('\x7d' :: after) => some ([(k, v)], after)
          | _ => none

/-- A value at the beginning of a text, and what follows it.  `depth` says how far arrays and inline
tables may be nested. -/
def scanValue? (limit : Nat) : (depth : Nat) → List Char → Option (Value × List Char)
  | depth, cs =>
    match depth, cs with
    | depth + 1, '[' :: rest =>
      (scanItems? (scanValue? limit depth) limit rest).map (fun (items, after) => (.array items, after))
    | depth + 1, '\x7b' :: rest =>
      match scanFields? (scanValue? limit depth) limit rest with
      | none => none
      | some (fields, after) => (inlineTable? fields).map (fun v => (v, after))
    | _, '"' :: rest => (scanText? ('"' :: rest)).map (fun (s, after) => (.text s, after))
    | _, '\x27' :: rest => (scanText? ('\x27' :: rest)).map (fun (s, after) => (.text s, after))
    | _, cs => scanScalar? cs

/-! ## Statements -/

/-- What a line says. -/
inductive Statement where
  | nothing
  | table (key : Key)
  | item (key : Key)
  | entry (key : Key) (value : Value)

/-- A statement at the beginning of a line, and what follows it. -/
def scanStatement? (limit : Nat) (line : List Char) : Option (Statement × List Char) :=
  match skipBlanks line with
  | '[' :: '[' :: rest =>
    match scanKey? limit rest with
    | some (k, ']' :: ']' :: after) => some (.item k, after)
    | _ => none
  | '[' :: rest =>
    match scanKey? limit rest with
    | some (k, ']' :: after) => some (.table k, after)
    | _ => none
  | start =>
    match skipLine? false start with
    | some _ => some (.nothing, start)
    | none =>
      match scanKey? limit start with
      | some (k, '=' :: rest) =>
        (scanValue? limit maxDepth (skipBlanks rest)).map (fun (v, after) => (.entry k v, after))
      | _ => none

/-- The statements of a text. -/
def scanStatements? : (limit : Nat) → List Char → Option (List Statement)
  | _, [] => some []
  | 0, _ => none
  | limit + 1, cs =>
    match scanStatement? (limit + 1) cs with
    | none => none
    | some (s, rest) =>
      match skipLine? false rest with
      | none => none
      | some after => (scanStatements? limit after).map (s :: ·)

/-! ## Documents -/

/-- A document so far: all entries, and the path of the latest header. -/
structure Document where
  header : List String
  root : Entries

/-- A document after one more statement, if that is allowed. -/
def Document.add? (d : Document) : Statement → Option Document
  | .nothing => some d
  | .table k => (addTable? k d.root).map (fun root => ⟨k.names, root⟩)
  | .item k => (addItem? k d.root).map (fun root => ⟨k.names, root⟩)
  | .entry k v => (addBelow? d.header k v d.root).map (fun root => ⟨d.header, root⟩)

/-- A text without the mark of its encoding. -/
def dropMark : List Char → List Char
  | '\uFEFF' :: rest => rest
  | cs => cs

/-- The table that a text means, if it is a TOML text. -/
def parse? (text : String) : Option Value :=
  let cs := dropMark text.toList
  match scanStatements? cs.length cs with
  | none => none
  | some statements =>
    (statements.foldlM Document.add? ⟨[], []⟩).map (fun d => .table (entryValues d.root))

/-- A text means the table that its statements add up to. -/
theorem parse?_ofList {cs : List Char} {d : Document} (statements : List Statement)
    (hscan : scanStatements? (dropMark cs).length (dropMark cs) = some statements)
    (hadd : statements.foldlM Document.add? ⟨[], []⟩ = some d) :
    parse? (String.ofList cs) = some (.table (entryValues d.root)) := by
  simp only [parse?, String.toList_ofList, hscan, hadd, Option.map_some]

end EntityAudit.Toml
