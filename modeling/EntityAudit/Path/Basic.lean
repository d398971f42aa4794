/-!
# `EntityAudit.Path.Basic` — paths as they are written

A path keeps its spelling, because the spelling is shown in messages and a slash at the end asks for a
directory.  Its steps are the parts between slashes.

## Contents

* `Path`, `Path.isAbsolute`, `Path.steps`, `Path.asksDirectory`
* `Path.push` — one path below another
* `Path.parentSteps?`, `Path.parentSize` — a path without its last step
* `Path.fileName?`, `Path.extension?`
* `Path.withExtension` — a file name with an extension
-/

namespace EntityAudit

/-- A path as it is written. -/
structure Path where
  text : String
deriving DecidableEq, Repr

namespace Path

/-! ## Steps -/

/-- Whether a path begins at the top. -/
def isAbsolute (p : Path) : Bool := p.text.toList.head? == some '/'

/-- The parts between slashes, apart from empty ones. -/
def parts (p : Path) : List String :=
  ((p.text.toList.splitOn '/').filter (· ≠ [])).map String.ofList

/-- Whether the path can only mean a directory, because a slash ends it. -/
def asksDirectory (p : Path) : Bool := p.text.toList.getLast? == some '/'

/-- The steps of a path: its parts, without those that stay in place.  A path that begins by staying in
place keeps this first step. -/
def steps (p : Path) : List String :=
  match p.parts with
  | [] => []
  | first :: rest =>
    if first = "." && p.isAbsolute then rest.filter (· ≠ ".")
    else first :: rest.filter (· ≠ ".")

/-- The steps without the last one, if there is one. -/
def parentSteps? (p : Path) : Option (List String) :=
  match p.steps with
  | [] => none
  | first :: rest => some (first :: rest).dropLast

/-- Whether a part between slashes stays in place. -/
def staysInPlace (part : List Char) : Bool := part = [] || part = ['.']

/-- The parts between slashes that spell a path without its last step.  What stays in place goes if no step
follows it any more. -/
def parentParts (p : Path) : List (List Char) :=
  let upward := (p.text.toList.splitOn '/').reverse.dropWhile staysInPlace
  ((upward.drop 1).dropWhile staysInPlace).reverse

/-- The number of bytes of a path without its last step. -/
def parentSize (p : Path) : Nat := (String.ofList (['/'].intercalate p.parentParts)).utf8ByteSize

/-- The name of the file that a path means: its last step, unless that goes up or stays in place. -/
def fileName? (p : Path) : Option String :=
  match p.steps.getLast? with
  | none => none
  | some step => if step = "." || step = ".." then none else some step

/-! ## Composition -/

/-- The spelling of a path below another; one that begins at the top replaces what precedes it.  The path
above, and the result, are spelled backwards. -/
def pushBackwards (base next : List Char) : List Char :=
  if next.head? = some '/' then next.reverse
  else if base = [] || base.head? = some '/' then next.reverse ++ base
  else next.reverse ++ '/' :: base

/-- One path below another. -/
def push (base next : Path) : Path :=
  ⟨String.ofList (pushBackwards base.text.toList.reverse next.text.toList).reverse⟩

/-! ## Extensions -/

/-- The extension in a file name: what follows its last dot, if that is not its first character. -/
def extensionOf (name : List Char) : Option (List Char) :=
  match (name.splitOn '.').reverse with
  | last :: before :: more => if before = [] && more = [] then none else some last
  | _ => none

/-- The extension of a path. -/
def extension? (p : Path) : Option String :=
  match p.fileName? with
  | none => none
  | some name => (extensionOf name.toList).map String.ofList

/-- A text without the slashes at its end. -/
def dropFinalSlashes (cs : List Char) : List Char :=
  (cs.reverse.dropWhile (· = '/')).reverse

/-- A path whose file name has no dot, with an extension; slashes after the file name go.  A path that
means no file stays as it is. -/
def withExtension (p : Path) (extension : String) : Path :=
  match dropFinalSlashes p.text.toList with
  | [] => p
  | cs => ⟨String.ofList (cs ++ '.' :: extension.toList)⟩

end Path

end EntityAudit
