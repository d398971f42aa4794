/-!
# `EntityAudit.Java.Source` — source text as lines

A source file is a list of lines, each with its depth; it is written with one tab per level, and every
line is ended.

## Contents

* `Line`, `Line.blank` — a line
* `render` — the text of a list of lines
* `render_append` — texts of consecutive lines
-/

namespace EntityAudit.Java

/-- A line of source text without its indentation. -/
structure Line where
  depth : Nat
  text : String
deriving DecidableEq, Repr

/-- An empty line. -/
def Line.blank : Line := ⟨0, ""⟩

/-- The characters of a line with its indentation and its end. -/
def Line.chars (l : Line) : List Char :=
  List.replicate l.depth '\t' ++ l.text.toList ++ ['\n']

/-- The text of a list of lines. -/
def render (lines : List Line) : String := String.ofList (lines.flatMap Line.chars)

theorem toList_render (lines : List Line) : (render lines).toList = lines.flatMap Line.chars :=
  String.toList_ofList

/-- Lines one after the other have texts one after the other. -/
theorem render_append (xs ys : List Line) : render (xs ++ ys) = render xs ++ render ys := by
  simp [render, String.ofList_append]

end EntityAudit.Java
