import EntityAudit.Path.Basic

/-!
# `EntityAudit.Path.SourcePath` — where the source of a type belongs

The packages of a type become directories and its name becomes a file.

## Contents

* `sourceExtension`, `sourcePath`
-/

namespace EntityAudit

/-- The extension of source files. -/
def sourceExtension : String := "java"

/-- The path that the segments of a qualified name spell. -/
def segmentPath (segments : List (List Char)) : List Char :=
  (segments.foldl Path.pushBackwards []).reverse

/-- The path of the source of a type, from its qualified name. -/
def sourcePath (qualifiedName : String) : Path :=
  Path.withExtension ⟨String.ofList (segmentPath (qualifiedName.toList.splitOn '.'))⟩ sourceExtension

end EntityAudit
