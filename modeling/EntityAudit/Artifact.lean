import EntityAudit.Fingerprint.Basic
import EntityAudit.Path.SourcePath

/-!
# `EntityAudit.Artifact` — one finished source file

## Contents

* `Artifact` — contents under the qualified name of a type
* `Artifact.bytes`, `Artifact.fingerprint`, `Artifact.path`
-/

namespace EntityAudit

/-- A finished source file under the qualified name of the type that it declares. -/
structure Artifact where
  qualifiedName : String
  contents : String
deriving DecidableEq, Repr

namespace Artifact

/-- The contents in UTF-8. -/
def bytes (a : Artifact) : ByteArray := a.contents.toUTF8

/-- The fingerprint of the contents. -/
def fingerprint (a : Artifact) : Fingerprint := Fingerprint.of a.bytes

/-- The place of the file below the directory of sources. -/
def path (a : Artifact) : Path := sourcePath a.qualifiedName

end Artifact

end EntityAudit
