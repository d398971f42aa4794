import EntityAudit.Domain.Naming
import EntityAudit.Generation.Pass
import EntityAudit.Path.Basic
import EntityAudit.Unicode.Blank

/-!
# `EntityAudit.Config.Basic` — the settings of a project

Every setting has a default.  Only a package or a suffix that holds nothing but white space is refused.

## Contents

* `GeneratorConfig`, `Config`
* `GeneratorConfig.naming`, `GeneratorConfig.generator` — the generator that they configure
* `Config.blankKey?` — the first setting that must not be empty but is
-/

namespace EntityAudit

/-- The settings of the generator. -/
structure GeneratorConfig where
  package : String := ({} : Naming).package
  suffix : String := ({} : Naming).suffix
  /-- The directory of artifacts, if it is not the one that the host names. -/
  outDir : Option Path := none
  emitInterface : Bool := false
deriving DecidableEq, Repr

namespace GeneratorConfig

/-- The naming of audit types. -/
def naming (c : GeneratorConfig) : Naming := ⟨c.package, c.suffix⟩

/-- The generator with these settings. -/
def generator (c : GeneratorConfig) : Generator := ⟨c.naming, c.emitInterface⟩

end GeneratorConfig

/-- The settings of a project. -/
structure Config where
  generator : GeneratorConfig := {}
deriving DecidableEq, Repr

/-- Whether a text holds nothing but white space. -/
def isBlankText (s : String) : Bool := (Unicode.trim s.toList).isEmpty

/-- The first setting that must not be empty but is. -/
def Config.blankKey? (c : Config) : Option String :=
  if isBlankText c.generator.package then some "package"
  else if isBlankText c.generator.suffix then some "suffix"
  else none

end EntityAudit
