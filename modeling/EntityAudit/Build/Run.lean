import EntityAudit.Config.Load
import EntityAudit.Manifest.Load
import EntityAudit.Store.Directory

/-!
# `EntityAudit.Build.Run` — from a manifest file to source files

A run loads the settings and the manifest and makes one pass into a directory.  It fails only if one of
the two cannot be loaded; what goes wrong with single types is in the report.

## Contents

* `BuildError`, `BuildError.message`
* `Build` — what a run does once it is set up
* `Build.setUp`, `Build.pass`, `Build.notices`
* `BuildOutcome`, `runBuild` — the whole run
-/

namespace EntityAudit

/-- Why a run could not be set up. -/
inductive BuildError where
  | config (error : ConfigError)
  | manifest (error : ManifestError)
deriving DecidableEq, Repr

/-- What is wrong, in words. -/
def BuildError.message : BuildError → String
  | config error => error.message
  | manifest error => error.message

/-- A run that is set up. -/
structure Build where
  generator : Generator
  manifestPath : Path
  manifest : Manifest
  outDir : Path

namespace Build

/-- Sets a run up from two files.  Artifacts go to the directory in the settings, or else to
`defaultOutDir`. -/
def setUp (v : Volume) (manifestPath configPath defaultOutDir : Path) : Except BuildError Build :=
  match Config.load v configPath with
  | .error e => .error (.config e)
  | .ok config =>
    match Manifest.load v manifestPath with
    | .error e => .error (.manifest e)
    | .ok manifest =>
      .ok ⟨config.generator.generator, manifestPath, manifest,
        config.generator.outDir.getD defaultOutDir⟩

/-- The pass of a run. -/
def pass (b : Build) (v : Volume) : Pass Volume :=
  b.generator.process (Directory.store b.outDir) {} b.manifest.types v

/-- What a run tells from its start to its end. -/
def notices (b : Build) (v : Volume) : List Notice :=
  .event (Manifest.loadedEvent b.manifestPath b.manifest) :: b.generator.announce ++ (b.pass v).notices

end Build

/-- What a run has done. -/
structure BuildOutcome where
  build : Build
  report : Report
  notices : List Notice

namespace BuildOutcome

/-- The diagnostics of a run. -/
def diagnostics (o : BuildOutcome) : List Diagnostic := diagnosticsOf o.notices

/-- The diagnostics that report errors. -/
def errors (o : BuildOutcome) : List Diagnostic := o.diagnostics.filter Diagnostic.isError

end BuildOutcome

/-- Runs a build on a volume. -/
def runBuild (v : Volume) (manifestPath configPath defaultOutDir : Path) :
    Except BuildError BuildOutcome × Volume :=
  match Build.setUp v manifestPath configPath defaultOutDir with
  | .error e => (.error e, v)
  | .ok b => (.ok ⟨b, (b.pass v).report, b.notices v⟩, (b.pass v).state)

end EntityAudit
