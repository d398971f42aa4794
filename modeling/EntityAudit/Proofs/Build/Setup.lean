import EntityAudit.Build.Run
import EntityAudit.Proofs.Generation.Account
import EntityAudit.Proofs.Generation.Runs

/-!
# `EntityAudit.Proofs.Build.Setup` — a run fails before it begins, or not at all

A run cannot be set up without settings or without a manifest.  When there are none is said here in terms of
the files: whether they can be read, what their texts stand for and which settings are blank.  A run that is
not set up touches nothing.  One that is makes its pass, and whatever goes wrong in the pass is in its report.

## Contents

* `IsBlank`, `isBlankText_iff` — texts that hold nothing but white space
* `Config.Loads`, `Config.load_eq_iff` — what comes of loading settings
* `Manifest.Loads`, `Manifest.load_eq_iff` — what comes of loading a manifest
* `BuildOutcome.IsOf` — the outcome of a run that makes its pass
* `runBuild_config_error`, `runBuild_manifest_error`, `runBuild_loaded` — the three ends of a run
* `Build.AllOrNothing`, `runBuild_allOrNothing` — a run that fails has done nothing
-/

namespace EntityAudit

/-! ## Settings -/

/-- A text holds nothing but white space. -/
def IsBlank (s : String) : Prop := ∀ c ∈ s.toList, Unicode.isBlank c = true

theorem isBlankText_iff {s : String} : isBlankText s = true ↔ IsBlank s := by
  unfold isBlankText IsBlank
  rw [List.isEmpty_iff, Unicode.trim_eq_nil_iff, List.all_eq_true]

theorem isBlankText_eq_false_iff {s : String} : isBlankText s = false ↔ ¬ IsBlank s := by
  rw [← isBlankText_iff, Bool.not_eq_true]

namespace Config

/-- What comes of loading settings.  There are the defaults where there is no file.  There are no settings if
the file cannot be read as a text, if its text does not stand for settings, or if one of them is blank; the
package is looked at before the suffix. -/
inductive Loads (v : Volume) (path : Path) : Except ConfigError Config → Prop where
  | absent (hread : v.readText path = .error (.system .notFound)) : Loads v path (.ok {})
  | unreadable {cause : IoError} (hread : v.readText path = .error cause)
      (hthere : cause ≠ .system .notFound) : Loads v path (.error (.unreadable path.text cause))
  | malformed {text : String} {fault : DocumentFault} (hread : v.readText path = .ok text)
      (htext : Config.schema.ofToml text = .error fault) :
      Loads v path (.error (.invalid path.text fault))
  | blankPackage {text : String} {c : Config} (hread : v.readText path = .ok text)
      (htext : Config.schema.ofToml text = .ok c) (hpackage : IsBlank c.generator.package) :
      Loads v path (.error (.blank "package"))
  | blankSuffix {text : String} {c : Config} (hread : v.readText path = .ok text)
      (htext : Config.schema.ofToml text = .ok c) (hpackage : ¬ IsBlank c.generator.package)
      (hsuffix : IsBlank c.generator.suffix) : Loads v path (.error (.blank "suffix"))
  | given {text : String} {c : Config} (hread : v.readText path = .ok text)
      (htext : Config.schema.ofToml text = .ok c) (hpackage : ¬ IsBlank c.generator.package)
      (hsuffix : ¬ IsBlank c.generator.suffix) : Loads v path (.ok c)

theorem loads_load (v : Volume) (path : Path) : Loads v path (Config.load v path) := by
  unfold Config.load
  split
  · rename_i hread
    exact .absent hread
  · rename_i cause hthere hread
    exact .unreadable hread hthere
  · rename_i text hread
    unfold Config.parseFrom
    split
    · rename_i fault htext
      exact .malformed hread htext
    · rename_i c htext
      unfold Config.validate Config.blankKey?
      cases hpackage : isBlankText c.generator.package with
      | true => exact .blankPackage hread htext (isBlankText_iff.mp hpackage)
      | false =>
          rw [isBlankText_eq_false_iff] at hpackage
          cases hsuffix : isBlankText c.generator.suffix with
          | true => exact .blankSuffix hread htext hpackage (isBlankText_iff.mp hsuffix)
          | false => exact .given hread htext hpackage (isBlankText_eq_false_iff.mp hsuffix)

/-- **Loading settings comes to what the file tells.** -/
theorem load_eq_iff {v : Volume} {path : Path} {r : Except ConfigError Config} :
    Config.load v path = r ↔ Loads v path r := by
  constructor
  · rintro rfl
    exact loads_load v path
  · intro h
    unfold Config.load
    cases h with
    | absent hread => rw [hread]
    | unreadable hread hthere =>
        rw [hread]
        split
        · rename_i heq
          cases heq
          exact absurd rfl hthere
        · rename_i heq
          cases heq
          rfl
        · rename_i heq
          cases heq
    | malformed hread htext =>
        rw [hread]
        simp only [Config.parseFrom, htext]
    | blankPackage hread htext hpackage =>
        rw [← isBlankText_iff] at hpackage
        rw [hread]
        simp [Config.parseFrom, htext, Config.validate, Config.blankKey?, hpackage]
    | blankSuffix hread htext hpackage hsuffix =>
        rw [← isBlankText_eq_false_iff] at hpackage
        rw [← isBlankText_iff] at hsuffix
        rw [hread]
        simp [Config.parseFrom, htext, Config.validate, Config.blankKey?, hpackage, hsuffix]
    | given hread htext hpackage hsuffix =>
        rw [← isBlankText_eq_false_iff] at hpackage hsuffix
        rw [hread]
        simp [Config.parseFrom, htext, Config.validate, Config.blankKey?, hpackage, hsuffix]

end Config

/-! ## Manifests -/

/-- The extension of files with documents of a kind. -/
def DocumentKind.extension : DocumentKind → String
  | toml => "toml"
  | json => "json"

theorem DocumentKind.ofExtension?_eq_some_iff {extension : Option String} {kind : DocumentKind} :
    DocumentKind.ofExtension? extension = some kind ↔ extension = some kind.extension := by
  unfold DocumentKind.ofExtension?
  split
  · cases kind <;> simp [DocumentKind.extension]
  · cases kind <;> simp [DocumentKind.extension]
  · rename_i htoml hjson
    cases kind <;> simp_all [DocumentKind.extension]

theorem DocumentKind.ofExtension?_eq_none_iff {extension : Option String} :
    DocumentKind.ofExtension? extension = none ↔ ∀ kind : DocumentKind, extension ≠ some kind.extension := by
  simp only [Option.eq_none_iff_forall_ne_some, ne_eq, ofExtension?_eq_some_iff]

namespace Manifest

/-- What comes of loading a manifest.  The extension is looked at first, before the file is; then the file
must be readable as a text, and the text must stand for a manifest in the format of the extension. -/
inductive Loads (v : Volume) (path : Path) : Except ManifestError Manifest → Prop where
  | unsupported (hkind : ∀ kind : DocumentKind, path.extension? ≠ some kind.extension) :
      Loads v path (.error (.unsupported path.text))
  | unreadable {kind : DocumentKind} {cause : IoError} (hkind : path.extension? = some kind.extension)
      (hread : v.readText path = .error cause) : Loads v path (.error (.unreadable path.text cause))
  | malformed {kind : DocumentKind} {text : String} {fault : DocumentFault}
      (hkind : path.extension? = some kind.extension) (hread : v.readText path = .ok text)
      (htext : Manifest.schema.ofText kind text = .error fault) :
      Loads v path (.error (.invalid kind fault))
  | given {kind : DocumentKind} {text : String} {m : Manifest}
      (hkind : path.extension? = some kind.extension) (hread : v.readText path = .ok text)
      (htext : Manifest.schema.ofText kind text = .ok m) : Loads v path (.ok m)

theorem loads_load (v : Volume) (path : Path) : Loads v path (Manifest.load v path) := by
  unfold Manifest.load
  cases hkind : DocumentKind.ofExtension? path.extension? with
  | none => exact .unsupported (DocumentKind.ofExtension?_eq_none_iff.mp hkind)
  | some kind =>
      rw [DocumentKind.ofExtension?_eq_some_iff] at hkind
      cases hread : v.readText path with
      | error cause => exact .unreadable hkind hread
      | ok text =>
          cases htext : Manifest.schema.ofText kind text with
          | error fault =>
              simp only [Manifest.parse, htext]
              exact .malformed hkind hread htext
          | ok m =>
              simp only [Manifest.parse, htext]
              exact .given hkind hread htext

/-- **Loading a manifest comes to what its name and the file tell.** -/
theorem load_eq_iff {v : Volume} {path : Path} {r : Except ManifestError Manifest} :
    Manifest.load v path = r ↔ Loads v path r := by
  constructor
  · rintro rfl
    exact loads_load v path
  · intro h
    unfold Manifest.load
    cases h with
    | unsupported hkind => rw [DocumentKind.ofExtension?_eq_none_iff.mpr hkind]
    | unreadable hkind hread => simp only [DocumentKind.ofExtension?_eq_some_iff.mpr hkind, hread]
    | malformed hkind hread htext =>
        simp only [DocumentKind.ofExtension?_eq_some_iff.mpr hkind, hread, Manifest.parse, htext]
    | given hkind hread htext =>
        simp only [DocumentKind.ofExtension?_eq_some_iff.mpr hkind, hread, Manifest.parse, htext]

end Manifest

/-! ## Runs -/

/-- The outcome of a run is that of the pass that a generator makes into a directory. -/
structure BuildOutcome.IsOf (o : BuildOutcome) (g : Generator) (outDir : Path) (pass : Pass Volume) :
    Prop where
  generator : o.build.generator = g
  outDir : o.build.outDir = outDir
  report : o.report = pass.report
  /-- The generator speaks first. -/
  diagnostics : o.diagnostics = diagnosticsOf (g.announce ++ pass.notices)

section Ends

variable {v : Volume} {manifestPath configPath : Path} (defaultOutDir : Path)

theorem runBuild_config_error {e : ConfigError} (h : Config.load v configPath = .error e) :
    runBuild v manifestPath configPath defaultOutDir = (.error (.config e), v) := by
  unfold runBuild Build.setUp
  rw [h]

theorem runBuild_manifest_error {c : Config} {e : ManifestError} (hconfig : Config.load v configPath = .ok c)
    (h : Manifest.load v manifestPath = .error e) :
    runBuild v manifestPath configPath defaultOutDir = (.error (.manifest e), v) := by
  unfold runBuild Build.setUp
  rw [hconfig]
  simp only [h]

/-- A run with settings and a manifest makes its pass. -/
theorem runBuild_loaded {c : Config} {m : Manifest} (hconfig : Config.load v configPath = .ok c)
    (hmanifest : Manifest.load v manifestPath = .ok m) :
    let outDir := c.generator.outDir.getD defaultOutDir
    let pass := c.generator.generator.process (Directory.store outDir) {} m.types v
    ∃ o, runBuild v manifestPath configPath defaultOutDir = (.ok o, pass.state)
      ∧ o.IsOf c.generator.generator outDir pass := by
  intro outDir pass
  let b : Build := ⟨c.generator.generator, manifestPath, m, outDir⟩
  have hsetUp : Build.setUp v manifestPath configPath defaultOutDir = .ok b := by
    unfold Build.setUp
    rw [hconfig]
    simp only [hmanifest]
    rfl
  refine ⟨⟨b, (b.pass v).report, b.notices v⟩, ?_, rfl, rfl, rfl, ?_⟩
  · unfold runBuild
    rw [hsetUp]
    rfl
  · -- What is logged about the manifest is no diagnostic.
    rfl

end Ends

/-- A run either fails in loading settings or a manifest and has done nothing, or makes its pass. -/
structure Build.AllOrNothing (v : Volume) (manifestPath configPath defaultOutDir : Path)
    (r : Except BuildError BuildOutcome × Volume) : Prop where
  fails_iff : (∃ e, r.1 = .error e) ↔
    (∃ e, Config.load v configPath = .error e) ∨ ∃ e, Manifest.load v manifestPath = .error e
  /-- A fault in the settings is the one that is reported, whatever the manifest is. -/
  config_first : ∀ {e}, Config.Loads v configPath (.error e) → r.1 = .error (.config e)
  manifest_next : ∀ {c e}, Config.Loads v configPath (.ok c) → Manifest.Loads v manifestPath (.error e) →
    r.1 = .error (.manifest e)
  untouched : ∀ {e}, r.1 = .error e → r.2 = v
  /-- Whatever fails in the pass is in the report, one outcome for each piece of work. -/
  passes : ∀ {c m}, Config.Loads v configPath (.ok c) → Manifest.Loads v manifestPath (.ok m) →
    let outDir := c.generator.outDir.getD defaultOutDir
    let pass := c.generator.generator.process (Directory.store outDir) {} m.types v
    (∃ o, r.1 = .ok o ∧ o.IsOf c.generator.generator outDir pass) ∧ r.2 = pass.state
      ∧ pass.report.written.length + pass.report.failures.length
        = (c.generator.generator.tasks m.types).length

/-- **A run is all or nothing on its setup.** -/
theorem runBuild_allOrNothing (v : Volume) (manifestPath configPath defaultOutDir : Path) :
    Build.AllOrNothing v manifestPath configPath defaultOutDir
      (runBuild v manifestPath configPath defaultOutDir) := by
  -- Loading comes to one result only.
  have hconfigs {r s} (hr : Config.load v configPath = r) (hs : Config.Loads v configPath s) : r = s :=
    hr.symm.trans (Config.load_eq_iff.mpr hs)
  have hmanifests {r s} (hr : Manifest.load v manifestPath = r) (hs : Manifest.Loads v manifestPath s) :
      r = s := hr.symm.trans (Manifest.load_eq_iff.mpr hs)
  cases hconfig : Config.load v configPath with
  | error e =>
      rw [runBuild_config_error defaultOutDir hconfig]
      refine ⟨⟨fun _ => Or.inl ⟨e, hconfig⟩, fun _ => ⟨_, rfl⟩⟩, ?_, ?_, fun _ => rfl, ?_⟩
      · intro f h
        cases hconfigs hconfig h
        rfl
      · intro c f h
        cases hconfigs hconfig h
      · intro c m h
        cases hconfigs hconfig h
  | ok c =>
      cases hmanifest : Manifest.load v manifestPath with
      | error e =>
          rw [runBuild_manifest_error defaultOutDir hconfig hmanifest]
          refine ⟨⟨fun _ => Or.inr ⟨e, hmanifest⟩, fun _ => ⟨_, rfl⟩⟩, ?_, ?_, fun _ => rfl, ?_⟩
          · intro f h
            cases hconfigs hconfig h
          · intro d f _ h
            cases hmanifests hmanifest h
            rfl
          · intro d m _ h
            cases hmanifests hmanifest h
      | ok m =>
          obtain ⟨o, hrun, hof⟩ := runBuild_loaded defaultOutDir hconfig hmanifest
          rw [hrun]
          refine ⟨⟨?_, ?_⟩, ?_, ?_, ?_, ?_⟩
          · rintro ⟨e, h⟩
            cases h
          · rintro (⟨e, h⟩ | ⟨e, h⟩)
            · rw [hconfig] at h
              cases h
            · rw [hmanifest] at h
              cases h
          · intro e h
            cases hconfigs hconfig h
          · intro d e _ h
            cases hmanifests hmanifest h
          · intro e h
            cases h
          · intro d n hd hn
            cases hconfigs hconfig hd
            cases hmanifests hmanifest hn
            refine ⟨⟨o, rfl, hof⟩, rfl, ?_⟩
            rw [written_process _ _ rfl, failures_process _ _ rfl, length_written_add_length_failures,
              length_outcomes_runTasks]

end EntityAudit
