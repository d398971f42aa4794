import EntityAudit.Build.Hosted
import EntityAudit.Proofs.Build.Setup
import EntityAudit.Proofs.Document.Json.RoundTrip
import EntityAudit.Proofs.Generation.Failures
import EntityAudit.Proofs.Generation.Isolation

/-!
# `EntityAudit.Proofs.Build.Directives` — the lines that a run prints for its host

A run inside of a larger build prints one directive for each file to be watched, and a warning for each
failure.  A warning is printed as it is, so a diagnosis with a line break takes more than one line, and what
follows the break is a line of its own.  A diagnosis holds names as they are given, so it has a line break
only if the suffix, or the name of a type or of a column, has one.

## Contents

* `linesIn`, `lines_eq` — the lines of an output are those of the pieces that were printed
* `linesIn_eq_singleton`, `isLine_of_length_linesIn` — pieces of one line
* `errors_of_runBuild`, `lines_runHosted` — the errors and the lines of a run that succeeds
* `HostedRun.SpeaksOnly`, `speaksOnly_iff_isLine` — one line for each failure
* `HostedRun.Speaks`, `speaks_runHosted` — what a run says
* `manifestVolume`, `failures_of_faults` — runs on one manifest
* `speaks_runHosted_faulty`, `not_speaksOnly_broken` — two faults, and a name with a line break
-/

namespace EntityAudit

/-! ## Lines -/

/-- The lines of a piece of output with a line break behind it. -/
def linesIn (piece : String) : List String :=
  (piece.toList.splitOn '\n').map (fun line => String.ofList (dropReturn line))

/-- The lines of an output are those of its pieces. -/
theorem lines_eq (r : HostedRun) : r.lines = r.printed.flatMap linesIn := by
  have hsplit (pieces : List String) :
      ((pieces.flatMap (fun piece => piece.toList ++ ['\n'])).splitOn '\n').dropLast
        = pieces.flatMap (fun piece => piece.toList.splitOn '\n') := by
    induction pieces with
    | nil => rfl
    | cons piece rest ih =>
        rw [List.flatMap_cons, List.append_assoc, List.singleton_append, List.splitOn_append_cons_self,
          List.dropLast_append_of_ne_nil (List.splitOn_ne_nil '\n' _), ih, List.flatMap_cons]
  unfold HostedRun.lines linesOf HostedRun.output
  rw [hsplit, List.map_map, List.map_flatMap]
  rfl

/-- A piece without a line break is one line, unless a carriage return at its end belongs to the break behind
it. -/
theorem linesIn_eq_singleton {s : String} (h : IsLine s) (hreturn : s.toList.getLast? ≠ some '\r') :
    linesIn s = [s] := by
  have hsplit : s.toList.splitOn '\n' = [s.toList] := by
    have hpieces : ∀ piece ∈ [s.toList], '\n' ∉ piece := by
      intro piece hpiece
      rw [List.mem_singleton.mp hpiece]
      exact h
    have hjoined := List.splitOn_intercalate '\n' hpieces (List.cons_ne_nil _ _)
    rw [List.intercalate_singleton] at hjoined
    exact hjoined
  unfold linesIn dropReturn
  rw [hsplit, List.map_singleton, if_neg hreturn, String.ofList_toList]

theorem length_linesIn_pos (s : String) : 0 < (linesIn s).length := by
  unfold linesIn
  rw [List.length_map]
  exact List.length_pos_iff.mpr (List.splitOn_ne_nil '\n' s.toList)

/-- A piece with a line break is more than one line. -/
theorem isLine_of_length_linesIn {s : String} (h : (linesIn s).length ≤ 1) : IsLine s := by
  intro hmem
  obtain ⟨before, after, hparts⟩ := List.append_of_mem hmem
  have hbefore := List.length_pos_iff.mpr (List.splitOn_ne_nil '\n' before)
  have hafter := List.length_pos_iff.mpr (List.splitOn_ne_nil '\n' after)
  unfold linesIn at h
  rw [hparts, List.length_map, List.splitOn_append_cons_self, List.length_append] at h
  omega

/-! ## Runs -/

section Runs

variable {v w : Volume} {manifestPath configPath dir : Path} {o : BuildOutcome}

/-- What a run tells is what its pass tells, after what the generator says at the start. -/
theorem notices_of_runBuild (h : runBuild v manifestPath configPath dir = (.ok o, w)) :
    o.report = (o.build.pass v).report ∧ o.notices = o.build.notices v := by
  unfold runBuild at h
  split at h
  · cases h
  · cases h
    exact ⟨rfl, rfl⟩

/-- **The errors of a run are its failures**, in order. -/
theorem errors_of_runBuild (h : runBuild v manifestPath configPath dir = (.ok o, w)) :
    o.errors.map Diagnostic.message
      = o.report.failures.map (Failure.diagnosis o.build.generator.naming.suffix) := by
  obtain ⟨hreport, hnotices⟩ := notices_of_runBuild h
  show errorMessages (diagnosticsOf o.notices) = _
  rw [hnotices, hreport, Build.notices, diagnosticsOf_append, errorMessages_append]
  exact errors_process o.build.generator _ rfl o.build.manifest.types v

/-- A run that succeeds inside of a larger build has warned of its errors. -/
theorem runHosted_of_ok (h : (runHosted v manifestPath (some dir)).result = .ok ()) :
    ∃ o w, runBuild v manifestPath ⟨configFileName⟩ (artifactsDir dir) = (.ok o, w)
      ∧ (runHosted v manifestPath (some dir)).printed
        = watches manifestPath ++ (o.errors.map Diagnostic.message).map warning := by
  cases hrun : runBuild v manifestPath ⟨configFileName⟩ (artifactsDir dir) with
  | mk result w =>
      cases result with
      | error e =>
          simp only [runHosted, hrun] at h
          cases h
      | ok o =>
          refine ⟨o, w, rfl, ?_⟩
          simp only [runHosted, hrun, List.map_map]
          rfl

end Runs

/-! ## Lines of runs -/

/-- Each watched file takes one line, if the path of the manifest has no line break. -/
theorem flatMap_linesIn_watches {manifestPath : Path} (hbreak : IsLine manifestPath.text)
    (hreturn : '\r' ∉ manifestPath.text.toList) :
    (watches manifestPath).flatMap linesIn = watches manifestPath := by
  have hwatch (file : String) (hfile : IsLine file) (hnone : '\r' ∉ file.toList) :
      linesIn (watch file) = [watch file] := by
    apply linesIn_eq_singleton
    · have hdirective : IsLine "cargo:rerun-if-changed=" := by decide
      exact hdirective.append hfile
    · intro hlast
      have hmem := List.mem_of_getLast? hlast
      unfold watch at hmem
      rw [String.toList_append, List.mem_append] at hmem
      rcases hmem with hdirective | hmem
      · exact absurd hdirective (by decide)
      · exact hnone hmem
  have hscript := hwatch "build.rs" (by decide) (by decide)
  have hconfig := hwatch configFileName (by decide) (by decide)
  unfold watches
  simp only [List.flatMap_cons, List.flatMap_nil, hscript, hwatch _ hbreak hreturn, hconfig]
  rfl

/-- **The lines of a run that succeeds**: the watched files, and then those of the warning of each failure. -/
theorem lines_runHosted {v : Volume} {manifestPath dir : Path} (hbreak : IsLine manifestPath.text)
    (hreturn : '\r' ∉ manifestPath.text.toList)
    (h : (runHosted v manifestPath (some dir)).result = .ok ()) :
    ∃ o w, runBuild v manifestPath ⟨configFileName⟩ (artifactsDir dir) = (.ok o, w)
      ∧ (runHosted v manifestPath (some dir)).lines = watches manifestPath
        ++ o.report.failures.flatMap
          (fun f => linesIn (warning (f.diagnosis o.build.generator.naming.suffix))) := by
  obtain ⟨o, w, hrun, hprinted⟩ := runHosted_of_ok h
  refine ⟨o, w, hrun, ?_⟩
  rw [lines_eq, hprinted, List.flatMap_append, flatMap_linesIn_watches hbreak hreturn,
    errors_of_runBuild hrun, List.map_map, List.flatMap_map]
  rfl

/-! ## One line for each failure -/

/-- A run prints nothing but its directives: which files are to be watched, and one warning for each
failure. -/
def HostedRun.SpeaksOnly (r : HostedRun) (manifestPath : Path) (failures : List Failure) : Prop :=
  ∃ warnings, r.lines = watches manifestPath ++ warnings ∧ warnings.length = failures.length
    ∧ ∀ line ∈ warnings, (warning "").toList <+: line.toList

section Pieces

variable {α β : Type} {pieces : α → List β} {xs : List α}

theorem length_le_length_flatMap (hpos : ∀ x, 0 < (pieces x).length) :
    xs.length ≤ (xs.flatMap pieces).length := by
  induction xs with
  | nil => exact Nat.zero_le _
  | cons x rest ih =>
      have hx := hpos x
      rw [List.flatMap_cons, List.length_append, List.length_cons]
      omega

/-- As many pieces as there are lists of pieces, none of them empty, are one from each list. -/
theorem length_le_one_of_length_flatMap (hpos : ∀ x, 0 < (pieces x).length)
    (h : (xs.flatMap pieces).length = xs.length) : ∀ x ∈ xs, (pieces x).length ≤ 1 := by
  induction xs with
  | nil => exact fun x hx => absurd hx List.not_mem_nil
  | cons x rest ih =>
      have hx := hpos x
      have hrest : rest.length ≤ (rest.flatMap pieces).length := length_le_length_flatMap hpos
      rw [List.flatMap_cons, List.length_append, List.length_cons] at h
      intro y hy
      rcases List.mem_cons.mp hy with rfl | hmem
      · omega
      · exact ih (by omega) y hmem

end Pieces

/-- **A run prints one line for each failure exactly if no diagnosis has a line break.** -/
theorem speaksOnly_iff_isLine {r : HostedRun} {manifestPath : Path} {failures : List Failure}
    {suffix : String} (h : r.lines = watches manifestPath
      ++ failures.flatMap (fun f => linesIn (warning (f.diagnosis suffix)))) :
    r.SpeaksOnly manifestPath failures ↔ ∀ f ∈ failures, IsLine (f.diagnosis suffix) := by
  constructor
  · rintro ⟨warnings, hlines, hlength, -⟩ f hf
    rw [h] at hlines
    rw [← List.append_cancel_left hlines] at hlength
    -- Every warning takes a line at least, so as many lines as failures leave one to each of them.
    have hline := isLine_of_length_linesIn
      (length_le_one_of_length_flatMap (fun _ => length_linesIn_pos _) hlength f hf)
    unfold IsLine warning at hline
    rw [String.toList_append, List.mem_append, not_or] at hline
    exact hline.2
  · intro hlines
    have hone : ∀ f ∈ failures,
        linesIn (warning (f.diagnosis suffix)) = [warning (f.diagnosis suffix)] := by
      intro f hf
      have hdirective : IsLine "cargo:warning=" := by decide
      apply linesIn_eq_singleton (hdirective.append (hlines f hf))
      -- A carriage return at the end would be the last character of the diagnosis.
      cases hlast : (f.diagnosis suffix).toList.getLast? with
      | none =>
          rw [String.toList_append, List.getLast?_append, hlast]
          decide
      | some c =>
          rw [getLast?_append_toList hlast, ← hlast]
          exact getLast?_diagnosis f suffix
    refine ⟨failures.map (fun f => warning (f.diagnosis suffix)), ?_, List.length_map _, ?_⟩
    · rw [h, List.flatMap_congr hone, List.map_eq_flatMap]
    · intro line hline
      obtain ⟨f, -, rfl⟩ := List.mem_map.mp hline
      unfold warning
      rw [String.toList_append, String.toList_append]
      exact List.prefix_append _ _

/-- What a run that succeeds says. -/
structure HostedRun.Speaks (r : HostedRun) (manifestPath : Path) (o : BuildOutcome) : Prop where
  /-- The warning of each failure is printed as it is. -/
  lines_eq : r.lines = watches manifestPath ++ o.report.failures.flatMap
    (fun f => linesIn (warning (f.diagnosis o.build.generator.naming.suffix)))
  speaksOnly_iff : r.SpeaksOnly manifestPath o.report.failures ↔
    ∀ f ∈ o.report.failures, IsLine (f.diagnosis o.build.generator.naming.suffix)
  /-- Packages, references and the texts of errors do not matter. -/
  speaksOnly_of_names : IsLine o.build.generator.naming.suffix →
    (∀ t ∈ auditableTypes o.build.manifest.types, IsLine t.name ∧ ∀ m ∈ t.columns, IsLine m.name) →
    r.SpeaksOnly manifestPath o.report.failures

/-- **A run says one line for each failure as long as the names it was given have no line break**; a line
break in a diagnosis is one in the output. -/
theorem speaks_runHosted {v : Volume} {manifestPath dir : Path} (hbreak : IsLine manifestPath.text)
    (hreturn : '\r' ∉ manifestPath.text.toList)
    (h : (runHosted v manifestPath (some dir)).result = .ok ()) :
    ∃ o w, runBuild v manifestPath ⟨configFileName⟩ (artifactsDir dir) = (.ok o, w)
      ∧ (runHosted v manifestPath (some dir)).Speaks manifestPath o := by
  obtain ⟨o, w, hrun, hlines⟩ := lines_runHosted hbreak hreturn h
  have hiff := speaksOnly_iff_isLine hlines
  refine ⟨o, w, hrun, hlines, hiff, ?_⟩
  intro hsuffix hnames
  rw [hiff]
  intro f hf
  rw [(notices_of_runBuild hrun).1] at hf
  obtain ⟨task, htask, hfails⟩ := exists_task_of_mem_failures o.build.generator _ rfl _ v hf
  apply hfails.isLine_diagnosis hsuffix
  rintro t rfl
  exact hnames t (mem_auditableTypes_of_mem_tasks htask)

/-! ## Runs on one manifest -/

/-- A directory with nothing but the file of a manifest. -/
def manifestVolume (m : Manifest) : Volume :=
  (Volume.scratch "b").put ((Place.top.below "b").below "types.json")
    (.file (Manifest.schema.toJson m).toUTF8)

theorem fromUTF8?_toUTF8 (s : String) : String.fromUTF8? s.toUTF8 = some s := by
  unfold String.fromUTF8?
  exact dif_pos s.isValidUTF8

theorem config_load_manifestVolume (m : Manifest) :
    Config.load (manifestVolume m) ⟨configFileName⟩ = .ok {} := by
  rw [Config.load_eq_iff]
  apply Config.Loads.absent
  rfl

theorem manifest_load_manifestVolume (m : Manifest) :
    Manifest.load (manifestVolume m) ⟨"types.json"⟩ = .ok m := by
  have hread : (manifestVolume m).readText ⟨"types.json"⟩ = .ok (Manifest.schema.toJson m) := by
    have hbytes : (manifestVolume m).read ⟨"types.json"⟩ = .ok (Manifest.schema.toJson m).toUTF8 := by
      rfl
    unfold Volume.readText
    rw [hbytes]
    simp only [fromUTF8?_toUTF8]
  have hextension : (Path.mk "types.json").extension? = some DocumentKind.json.extension := by rfl
  have htext : Manifest.schema.ofText .json (Manifest.schema.toJson m) = .ok m := ofJson_toJson (by decide) m
  rw [Manifest.load_eq_iff]
  exact .given hextension hread htext

/-- The run on such a manifest succeeds, and makes its pass with the default settings. -/
theorem exists_runBuild_manifestVolume (m : Manifest) (dir : Path) :
    ∃ o w, runBuild (manifestVolume m) ⟨"types.json"⟩ ⟨configFileName⟩ dir = (.ok o, w)
      ∧ o.build.generator = {} ∧ o.report
        = (({} : Generator).process (Directory.store dir) {} m.types (manifestVolume m)).report := by
  obtain ⟨o, hrun, hof⟩ :=
    runBuild_loaded dir (config_load_manifestVolume m) (manifest_load_manifestVolume m)
  exact ⟨o, _, hrun, hof.generator, hof.report⟩

theorem runBuild_manifestVolume {m : Manifest} {dir : Path} {o : BuildOutcome} {w : Volume}
    (h : runBuild (manifestVolume m) ⟨"types.json"⟩ ⟨configFileName⟩ dir = (.ok o, w)) :
    o.build.generator = {} ∧ o.report
      = (({} : Generator).process (Directory.store dir) {} m.types (manifestVolume m)).report := by
  obtain ⟨p, u, hrun, hsettings⟩ := exists_runBuild_manifestVolume m dir
  obtain rfl : o = p := by
    have heq := h.symm.trans hrun
    cases heq
    rfl
  exact hsettings

theorem runHosted_manifestVolume (m : Manifest) (dir : Path) :
    (runHosted (manifestVolume m) ⟨"types.json"⟩ (some dir)).result = .ok () := by
  obtain ⟨o, w, hrun, -⟩ := exists_runBuild_manifestVolume m (artifactsDir dir)
  simp only [runHosted, hrun]

/-- Types that all have a fault make a pass fail with these faults, in order. -/
theorem outcomes_of_faults {σ κ : Type} (g : Generator) (store : Store σ κ) {types : List DomainType}
    {faults : List ExtractionError}
    (h : List.Forall₂ (fun t e => AuditType.ofDomain g.naming t = .error e) types faults) (s : σ) :
    (g.runTasks store (types.map .type) s).outcomes = faults.map fun e => .failed (.extraction e) := by
  induction h generalizing s with
  | nil => rfl
  | @cons t e types faults hfault _ ih =>
      obtain ⟨-, houtcome, -⟩ := runTask_rejected g store hfault s
      rw [List.map_cons, Generator.runTasks, List.map_cons]
      simp only [houtcome, ih]

/-- The failures of the run on a manifest whose types are all audited and all have a fault. -/
theorem failures_of_faults {types : List DomainType} {faults : List ExtractionError} {dir : Path}
    {o : BuildOutcome} {w : Volume}
    (h : runBuild (manifestVolume ⟨types⟩) ⟨"types.json"⟩ ⟨configFileName⟩ dir = (.ok o, w))
    (hwanted : ({} : Generator).tasks types = types.map .type)
    (hfaults : List.Forall₂ (fun t e => AuditType.ofDomain {} t = .error e) types faults) :
    o.report.failures = faults.map .extraction := by
  rw [(runBuild_manifestVolume h).2, failures_process _ _ rfl, hwanted, outcomes_of_faults _ _ hfaults,
    List.filterMap_map]
  exact congrFun List.filterMap_eq_map faults

/-! ### Two types with a fault -/

/-- A car with a column that no getter reads, and a boat with a column of no value type. -/
def faultyTypes : List DomainType :=
  [⟨"Car", "a", [.auditable], [⟨"isSold", ⟨"java.lang.Boolean"⟩, [.column]⟩]⟩,
   ⟨"Boat", "a", [.auditable], [⟨"getHull", ⟨"a.Hull"⟩, [.column]⟩]⟩]

/-- The directory of a manifest with these types. -/
def faultyVolume : Volume := manifestVolume ⟨faultyTypes⟩

/-- The run says one line for each of the two faults. -/
theorem speaks_runHosted_faulty :
    IsLine "types.json" ∧ '\r' ∉ "types.json".toList
      ∧ (runHosted faultyVolume ⟨"types.json"⟩ (some ⟨"out"⟩)).result = .ok ()
      ∧ ∃ o w, runBuild faultyVolume ⟨"types.json"⟩ ⟨configFileName⟩ (artifactsDir ⟨"out"⟩) = (.ok o, w)
        ∧ (runHosted faultyVolume ⟨"types.json"⟩ (some ⟨"out"⟩)).Speaks ⟨"types.json"⟩ o
        ∧ o.report.failures = [.extraction (.malformedAccessorName "Car" "isSold"),
            .extraction (.unresolvedFieldType "Boat" "getHull" "a.Hull")]
        ∧ (runHosted faultyVolume ⟨"types.json"⟩ (some ⟨"out"⟩)).SpeaksOnly ⟨"types.json"⟩
          o.report.failures := by
  have hbreak : IsLine "types.json" := by decide
  have hreturn : '\r' ∉ "types.json".toList := by decide
  have hok : (runHosted faultyVolume ⟨"types.json"⟩ (some ⟨"out"⟩)).result = .ok () :=
    runHosted_manifestVolume ⟨faultyTypes⟩ ⟨"out"⟩
  obtain ⟨o, w, hrun, hspeaks⟩ := speaks_runHosted hbreak hreturn hok
  have hgenerator : o.build.generator = {} := (runBuild_manifestVolume hrun).1
  have hwanted : ({} : Generator).tasks faultyTypes = faultyTypes.map .type := by decide +kernel
  have hfaults : List.Forall₂ (fun t e => AuditType.ofDomain {} t = .error e) faultyTypes
      [.malformedAccessorName "Car" "isSold", .unresolvedFieldType "Boat" "getHull" "a.Hull"] :=
    .cons (by decide +kernel) (.cons (by decide +kernel) .nil)
  have hfailures := failures_of_faults hrun hwanted hfaults
  refine ⟨hbreak, hreturn, hok, o, w, hrun, hspeaks, hfailures, ?_⟩
  rw [hspeaks.speaksOnly_iff, hfailures, hgenerator]
  -- The names of types and columns in the two diagnoses have no line break, and so neither have these.
  simp only [List.map_cons, List.map_nil, List.forall_mem_cons]
  refine ⟨?_, ?_, nofun⟩
  · exact isLine_diagnosis_extraction (by decide) (by decide) (by decide)
  · exact isLine_diagnosis_extraction (by decide) (by decide) (by decide)

/-! ### A name with a line break -/

/-- A type whose name has a line break, and a directive behind it. -/
def brokenType : DomainType := ⟨"A\ncargo:rustc-cfg=x", "", [.auditable], []⟩

/-- The directory of a manifest with that type. -/
def brokenVolume : Volume := manifestVolume ⟨[brokenType]⟩

/-- The directive in the name is printed on a line of its own. -/
theorem not_speaksOnly_broken : ∃ o w,
    runBuild brokenVolume ⟨"types.json"⟩ ⟨configFileName⟩ (artifactsDir ⟨"out"⟩) = (.ok o, w)
      ∧ (runHosted brokenVolume ⟨"types.json"⟩ (some ⟨"out"⟩)).result = .ok ()
      ∧ "cargo:rustc-cfg=x to write the A" ∈ (runHosted brokenVolume ⟨"types.json"⟩ (some ⟨"out"⟩)).lines
      ∧ ¬ (runHosted brokenVolume ⟨"types.json"⟩ (some ⟨"out"⟩)).SpeaksOnly ⟨"types.json"⟩
        o.report.failures := by
  let failure : Failure := .extraction (.invalidTypeName brokenType.name)
  have hok : (runHosted brokenVolume ⟨"types.json"⟩ (some ⟨"out"⟩)).result = .ok () :=
    runHosted_manifestVolume ⟨[brokenType]⟩ ⟨"out"⟩
  obtain ⟨o, w, hrun, hlines⟩ := lines_runHosted (by decide) (by decide) hok
  have hgenerator : o.build.generator = {} := (runBuild_manifestVolume hrun).1
  have hwanted : ({} : Generator).tasks [brokenType] = [brokenType].map .type := by decide +kernel
  have hfailures : o.report.failures = [failure] :=
    failures_of_faults hrun hwanted (.cons (by decide +kernel) .nil)
  refine ⟨o, w, hrun, hok, ?_, ?_⟩
  · rw [hlines, hfailures, hgenerator]
    apply List.mem_append_right
    rw [List.flatMap_singleton]
    decide +kernel
  · rw [speaksOnly_iff_isLine hlines, hfailures, hgenerator]
    intro hall
    exact absurd (hall failure List.mem_cons_self) (by decide +kernel)

end EntityAudit
