import EntityAudit.Proofs.Generation.Account
import EntityAudit.Proofs.Generation.Runs
import EntityAudit.Proofs.Store.Delivery

/-!
# `EntityAudit.Proofs.Generation.SecondPass` — a pass over sources that are there already

A pass that writes to a directory leaves there all that it could write, and what it could not write is as
much in the way the next time.  So the same pass once more changes nothing, not even the list of files
that were written, and tells the same.  Nothing is assumed of what the directory holds before.

## Contents

* `Generator.artifact?`, `state_runTask`, `runTask_congr` — a task as the writing of its artifact
* `Volume.Supplied`, `runTasks_supplied` — what a run leaves behind
* `runTasks_again` — the same run once more
* `Repeats`, `process_again` — the same pass once more
-/

namespace EntityAudit

variable {σ κ : Type}

/-! ## A task as the writing of its artifact -/

/-- The artifact of a task, if it has one. -/
def Generator.artifact? (g : Generator) : Task → Option Artifact
  | .interface => some (interfaceArtifact g.naming.package)
  | .type t => (g.render t).toOption

theorem Generator.artifactName?_eq (g : Generator) (task : Task) :
    g.artifactName? task = (g.artifact? task).map Artifact.qualifiedName := by
  cases task with
  | interface => rfl
  | type t => rfl

theorem state_commit (g : Generator) (store : Store σ κ) (typeName : String) (a : Artifact) (s : σ) :
    (g.commit store typeName a s).state = (store.put a s).state := by
  unfold Generator.commit
  simp only []
  split <;> rfl

/-- What becomes of an artifact, and what is told about it, depends on how writing it ends. -/
theorem commit_congr (g : Generator) (store : Store σ κ) (typeName : String) {a : Artifact} {s s' : σ}
    (h : (store.put a s).result = (store.put a s').result) :
    (g.commit store typeName a s).outcome = (g.commit store typeName a s').outcome ∧
      diagnosticsOf (g.commit store typeName a s).notices
        = diagnosticsOf (g.commit store typeName a s').notices := by
  unfold Generator.commit
  cases hresult : (store.put a s').result with
  | ok =>
      rw [hresult] at h
      simp only [h, hresult, diagnosticsOf_append, diagnosticsOf_events, and_self]
  | error e =>
      rw [hresult] at h
      simp only [h, hresult, diagnosticsOf_append, diagnosticsOf_events, and_self]

/-- A task leaves the store as writing its artifact leaves it. -/
theorem state_runTask (g : Generator) (store : Store σ κ) (task : Task) (s : σ) :
    (g.runTask store s task).state = match g.artifact? task with
      | none => s
      | some a => (store.put a s).state := by
  cases task with
  | interface => exact state_commit g store _ _ s
  | type t =>
      cases hrender : g.render t with
      | error e => simp only [Generator.runTask, Generator.audit, Generator.artifact?, hrender, Except.toOption]
      | ok a =>
          simp only [Generator.runTask, Generator.audit, Generator.artifact?, hrender, Except.toOption,
            state_commit]

/-- **A task ends in the same way** wherever writing its artifact does. -/
theorem runTask_congr (g : Generator) (store : Store σ κ) {task : Task} {s s' : σ}
    (h : ∀ a, g.artifact? task = some a → (store.put a s).result = (store.put a s').result) :
    (g.runTask store s task).outcome = (g.runTask store s' task).outcome ∧
      diagnosticsOf (g.runTask store s task).notices
        = diagnosticsOf (g.runTask store s' task).notices := by
  cases task with
  | interface => exact commit_congr g store _ (h _ rfl)
  | type t =>
      cases hrender : g.render t with
      | error e => simp only [Generator.runTask, Generator.audit, hrender, and_self]
      | ok a =>
          have ha : g.artifact? (.type t) = some a := by
            simp only [Generator.artifact?, hrender, Except.toOption]
          obtain ⟨houtcome, hdiagnostics⟩ := commit_congr g store t.name (h a ha)
          simp only [Generator.runTask, Generator.audit, hrender, houtcome, diagnosticsOf_processing,
            hdiagnostics, and_self]

/-! ## What a run leaves behind -/

variable {root : Path} {v v' v'' w : Volume} {name : String} {names others : List String}

/-- The volume `v'` is `v` after deliveries to the sources of `names`: what is not such a source is
kept. -/
structure Volume.Supplied (v v' : Volume) (root : Path) (names : List String) : Prop where
  isTree : v'.IsTree
  grown : v.Extends v'
  kept : ∀ q entry, (∀ name ∈ names, q ≠ sourcePlace (v.start root.isAbsolute) root name) →
    v.entryAt? q = some entry → v'.entryAt? q = some entry

theorem Volume.Supplied.refl (htree : v.IsTree) (root : Path) (names : List String) :
    v.Supplied v root names :=
  ⟨htree, .refl v, fun _ _ _ h => h⟩

theorem Volume.Supplied.trans (h : v.Supplied v' root names) (h' : v'.Supplied v'' root others) :
    v.Supplied v'' root (names ++ others) := by
  refine ⟨h'.isTree, h.grown.trans h'.grown, fun q entry hne hq => ?_⟩
  refine h'.kept q entry (fun name hname => ?_) (h.kept q entry (fun name hname => ?_) hq)
  · rw [h.grown.start_eq]
    exact hne name (List.mem_append_right _ hname)
  · exact hne name (List.mem_append_left _ hname)

/-- **A task** delivers its artifact, if it has one. -/
theorem runTask_supplied (g : Generator) (hup : ".." ∉ root.parts) {task : Task}
    (hnames : ∀ name, g.artifactName? task = some name → IsSourceName name) (htree : v.IsTree)
    (hstart : v.entryAt? (v.start root.isAbsolute) = some .directory) :
    v.Supplied (g.runTask (Directory.store root) v task).state root (g.artifactName? task).toList := by
  rw [state_runTask, g.artifactName?_eq]
  cases hartifact : g.artifact? task with
  | none => exact .refl htree root _
  | some a =>
      have hname : IsSourceName a.qualifiedName := by
        apply hnames
        rw [g.artifactName?_eq, hartifact]
        rfl
      have hdelivered := Volume.deliver_delivered hname hup htree hstart a.bytes
      simp only [(put_directory a (hname.asksDirectory_pathFor root) v).2]
      refine ⟨hdelivered.isTree, hdelivered.grown, fun q entry hne hq => ?_⟩
      exact hdelivered.kept q entry (hne _ List.mem_cons_self) hq

theorem Generator.artifactNames_cons (g : Generator) (task : Task) (rest : List Task) :
    (task :: rest).filterMap g.artifactName?
      = (g.artifactName? task).toList ++ rest.filterMap g.artifactName? := by
  cases hname : g.artifactName? task with
  | none => rw [List.filterMap_cons_none hname]; rfl
  | some name => rw [List.filterMap_cons_some hname]; rfl

/-- **A run of tasks** delivers their artifacts. -/
theorem runTasks_supplied (g : Generator) (hup : ".." ∉ root.parts) {tasks : List Task}
    (hnames : ∀ name ∈ tasks.filterMap g.artifactName?, IsSourceName name) (htree : v.IsTree)
    (hstart : v.entryAt? (v.start root.isAbsolute) = some .directory) :
    v.Supplied (g.runTasks (Directory.store root) tasks v).state root
      (tasks.filterMap g.artifactName?) := by
  induction tasks generalizing v with
  | nil => exact .refl htree root _
  | cons task rest ih =>
      rw [g.artifactNames_cons] at hnames ⊢
      have hfirst := runTask_supplied g hup (fun name hname => hnames name
        (List.mem_append_left _ (hname ▸ List.mem_cons_self))) htree hstart
      refine hfirst.trans (ih (fun name hname => hnames name (List.mem_append_right _ hname))
        hfirst.isTree ?_)
      rw [hfirst.grown.start_eq]
      exact hfirst.grown.directory _ hstart

/-! ## The same run once more -/

/-- **The same task once more**, after the rest of the run: it ends in the same way and changes nothing.
The rest has not touched the source of the task, since no other artifact has its name. -/
theorem runTask_again (g : Generator) (hup : ".." ∉ root.parts) {task : Task}
    (hnames : ∀ name, g.artifactName? task = some name → IsSourceName name) (htree : v.IsTree)
    (hstart : v.entryAt? (v.start root.isAbsolute) = some .directory)
    (hothers : ∀ other ∈ others, IsSourceName other ∧ g.artifactName? task ≠ some other)
    (hrest : (g.runTask (Directory.store root) v task).state.Supplied v' root others)
    (hw : w.IsTree) (hcontains : w.Contains v') :
    (g.runTask (Directory.store root) w task).outcome
        = (g.runTask (Directory.store root) v task).outcome ∧
      (g.runTask (Directory.store root) w task).state = w ∧
      diagnosticsOf (g.runTask (Directory.store root) w task).notices
        = diagnosticsOf (g.runTask (Directory.store root) v task).notices := by
  have hputs : ∀ a, g.artifact? task = some a →
      ((Directory.store root).put a w).result = ((Directory.store root).put a v).result ∧
        ((Directory.store root).put a w).state = w := by
    intro a hartifact
    have htaskName : g.artifactName? task = some a.qualifiedName := by
      rw [g.artifactName?_eq, hartifact]
      rfl
    have hname := hnames _ htaskName
    have hput := put_directory a (hname.asksDirectory_pathFor root)
    simp only [state_runTask, hartifact, (hput v).2] at hrest
    have hdelivered := Volume.deliver_delivered hname hup htree hstart a.bytes
    have hagain := Volume.deliver_again hname hup htree hw hstart (hrest.grown.trans hcontains.extends)
      fun hok => by
        refine hcontains.entry _ _ (hrest.kept _ _ (fun other hother hsame => ?_) (hdelivered.held hok))
        rw [hdelivered.grown.start_eq] at hsame
        obtain ⟨hsource, hne⟩ := hothers other hother
        exact hne (htaskName.trans (congrArg some (Volume.sourcePlace_inj hname hsource hsame)))
    obtain ⟨hresult, hstate⟩ := hput w
    simp only [hagain] at hresult hstate
    exact ⟨hresult.trans (hput v).1.symm, hstate⟩
  obtain ⟨houtcome, hdiagnostics⟩ := runTask_congr g (Directory.store root)
    fun a ha => (hputs a ha).1
  refine ⟨houtcome, ?_, hdiagnostics⟩
  rw [state_runTask]
  cases hartifact : g.artifact? task with
  | none => rfl
  | some a => exact (hputs a hartifact).2

/-- **The same run once more** ends in the same way and changes nothing. -/
theorem runTasks_again (g : Generator) (hup : ".." ∉ root.parts) {tasks : List Task}
    (hnames : ∀ name ∈ tasks.filterMap g.artifactName?, IsSourceName name)
    (hnodup : (tasks.filterMap g.artifactName?).Nodup) (htree : v.IsTree)
    (hstart : v.entryAt? (v.start root.isAbsolute) = some .directory) (hw : w.IsTree)
    (hcontains : w.Contains (g.runTasks (Directory.store root) tasks v).state) :
    (g.runTasks (Directory.store root) tasks w).outcomes
        = (g.runTasks (Directory.store root) tasks v).outcomes ∧
      (g.runTasks (Directory.store root) tasks w).state = w ∧
      diagnosticsOf (g.runTasks (Directory.store root) tasks w).notices
        = diagnosticsOf (g.runTasks (Directory.store root) tasks v).notices := by
  induction tasks generalizing v with
  | nil => exact ⟨rfl, rfl, rfl⟩
  | cons task rest ih =>
      rw [g.artifactNames_cons] at hnames hnodup
      obtain ⟨-, hnodup', hdisjoint⟩ := List.nodup_append.mp hnodup
      have htask : ∀ name, g.artifactName? task = some name → IsSourceName name := fun name hname =>
        hnames name (List.mem_append_left _ (hname ▸ List.mem_cons_self))
      have hrestNames : ∀ name ∈ rest.filterMap g.artifactName?, IsSourceName name := fun name hname =>
        hnames name (List.mem_append_right _ hname)
      have hfirst := runTask_supplied g hup htask htree hstart
      have hstart' : (g.runTask (Directory.store root) v task).state.entryAt?
          ((g.runTask (Directory.store root) v task).state.start root.isAbsolute)
          = some .directory := by
        rw [hfirst.grown.start_eq]
        exact hfirst.grown.directory _ hstart
      have hrest := runTasks_supplied g hup hrestNames hfirst.isTree hstart'
      have hothers : ∀ other ∈ rest.filterMap g.artifactName?,
          IsSourceName other ∧ g.artifactName? task ≠ some other := by
        intro other hother
        refine ⟨hrestNames other hother, fun hsame => hdisjoint other ?_ other hother rfl⟩
        rw [hsame]
        exact List.mem_cons_self
      obtain ⟨houtcome, hstate, hdiagnostics⟩ :=
        runTask_again g hup htask htree hstart hothers hrest hw hcontains
      obtain ⟨houtcomes, hstate', hdiagnostics'⟩ := ih hrestNames hnodup' hfirst.isTree hstart' hcontains
      simp only [Generator.runTasks, hstate, houtcome, houtcomes, hstate', diagnosticsOf_append,
        hdiagnostics, hdiagnostics', and_self]

/-- Where the path to the root does not start in a directory, a run changes nothing. -/
theorem runTasks_of_no_start (g : Generator) {tasks : List Task}
    (hnames : ∀ name ∈ tasks.filterMap g.artifactName?, IsSourceName name)
    (hstart : v.entryAt? (v.start root.isAbsolute) ≠ some .directory) :
    (g.runTasks (Directory.store root) tasks v).state = v := by
  induction tasks with
  | nil => rfl
  | cons task rest ih =>
      rw [g.artifactNames_cons] at hnames
      have htask : (g.runTask (Directory.store root) v task).state = v := by
        rw [state_runTask]
        cases hartifact : g.artifact? task with
        | none => rfl
        | some a =>
            have hname : IsSourceName a.qualifiedName := by
              apply hnames
              rw [g.artifactName?_eq, hartifact]
              exact List.mem_append_left _ List.mem_cons_self
            simp only [(put_directory a (hname.asksDirectory_pathFor root) v).2]
            exact Volume.deliver_of_no_start hname hstart a.bytes
      simp only [Generator.runTasks, htask]
      exact ih fun name hname => hnames name (List.mem_append_right _ hname)

/-! ## The same pass once more -/

/-- **What it means that a second pass repeats the first.** -/
structure Repeats (first second : Pass Volume) : Prop where
  /-- Nothing has changed, and no more files have been written. -/
  state_eq : second.state = first.state
  /-- The same artifacts are reported as written. -/
  written_eq : second.report.written = first.report.written
  /-- The same failures are reported. -/
  failures_eq : second.report.failures = first.report.failures
  /-- The same is told. -/
  diagnostics_eq : diagnosticsOf second.notices = diagnosticsOf first.notices

/-- **The same pass once more repeats the first.** The directory may hold anything before, and some types
and some writes may fail; no two artifacts may have one name, and the way to the directory must not
go up. -/
theorem process_again (g : Generator) {round : Round} (hactive : round.isActive = true)
    (types : List DomainType) {root : Path} (hup : ".." ∉ root.parts) {v : Volume} (htree : v.IsTree)
    (hnames : ∀ name ∈ (g.tasks types).filterMap g.artifactName?, IsSourceName name)
    (hnodup : ((g.tasks types).filterMap g.artifactName?).Nodup) :
    Repeats (g.process (Directory.store root) round types v)
      (g.process (Directory.store root) round types
        (g.process (Directory.store root) round types v).state) := by
  have hstate := state_process g (Directory.store root) hactive types v
  by_cases hstart : v.entryAt? (v.start root.isAbsolute) = some .directory
  · have hsupplied := runTasks_supplied g hup hnames htree hstart
    obtain ⟨houtcomes, hsame, hdiagnostics⟩ :=
      runTasks_again g hup hnames hnodup htree hstart hsupplied.isTree (.refl _)
    rw [hstate]
    constructor
    · rw [state_process g _ hactive, hsame, hstate]
    · rw [written_process g _ hactive, written_process g _ hactive, houtcomes]
    · rw [failures_process g _ hactive, failures_process g _ hactive, houtcomes]
    · rw [diagnosticsOf_process g _ hactive, diagnosticsOf_process g _ hactive, hdiagnostics]
  · -- Nothing can be written, so that the second pass begins as the first did.
    rw [hstate, runTasks_of_no_start g hnames hstart]
    exact ⟨rfl, rfl, rfl, rfl⟩

/-- A generator for a package of its own. -/
def packageB : Generator := ⟨⟨"b", "Audit"⟩, false⟩

/-- A volume in which a directory is in the place of the boat's source. -/
def occupied : Volume :=
  ((Volume.scratch "out").put ((Place.top.below "out").below "b") .directory).put
    (((Place.top.below "out").below "b").below "BoatAudit.java") .directory

theorem isTree_occupied : occupied.IsTree := by
  have hout : (Volume.scratch "out").IsTree := Volume.isTree_of_single rfl
  have hpackage : ((Volume.scratch "out").put ((Place.top.below "out").below "b") .directory).IsTree :=
    hout.of_change rfl (Volume.hasDirectory_eq_false_iff.mp rfl) (Volume.entryAt?_put_below _ _ _ _)
  exact hpackage.of_change rfl (Volume.hasDirectory_eq_false_iff.mp rfl)
    (Volume.entryAt?_put_below _ _ _ _)

/-- A pass in which the boat cannot be written, the truck has a fault, and the contract and the car are
written. -/
theorem process_again_boatTruckCar :
    Round.isActive {} = true ∧ ".." ∉ Path.parts ⟨"/out"⟩ ∧ occupied.IsTree ∧
      (∀ name ∈ (packageB.tasks boatTruckCar).filterMap packageB.artifactName?, IsSourceName name) ∧
      ((packageB.tasks boatTruckCar).filterMap packageB.artifactName?).Nodup ∧
      Repeats (packageB.process (Directory.store ⟨"/out"⟩) {} boatTruckCar occupied)
        (packageB.process (Directory.store ⟨"/out"⟩) {} boatTruckCar
          (packageB.process (Directory.store ⟨"/out"⟩) {} boatTruckCar occupied).state) := by
  have hup : ".." ∉ Path.parts ⟨"/out"⟩ := by decide
  have hartifacts : (packageB.tasks boatTruckCar).filterMap packageB.artifactName?
      = ["b.AuditInterface", "b.BoatAudit", "b.CarAudit"] := by
    decide +kernel
  have hnames : ∀ name ∈ (packageB.tasks boatTruckCar).filterMap packageB.artifactName?,
      IsSourceName name := by
    rw [hartifacts]
    decide +kernel
  have hnodup : ((packageB.tasks boatTruckCar).filterMap packageB.artifactName?).Nodup := by
    rw [hartifacts]
    decide
  exact ⟨rfl, hup, isTree_occupied, hnames, hnodup,
    process_again packageB rfl boatTruckCar hup isTree_occupied hnames hnodup⟩

end EntityAudit
