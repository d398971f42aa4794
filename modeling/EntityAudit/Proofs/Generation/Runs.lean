import EntityAudit.Generation.Pass

/-!
# `EntityAudit.Proofs.Generation.Runs` — passes as runs of tasks

A pass in an active round is the run of its tasks with an event before and one after it.  A run of tasks
can be cut anywhere: what comes after the cut finds the state that what comes before it has left.

## Contents

* `runTasks_append` — a run in two parts
* `length_outcomes_runTasks` — the outcomes of a run
* `auditableTypes_append`, `tasks_append`, `mem_auditableTypes_of_mem_tasks` — the tasks of types
* `state_process`, `written_process`, `failures_process`, `diagnosticsOf_process` — a pass as a run
-/

namespace EntityAudit

variable {σ κ : Type}

/-! ## Runs in two parts -/

/-- A run of tasks in two parts: the second part begins with the state that the first one leaves. -/
theorem runTasks_append (g : Generator) (store : Store σ κ) (first second : List Task) (s : σ) :
    g.runTasks store (first ++ second) s
      = ⟨(g.runTasks store first s).outcomes
            ++ (g.runTasks store second (g.runTasks store first s).state).outcomes,
          (g.runTasks store second (g.runTasks store first s).state).state,
          (g.runTasks store first s).notices
            ++ (g.runTasks store second (g.runTasks store first s).state).notices⟩ := by
  induction first generalizing s with
  | nil => rfl
  | cons task rest ih =>
      rw [List.cons_append, Generator.runTasks, ih]
      simp only [Generator.runTasks, List.cons_append, List.append_assoc]

/-- A run has one outcome for each task, whether it failed or not. -/
theorem length_outcomes_runTasks (g : Generator) (store : Store σ κ) (tasks : List Task) (s : σ) :
    (g.runTasks store tasks s).outcomes.length = tasks.length := by
  induction tasks generalizing s with
  | nil => rfl
  | cons task rest ih =>
      rw [Generator.runTasks]
      simp only [List.length_cons, ih]

theorem auditableTypes_append (xs ys : List DomainType) :
    auditableTypes (xs ++ ys) = auditableTypes xs ++ auditableTypes ys := List.filter_append xs ys

/-- The tasks of types that follow others: the contract is not written again. -/
theorem tasks_append (g : Generator) (xs ys : List DomainType) :
    g.tasks (xs ++ ys) = g.tasks xs ++ (auditableTypes ys).map .type := by
  rw [Generator.tasks, Generator.tasks, auditableTypes_append, List.map_append, List.append_assoc]

/-- The types of the tasks are auditable types. -/
theorem mem_auditableTypes_of_mem_tasks {g : Generator} {types : List DomainType} {t : DomainType}
    (h : .type t ∈ g.tasks types) : t ∈ auditableTypes types := by
  unfold Generator.tasks at h
  rcases List.mem_append.mp h with hcontract | htype
  · split at hcontract
    · cases List.mem_singleton.mp hcontract
    · cases hcontract
  · obtain ⟨u, hu, heq⟩ := List.mem_map.mp htype
    cases heq
    exact hu

/-! ## A pass as a run -/

section Active

variable (g : Generator) (store : Store σ κ) {round : Round} (hactive : round.isActive = true)
  (types : List DomainType) (s : σ)

include hactive

theorem state_process :
    (g.process store round types s).state = (g.runTasks store (g.tasks types) s).state := by
  rw [Generator.process, if_pos hactive]

theorem written_process :
    (g.process store round types s).report.written
      = (g.runTasks store (g.tasks types) s).outcomes.filterMap Outcome.written? := by
  rw [Generator.process, if_pos hactive]

theorem failures_process :
    (g.process store round types s).report.failures
      = (g.runTasks store (g.tasks types) s).outcomes.filterMap Outcome.failure? := by
  rw [Generator.process, if_pos hactive]

/-- The events before and after the run are no diagnostics. -/
theorem diagnosticsOf_process :
    diagnosticsOf (g.process store round types s).notices
      = diagnosticsOf (g.runTasks store (g.tasks types) s).notices := by
  rw [Generator.process, if_pos hactive]
  simp only [diagnosticsOf_append]
  show [] ++ diagnosticsOf _ ++ [] = _
  rw [List.nil_append, List.append_nil]

end Active

end EntityAudit
