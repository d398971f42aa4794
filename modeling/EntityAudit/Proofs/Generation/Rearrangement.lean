import Mathlib.Data.List.Nodup
import EntityAudit.Proofs.Generation.SecondPass
import EntityAudit.Store.Memory

/-!
# `EntityAudit.Proofs.Generation.Rearrangement` — the order of the types does not matter to a memory

What becomes of a type does not depend on what the memory holds, and artifacts with different names go to
different entries.  So a pass over the same types in another order leaves the same memory, and reports the
same entries in another order.

## Contents

* `Catalog.insert_comm` — two entries in either order
* `outcome_runTask_memory`, `state_runTask_comm` — one task, and two in either order (the step)
* `runTasks_memory_perm` — all tasks in another order (the run)
* `Report.IsRearranged`, `process_memory_perm` — the pass
-/

namespace EntityAudit

/-- Values under different names may be put in either order. -/
theorem Catalog.insert_comm {α : Type} (c : Catalog α) {name other : String} (h : name ≠ other)
    (value value' : α) :
    (c.insert name value).insert other value' = (c.insert other value').insert name value := by
  refine Catalog.ext_get? fun key => ?_
  rw [Catalog.get?_insert, Catalog.get?_insert, Catalog.get?_insert, Catalog.get?_insert]
  by_cases hkey : key = other
  · have hne : key ≠ name := fun hsame => h (hsame.symm.trans hkey)
    rw [if_pos hkey, if_neg hne, if_pos hkey]
  · rw [if_neg hkey, if_neg hkey]

/-! ## The step -/

/-- What becomes of a task does not depend on what the memory holds. -/
theorem outcome_runTask_memory (g : Generator) (task : Task) (m m' : Memory) :
    (g.runTask Memory.store m task).outcome = (g.runTask Memory.store m' task).outcome :=
  (runTask_congr g Memory.store fun a _ => by rw [put_memory, put_memory]).1

/-- **Two tasks in either order** leave the same memory, unless their artifacts have one name. -/
theorem state_runTask_comm (g : Generator) {first second : Task}
    (h : ∀ name, g.artifactName? first = some name → g.artifactName? second ≠ some name) (m : Memory) :
    (g.runTask Memory.store (g.runTask Memory.store m first).state second).state
      = (g.runTask Memory.store (g.runTask Memory.store m second).state first).state := by
  simp only [g.artifactName?_eq] at h
  simp only [state_runTask, put_memory]
  cases hfirst : g.artifact? first with
  | none => rfl
  | some a =>
      cases hsecond : g.artifact? second with
      | none => rfl
      | some b =>
          rw [hfirst, hsecond] at h
          have hne : a.qualifiedName ≠ b.qualifiedName := fun hsame =>
            h a.qualifiedName rfl (congrArg some hsame.symm)
          exact m.insert_comm hne a.bytes b.bytes

/-! ## The run -/

/-- **All tasks in another order** leave the same memory and come to the same, one by one.  The induction is
on the exchanges of neighbours that lead from one order to the other. -/
theorem runTasks_memory_perm (g : Generator) {tasks tasks' : List Task} (hperm : tasks.Perm tasks')
    (hnodup : (tasks.filterMap g.artifactName?).Nodup) (m : Memory) :
    (g.runTasks Memory.store tasks m).state = (g.runTasks Memory.store tasks' m).state ∧
      (g.runTasks Memory.store tasks m).outcomes.Perm (g.runTasks Memory.store tasks' m).outcomes := by
  induction hperm generalizing m with
  | nil => exact ⟨rfl, .nil⟩
  | cons task _ ih =>
      rw [g.artifactNames_cons] at hnodup
      obtain ⟨hstate, houtcomes⟩ := ih hnodup.of_append_right (g.runTask Memory.store m task).state
      exact ⟨hstate, houtcomes.cons _⟩
  | swap first second rest =>
      have hne : ∀ name, g.artifactName? second = some name → g.artifactName? first ≠ some name := by
        intro name hsecond hfirst
        rw [List.filterMap_cons_some hsecond, List.filterMap_cons_some hfirst] at hnodup
        exact (List.nodup_cons.mp hnodup).1 List.mem_cons_self
      have hstate := state_runTask_comm g hne m
      constructor
      · simp only [Generator.runTasks, hstate]
      · simp only [Generator.runTasks, hstate]
        rw [outcome_runTask_memory g first _ m,
          outcome_runTask_memory g second (g.runTask Memory.store m first).state m]
        exact .swap _ _ _
  | trans hfirst _ ih ih' =>
      obtain ⟨hstate, houtcomes⟩ := ih hnodup m
      obtain ⟨hstate', houtcomes'⟩ := ih' ((hfirst.filterMap g.artifactName?).nodup_iff.mp hnodup) m
      exact ⟨hstate.trans hstate', houtcomes.trans houtcomes'⟩

/-! ## The pass -/

/-- Types in another order make for the same tasks in another order; the contract stays in front. -/
theorem tasks_perm (g : Generator) {types types' : List DomainType} (h : types.Perm types') :
    (g.tasks types).Perm (g.tasks types') :=
  ((h.filter DomainType.isAuditable).map Task.type).append_left _

/-- The report `r'` has the entries of `r`, in some order. -/
structure Report.IsRearranged (r r' : Report) : Prop where
  written : r.written.Perm r'.written
  failures : r.failures.Perm r'.failures

/-- **The order of the types does not matter to a memory.**  A pass over the same types in another order
leaves the same memory and reports the same, in some order, if no two artifacts have one name; some of the
types may have a fault, and some may not be asked for. -/
theorem process_memory_perm (g : Generator) {round : Round} (hactive : round.isActive = true)
    {types types' : List DomainType} (hperm : types.Perm types')
    (hnodup : ((g.tasks types).filterMap g.artifactName?).Nodup) (m : Memory) :
    (g.process Memory.store round types m).state = (g.process Memory.store round types' m).state ∧
      (g.process Memory.store round types m).report.IsRearranged
        (g.process Memory.store round types' m).report := by
  obtain ⟨hstate, houtcomes⟩ := runTasks_memory_perm g (tasks_perm g hperm) hnodup m
  refine ⟨?_, ?_, ?_⟩
  · rw [state_process g _ hactive, state_process g _ hactive, hstate]
  · rw [written_process g _ hactive, written_process g _ hactive]
    exact houtcomes.filterMap Outcome.written?
  · rw [failures_process g _ hactive, failures_process g _ hactive]
    exact houtcomes.filterMap Outcome.failure?

/-- Backwards: a boat and a car are written, a truck has a fault, and the contract is written first in
either order. -/
theorem process_memory_perm_boatTruckCar :
    Round.isActive {} = true ∧ boatTruckCar.Perm boatTruckCar.reverse ∧
      ((packageB.tasks boatTruckCar).filterMap packageB.artifactName?).Nodup ∧
      (packageB.process Memory.store {} boatTruckCar Catalog.empty).state
          = (packageB.process Memory.store {} boatTruckCar.reverse Catalog.empty).state ∧
      (packageB.process Memory.store {} boatTruckCar Catalog.empty).report.IsRearranged
        (packageB.process Memory.store {} boatTruckCar.reverse Catalog.empty).report := by
  have hperm : boatTruckCar.Perm boatTruckCar.reverse := boatTruckCar.reverse_perm.symm
  have hartifacts : (packageB.tasks boatTruckCar).filterMap packageB.artifactName?
      = ["b.AuditInterface", "b.BoatAudit", "b.CarAudit"] := by
    decide +kernel
  have hnodup : ((packageB.tasks boatTruckCar).filterMap packageB.artifactName?).Nodup := by
    rw [hartifacts]
    decide
  exact ⟨rfl, hperm, hnodup, process_memory_perm packageB rfl hperm hnodup Catalog.empty⟩

end EntityAudit
