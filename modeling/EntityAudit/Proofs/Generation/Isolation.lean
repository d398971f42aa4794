import EntityAudit.Proofs.Generation.Account
import EntityAudit.Proofs.Generation.Runs

/-!
# `EntityAudit.Proofs.Generation.Isolation` — a type that has no artifact does not touch the others

A type for which no audit type is wanted has no task, and the task of a type that has a fault makes no
call on the store.  So a pass with such a type among the others is the pass without it, but for what is
told about the type itself; this holds for every store, since the store cannot tell the two apart.

## Contents

* `InsertedAfter` — a list with some items put in
* `runTask_rejected` — the task of a type that has a fault
* `Generator.Isolated` — what it means not to touch the others
* `process_isolated` — a pass with such a type and the pass without it
-/

namespace EntityAudit

variable {σ κ : Type}

/-- The list `more` is the list `plain` with `items` put in right after its part `before`. -/
def InsertedAfter {α : Type} (before items plain more : List α) : Prop :=
  ∃ rest, plain = before ++ rest ∧ more = before ++ items ++ rest

/-! ## One type -/

/-- What is told about a type that has a fault: it is announced, and right after that the fault is
reported. -/
def Generator.rejectionDiagnostics (g : Generator) (t : DomainType) (e : ExtractionError) :
    List Diagnostic :=
  [Generator.processingDiagnostic t,
   ⟨.error, (Failure.extraction e).diagnosis g.naming.suffix, some t.qualifiedName⟩]

/-- **The task of a type that has a fault** makes no call on the store. -/
theorem runTask_rejected (g : Generator) (store : Store σ κ) {t : DomainType} {e : ExtractionError}
    (h : AuditType.ofDomain g.naming t = .error e) (s : σ) :
    (g.runTask store s (.type t)).state = s
      ∧ (g.runTask store s (.type t)).outcome = .failed (.extraction e)
      ∧ diagnosticsOf (g.runTask store s (.type t)).notices = g.rejectionDiagnostics t e := by
  have hrender : g.render t = .error e := by
    rw [Generator.render, h]
    rfl
  simp only [Generator.runTask, Generator.audit, hrender]
  refine ⟨trivial, trivial, ?_⟩
  rw [diagnosticsOf_processing]
  rfl

/-! ## A pass with the type and the pass without it -/

/-- **What it means that a type does not touch the others**: `plain` is the pass without it, `more` the
pass with it, and `before` the pass over the types that precede it. -/
structure Generator.Isolated (g : Generator) (b : DomainType) (before plain more : Pass σ) : Prop where
  /-- The store is left in the same state. -/
  state_eq : more.state = plain.state
  /-- The same artifacts are written. -/
  written_eq : more.report.written = plain.report.written
  /-- If no audit type is wanted, nothing is told about the type. -/
  unseen : b.isAuditable = false →
    more.report.failures = plain.report.failures ∧ diagnosticsOf more.notices = diagnosticsOf plain.notices
  /-- If one is wanted, the fault of the type is reported, in its place and once. -/
  reported : b.isAuditable = true → ∃ e, AuditType.ofDomain g.naming b = .error e ∧
    InsertedAfter before.report.failures [.extraction e] plain.report.failures more.report.failures ∧
    InsertedAfter (diagnosticsOf before.notices) (g.rejectionDiagnostics b e)
      (diagnosticsOf plain.notices) (diagnosticsOf more.notices)

/-- The tasks of types with another one among them, for which no audit type is wanted. -/
theorem tasks_insert_unwanted (g : Generator) {b : DomainType} (h : b.isAuditable = false)
    (xs ys : List DomainType) : g.tasks (xs ++ [b] ++ ys) = g.tasks (xs ++ ys) := by
  have hnone : auditableTypes [b] = [] := by
    rw [auditableTypes, List.filter_singleton, h]
    rfl
  rw [List.append_assoc, tasks_append, tasks_append, auditableTypes_append, hnone, List.nil_append]

/-- The tasks of types with another one among them, for which an audit type is wanted. -/
theorem tasks_insert_wanted (g : Generator) {b : DomainType} (h : b.isAuditable = true)
    (xs ys : List DomainType) :
    g.tasks (xs ++ [b] ++ ys) = g.tasks xs ++ .type b :: (auditableTypes ys).map .type := by
  have hone : auditableTypes [b] = [b] := by
    rw [auditableTypes, List.filter_singleton, h]
    rfl
  rw [List.append_assoc, tasks_append, auditableTypes_append, hone, List.singleton_append,
    List.map_cons]

/-- **A type that has no artifact does not touch the others.** For every store, whatever it does, and at
every place among the types, a pass with a type for which no audit type is wanted, or that has a fault,
is the pass without it but for what is told about the type itself. -/
theorem process_isolated (g : Generator) (store : Store σ κ) {round : Round}
    (hactive : round.isActive = true) (xs ys : List DomainType) {b : DomainType}
    (hb : b.isAuditable = false ∨ ∃ e, AuditType.ofDomain g.naming b = .error e) (s : σ) :
    g.Isolated b (g.process store round xs s) (g.process store round (xs ++ ys) s)
      (g.process store round (xs ++ [b] ++ ys) s) := by
  cases hwanted : b.isAuditable with
  | false =>
      -- The two passes have the same tasks.
      have htasks := tasks_insert_unwanted g hwanted xs ys
      refine ⟨?_, ?_, fun _ => ⟨?_, ?_⟩, fun h => ?_⟩
      · rw [state_process g store hactive, state_process g store hactive, htasks]
      · rw [written_process g store hactive, written_process g store hactive, htasks]
      · rw [failures_process g store hactive, failures_process g store hactive, htasks]
      · rw [diagnosticsOf_process g store hactive, diagnosticsOf_process g store hactive, htasks]
      · rw [hwanted] at h
        exact absurd h Bool.false_ne_true
  | true =>
      obtain ⟨e, he⟩ : ∃ e, AuditType.ofDomain g.naming b = .error e := by
        rcases hb with hunwanted | hfault
        · rw [hwanted] at hunwanted
          exact absurd hunwanted.symm Bool.false_ne_true
        · exact hfault
      -- Both runs begin with the tasks of `xs` and end with those of `ys`, which find the same state.
      obtain ⟨hstate, houtcome, hdiagnostics⟩ :=
        runTask_rejected g store he (g.runTasks store (g.tasks xs) s).state
      have hplain := runTasks_append g store (g.tasks xs) ((auditableTypes ys).map .type) s
      have hmore := runTasks_append g store (g.tasks xs) (.type b :: (auditableTypes ys).map .type) s
      rw [← tasks_append] at hplain
      rw [← tasks_insert_wanted g hwanted, Generator.runTasks] at hmore
      simp only [hstate, houtcome] at hmore
      refine ⟨?_, ?_, fun h => ?_, fun _ => ⟨e, he, ?_, ?_⟩⟩
      · rw [state_process g store hactive, state_process g store hactive, hplain, hmore]
      · rw [written_process g store hactive, written_process g store hactive, hplain, hmore]
        simp only [List.filterMap_append, List.filterMap_cons, Outcome.written?]
      · rw [hwanted] at h
        exact absurd h.symm Bool.false_ne_true
      · rw [failures_process g store hactive, failures_process g store hactive,
          failures_process g store hactive, hplain, hmore]
        refine ⟨_, List.filterMap_append, ?_⟩
        simp only [List.filterMap_append, List.filterMap_cons, Outcome.failure?, List.append_assoc,
          List.singleton_append]
      · rw [diagnosticsOf_process g store hactive, diagnosticsOf_process g store hactive,
          diagnosticsOf_process g store hactive, hplain, hmore]
        refine ⟨_, diagnosticsOf_append _ _, ?_⟩
        simp only [diagnosticsOf_append, hdiagnostics, List.append_assoc]

/-- A truck with a column of an unknown type. -/
def brokenTruck : DomainType := ⟨"Truck", "a", [.auditable], [⟨"getEngine", ⟨"a.Engine"⟩, [.column]⟩]⟩

/-- A boat that cannot be written. -/
def boat : DomainType := ⟨"Boat", "a", [.auditable], [⟨"getHull", ⟨"java.lang.String"⟩, [.column]⟩]⟩

/-- A car. -/
def car : DomainType := ⟨"Car", "a", [.auditable], [⟨"getCarMake", ⟨"java.lang.String"⟩, [.column]⟩]⟩

/-- A truck that has a fault, between a boat that cannot be written and a car. -/
theorem process_isolated_truck :
    Round.isActive {} = true ∧
      (∃ e, AuditType.ofDomain ({} : Generator).naming brokenTruck = .error e) ∧
      Generator.Isolated {} brokenTruck
        (Generator.process {} refusingBoats {} [boat] Catalog.empty)
        (Generator.process {} refusingBoats {} ([boat] ++ [car]) Catalog.empty)
        (Generator.process {} refusingBoats {} ([boat] ++ [brokenTruck] ++ [car]) Catalog.empty) := by
  have hfault : AuditType.ofDomain ({} : Generator).naming brokenTruck
      = .error (.unresolvedFieldType "Truck" "getEngine" "a.Engine") := by
    decide +kernel
  exact ⟨rfl, ⟨_, hfault⟩, process_isolated {} refusingBoats rfl [boat] [car] (Or.inr ⟨_, hfault⟩)
    Catalog.empty⟩

end EntityAudit
