import EntityAudit.Proofs.Domain.Extraction
import EntityAudit.Proofs.Generation.Account
import EntityAudit.Proofs.Generation.Runs
import EntityAudit.Proofs.Text.Pieces

/-!
# `EntityAudit.Proofs.Generation.Failures` — the failures of a pass, and what the host is told of them

Each failure belongs to a piece of work: the contract or a type could not be written, or a type has a fault.
The host is told of every failure once and in order, and of nothing else as an error.  What it is told holds
texts that come from outside: the suffix of audit types, and names of types and methods as they are given.

## Contents

* `Generator.FailsWith`, `Accounted.failsWith` — the failures of a piece of work
* `errorMessages`, `Accounted.errorMessages` — the errors that it reports
* `errors_of_accounted`, `failures_of_accounted` — those of a run
* `errors_process`, `exists_task_of_mem_failures` — those of a pass
* `ExtractionError.Concerns`, `concerns_of_ofDomain` — what a fault is about
* `simpleNameOf_append` — simple names
* `IsLine`, `FailsWith.isLine_diagnosis` — texts without a line break
* `getLast?_diagnosis` — how a diagnosis ends
-/

namespace EntityAudit

/-! ## Failures of a piece of work -/

/-- What a piece of work may fail with. -/
inductive Generator.FailsWith (g : Generator) : Task → Failure → Prop where
  | contract {cause : IoError} : FailsWith g .interface
      (.writing auditInterface (interfaceArtifact g.naming.package).qualifiedName cause)
  | unwritten {t : DomainType} {a : AuditType} {cause : IoError}
      (hdescribed : AuditType.ofDomain g.naming t = .ok a) :
      FailsWith g (.type t) (.writing t.name a.qualifiedName cause)
  | rejected {t : DomainType} {e : ExtractionError} (hfault : AuditType.ofDomain g.naming t = .error e) :
      FailsWith g (.type t) (.extraction e)

/-- The messages of the errors among some diagnostics. -/
def errorMessages (diagnostics : List Diagnostic) : List String :=
  (diagnostics.filter Diagnostic.isError).map Diagnostic.message

theorem errorMessages_append (xs ys : List Diagnostic) :
    errorMessages (xs ++ ys) = errorMessages xs ++ errorMessages ys := by
  unfold errorMessages
  rw [List.filter_append, List.map_append]

namespace Generator

variable {g : Generator}

/-- Writing an artifact reports an error exactly if it fails. -/
theorem Wrote.errorMessages {typeName : String} {a : Artifact} {account : Account}
    (h : g.Wrote typeName a account) : errorMessages account.diagnostics
      = account.outcome.failure?.toList.map (Failure.diagnosis g.naming.suffix) := by
  cases h with
  | success => rfl
  | failure => rfl

/-- A piece of work reports an error exactly if it fails. -/
theorem Accounted.errorMessages {task : Task} {account : Account} (h : g.Accounted task account) :
    errorMessages account.diagnostics
      = account.outcome.failure?.toList.map (Failure.diagnosis g.naming.suffix) := by
  cases h with
  | contract hwrote => exact hwrote.errorMessages
  | rendered hrender hwrote => exact hwrote.errorMessages
  | rejected hrender => rfl

theorem Accounted.failsWith {task : Task} {account : Account} (h : g.Accounted task account) {f : Failure}
    (hf : account.outcome.failure? = some f) : g.FailsWith task f := by
  cases h with
  | contract hwrote =>
      cases hwrote with
      | success => cases hf
      | failure =>
          cases hf
          exact .contract
  | @rendered t _ _ hrender hwrote =>
      unfold Generator.render at hrender
      cases hdescribed : AuditType.ofDomain g.naming t with
      | error e =>
          rw [hdescribed] at hrender
          cases hrender
      | ok a =>
          rw [hdescribed] at hrender
          cases hrender
          cases hwrote with
          | success => cases hf
          | failure =>
              cases hf
              exact .unwritten hdescribed
  | @rejected t _ hrender =>
      unfold Generator.render at hrender
      cases hfault : AuditType.ofDomain g.naming t with
      | ok a =>
          rw [hfault] at hrender
          cases hrender
      | error e =>
          rw [hfault] at hrender
          cases hrender
          cases hf
          exact .rejected hfault

end Generator

/-! ## Failures of a pass -/

section Run

variable {g : Generator} {tasks : List Task} {accounts : List Account}

/-- **The errors of a run are its failures**, in order. -/
theorem errors_of_accounted (h : List.Forall₂ g.Accounted tasks accounts) :
    errorMessages (accounts.flatMap Account.diagnostics)
      = ((accounts.map Account.outcome).filterMap Outcome.failure?).map
          (Failure.diagnosis g.naming.suffix) := by
  induction h with
  | nil => rfl
  | @cons task account tasks accounts haccounted _ ih =>
      rw [List.flatMap_cons, errorMessages_append, haccounted.errorMessages, ih, List.map_cons]
      cases hfailure : account.outcome.failure? with
      | none =>
          rw [List.filterMap_cons_none hfailure]
          rfl
      | some f =>
          rw [List.filterMap_cons_some hfailure]
          rfl

/-- Every failure of a run is one of a task. -/
theorem failures_of_accounted (h : List.Forall₂ g.Accounted tasks accounts) :
    ∀ f ∈ (accounts.map Account.outcome).filterMap Outcome.failure?, ∃ task ∈ tasks, g.FailsWith task f := by
  induction h with
  | nil => exact fun f hf => absurd hf List.not_mem_nil
  | @cons task account tasks accounts haccounted _ ih =>
      intro f hf
      rw [List.map_cons] at hf
      cases hfailure : account.outcome.failure? with
      | none =>
          rw [List.filterMap_cons_none hfailure] at hf
          obtain ⟨other, hmem, hfails⟩ := ih f hf
          exact ⟨other, List.mem_cons_of_mem task hmem, hfails⟩
      | some first =>
          rw [List.filterMap_cons_some hfailure] at hf
          rcases List.mem_cons.mp hf with rfl | hrest
          · exact ⟨task, List.mem_cons_self, haccounted.failsWith hfailure⟩
          · obtain ⟨other, hmem, hfails⟩ := ih f hrest
            exact ⟨other, List.mem_cons_of_mem task hmem, hfails⟩

end Run

section Pass

variable {σ κ : Type} (g : Generator) (store : Store σ κ) {round : Round} (hactive : round.isActive = true)
  (types : List DomainType) (s : σ)

include hactive

/-- **The host is told of every failure of a pass**, in order, and of nothing else as an error. -/
theorem errors_process :
    errorMessages (diagnosticsOf (g.process store round types s).notices)
      = (g.process store round types s).report.failures.map (Failure.diagnosis g.naming.suffix) := by
  obtain ⟨accounts, heach, houtcomes, hdiagnostics, -⟩ :=
    runTasks_accounted g store (g.tasks types) s []
  rw [diagnosticsOf_process g store hactive, failures_process g store hactive, hdiagnostics, houtcomes]
  exact errors_of_accounted heach

/-- Every failure of a pass is one of a piece of its work. -/
theorem exists_task_of_mem_failures {f : Failure}
    (hf : f ∈ (g.process store round types s).report.failures) :
    ∃ task ∈ g.tasks types, g.FailsWith task f := by
  obtain ⟨accounts, heach, houtcomes, -, -⟩ := runTasks_accounted g store (g.tasks types) s []
  rw [failures_process g store hactive, houtcomes] at hf
  exact failures_of_accounted heach f hf

end Pass

/-! ## Faults -/

namespace ExtractionError

/-- The method whose name is in the diagnosis of a fault. -/
def method? : ExtractionError → Option String
  | invalidTypeName _ => none
  | malformedAccessorName _ m => some m
  | unresolvedFieldType _ _ _ => none

/-- A fault is about the type `typeName`, and about one of the methods if it names one. -/
def Concerns (e : ExtractionError) (typeName : String) (methods : List Method) : Prop :=
  e.typeName = typeName ∧ ∀ name ∈ e.method?, ∃ m ∈ methods, m.name = name

end ExtractionError

theorem concerns_of_auditField {typeName : String} {m : Method} {e : ExtractionError}
    (h : m.auditField typeName = .error e) : e.Concerns typeName [m] := by
  unfold Method.auditField at h
  split at h
  · cases h
    refine ⟨rfl, fun name hname => ⟨m, List.mem_cons_self, ?_⟩⟩
    exact Option.some.inj hname
  · split at h
    · cases h
      exact ⟨rfl, fun name hname => nomatch hname⟩
    · cases h

theorem concerns_of_auditFields {typeName : String} {methods : List Method} {e : ExtractionError}
    (h : auditFields typeName methods = .error e) : e.Concerns typeName methods := by
  induction methods with
  | nil => cases h
  | cons m rest ih =>
      rw [auditFields] at h
      cases hfield : m.auditField typeName with
      | error fault =>
          rw [hfield] at h
          cases h
          obtain ⟨htype, hmethod⟩ := concerns_of_auditField hfield
          refine ⟨htype, fun name hname => ?_⟩
          obtain ⟨other, hmem, heq⟩ := hmethod name hname
          exact ⟨m, List.mem_cons_self, List.mem_singleton.mp hmem ▸ heq⟩
      | ok field =>
          rw [hfield] at h
          cases hfields : auditFields typeName rest with
          | error fault =>
              rw [hfields] at h
              cases h
              obtain ⟨htype, hmethod⟩ := ih hfields
              refine ⟨htype, fun name hname => ?_⟩
              obtain ⟨other, hmem, heq⟩ := hmethod name hname
              exact ⟨other, List.mem_cons_of_mem m hmem, heq⟩
          | ok fields =>
              rw [hfields] at h
              cases h

/-- The fault of a type is about the type, and about one of its columns if it names a method. -/
theorem concerns_of_ofDomain {n : Naming} {t : DomainType} {e : ExtractionError}
    (h : AuditType.ofDomain n t = .error e) : e.Concerns t.name t.columns := by
  unfold AuditType.ofDomain at h
  split at h
  · split at h
    · rename_i fault hfields
      cases h
      exact concerns_of_auditFields hfields
    · cases h
  · cases h
    exact ⟨rfl, fun name hname => nomatch hname⟩

/-! ## Diagnoses -/

/-- A text has no line break. -/
def IsLine (s : String) : Prop := '\n' ∉ s.toList

instance (s : String) : Decidable (IsLine s) := by
  unfold IsLine
  infer_instance

theorem IsLine.append {s t : String} (hs : IsLine s) (ht : IsLine t) : IsLine (s ++ t) := by
  unfold IsLine
  rw [String.toList_append, List.mem_append, not_or]
  exact ⟨hs, ht⟩

/-- The package has no part in a simple name. -/
theorem simpleNameOf_append (package name : String) :
    simpleNameOf (package ++ "." ++ name) = simpleNameOf name := by
  have hsplit : (package ++ "." ++ name).toList.splitOn '.'
      = package.toList.splitOn '.' ++ name.toList.splitOn '.' := by
    rw [String.toList_append, String.toList_append, List.append_assoc]
    exact List.splitOn_append_cons_self _ _
  obtain ⟨others, last, hpieces⟩ :=
    (List.eq_nil_or_concat' _).resolve_left (List.splitOn_ne_nil '.' name.toList)
  rw [simpleNameOf, simpleNameOf, hsplit, hpieces, ← List.append_assoc, List.getLast?_concat,
    List.getLast?_concat]

/-- What follows the last dot of a qualified name comes from the simple name. -/
theorem isLine_simpleNameOf {package name : String} (h : IsLine name) :
    IsLine (simpleNameOf (package ++ "." ++ name)) := by
  rw [simpleNameOf_append package name]
  unfold simpleNameOf IsLine
  rw [String.toList_ofList]
  cases hlast : (name.toList.splitOn '.').getLast? with
  | none => exact absurd (List.getLast?_eq_none_iff.mp hlast) (List.splitOn_ne_nil '.' name.toList)
  | some last => exact fun hmem => h (Text.mem_of_mem_splitOn (List.mem_of_getLast? hlast) hmem).1

/-- A diagnosis is a line if the names in it are: the suffix, the name of the type and the name of the method,
if it is about one. -/
theorem isLine_diagnosis_extraction {e : ExtractionError} {suffix : String} (hsuffix : IsLine suffix)
    (htype : IsLine e.typeName) (hmethod : ∀ method ∈ e.method?, IsLine method) :
    IsLine ((Failure.extraction e).diagnosis suffix) := by
  have hdescribing (text : String) (htext : IsLine text) : IsLine ("Problem describing " ++ e.typeName
      ++ " to write the " ++ e.typeName ++ suffix ++ " class file: " ++ text) := by
    have hopening : IsLine "Problem describing " := by decide
    have hmiddle : IsLine " to write the " := by decide
    have hclosing : IsLine " class file: " := by decide
    exact (((((hopening.append htype).append hmiddle).append htype).append hsuffix).append hclosing).append
      htext
  cases e with
  | invalidTypeName t =>
      apply hdescribing
      have hopening : IsLine "domain type name '" := by decide
      have hclosing : IsLine "' is not a usable identifier" := by decide
      exact (hopening.append htype).append hclosing
  | malformedAccessorName t m =>
      apply hdescribing
      have hm : IsLine m := hmethod m rfl
      have hopening : IsLine "method '" := by decide
      have hon : IsLine "' on '" := by decide
      have hmarked : IsLine "' is marked as a column but is not a getter named '" := by decide
      have hstem : IsLine getterStem := by decide
      have hclosing : IsLine "<Field>'" := by decide
      exact (((((hopening.append hm).append hon).append htype).append hmarked).append hstem).append hclosing
  | unresolvedFieldType t m r =>
      have hopening : IsLine "Problem finding the given return type of a method to write the " := by decide
      have hclosing : IsLine " class file" := by decide
      exact ((hopening.append htype).append hsuffix).append hclosing

/-- A diagnosis about an artifact is a line if its simple name is. -/
theorem isLine_diagnosis_writing {typeName package name : String} {cause : IoError} {suffix : String}
    (hname : IsLine name) :
    IsLine ((Failure.writing typeName (package ++ "." ++ name) cause).diagnosis suffix) := by
  have hopening : IsLine "Problem opening file to write the " := by decide
  have hclosing : IsLine " class file" := by decide
  exact (hopening.append (isLine_simpleNameOf hname)).append hclosing

/-- **The diagnosis of a failure is a line** if the suffix, the names of the type and those of its columns
are. -/
theorem Generator.FailsWith.isLine_diagnosis {g : Generator} {task : Task} {f : Failure}
    (h : g.FailsWith task f) (hsuffix : IsLine g.naming.suffix)
    (hnames : ∀ t, task = .type t → IsLine t.name ∧ ∀ m ∈ t.columns, IsLine m.name) :
    IsLine (f.diagnosis g.naming.suffix) := by
  cases h with
  | contract =>
      -- The name of the contract is fixed; its package does not matter.
      apply isLine_diagnosis_writing
      decide
  | @unwritten t a _ hdescribed =>
      unfold AuditType.qualifiedName
      apply isLine_diagnosis_writing
      rw [(named_of_ofDomain hdescribed).1]
      exact (hnames t rfl).1.append hsuffix
  | @rejected t e hfault =>
      obtain ⟨htype, hcolumns⟩ := hnames t rfl
      obtain ⟨heq, hmethod⟩ := concerns_of_ofDomain hfault
      apply isLine_diagnosis_extraction hsuffix
      · rw [heq]
        exact htype
      · intro name hname
        obtain ⟨m, hmem, rfl⟩ := hmethod name hname
        exact hcolumns m hmem

/-- A text ends as its last part does. -/
theorem getLast?_append_toList {s t : String} {c : Char} (h : t.toList.getLast? = some c) :
    (s ++ t).toList.getLast? = some c := by
  rw [String.toList_append, List.getLast?_append, h]
  rfl

/-- A diagnosis ends in a word or in a quote. -/
theorem getLast?_diagnosis (f : Failure) (suffix : String) :
    (f.diagnosis suffix).toList.getLast? ≠ some '\r' := by
  have hends {s t : String} {c : Char} (h : t.toList.getLast? = some c) (hc : c ≠ '\r') :
      (s ++ t).toList.getLast? ≠ some '\r' := by
    rw [getLast?_append_toList h]
    exact fun heq => hc (Option.some.inj heq)
  cases f with
  | writing t q cause => exact hends (c := 'e') (by decide) (by decide)
  | extraction e =>
      cases e with
      | invalidTypeName t =>
          exact hends (c := 'r') (getLast?_append_toList (by decide)) (by decide)
      | malformedAccessorName t m =>
          exact hends (c := '\x27') (getLast?_append_toList (by decide)) (by decide)
      | unresolvedFieldType t m r => exact hends (c := 'e') (by decide) (by decide)

end EntityAudit
