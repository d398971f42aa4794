import EntityAudit.Proofs.Generation.Failures

/-!
# `EntityAudit.Proofs.Generation.Blame` — what an error says about the type that has failed

A type that has no audit type is blamed itself: the error is about the type and names the class that was to be
written.  An artifact that cannot be written is blamed in place of its type: the error is about the artifact,
and the class that it names is what follows the last dot in the name of the artifact.

## Contents

* `NamesClass`, `namesClass_extraction` — messages that name a class
* `IsSimpleName`, `isSimpleName_simpleNameOf`, `IsSimpleName.eq_iff` — what follows the last dot
* `Generator.Blames`, `blames_fault`, `blames_unwritten` — the error of a type that fails
* `Generator.Reports`, `Accounted.reports` — what one piece of work reports (the step)
* `process_blames` — what a pass reports (the run)
* `process_blames_artifact` — an error that is not about the type
-/

namespace EntityAudit

/-! ## Messages -/

/-- A message names the class that was to be written. -/
def NamesClass (message className : String) : Prop :=
  ∃ opening closing, message = opening ++ "to write the " ++ className ++ " class file" ++ closing

/-- **The diagnosis of a fault** names the audit class of the type. -/
theorem namesClass_extraction (e : ExtractionError) (suffix : String) :
    NamesClass ((Failure.extraction e).diagnosis suffix) (e.typeName ++ suffix) := by
  have hdescribing (text : String) : NamesClass ("Problem describing " ++ e.typeName ++ " to write the "
      ++ e.typeName ++ suffix ++ " class file: " ++ text) (e.typeName ++ suffix) := by
    refine ⟨"Problem describing " ++ e.typeName ++ " ", ": " ++ text, ?_⟩
    have hmiddle : " to write the " = " " ++ "to write the " := by decide
    have hclosing : " class file: " = " class file" ++ ": " := by decide
    rw [hmiddle, hclosing]
    simp only [String.append_assoc]
  -- Two faults are described in one way, with the fault itself at the end.
  cases e with
  | invalidTypeName t => exact hdescribing _
  | malformedAccessorName t m => exact hdescribing _
  | unresolvedFieldType t m r =>
      refine ⟨"Problem finding the given return type of a method ", "", ?_⟩
      have hopening : "Problem finding the given return type of a method to write the "
          = "Problem finding the given return type of a method " ++ "to write the " := by decide
      rw [String.append_empty, ← hopening, ← String.append_assoc]
      rfl

/-! ## What follows the last dot -/

/-- The text `simple` is what follows the last dot of `name`, or all of it if there is none. -/
def IsSimpleName (simple name : String) : Prop :=
  '.' ∉ simple.toList ∧ (name = simple ∨ ∃ front, name = front ++ "." ++ simple)

theorem isSimpleName_simpleNameOf (name : String) : IsSimpleName (simpleNameOf name) name := by
  have hjoin : ['.'].intercalate (name.toList.splitOn '.') = name.toList := List.intercalate_splitOn '.'
  obtain ⟨others, last, hpieces⟩ :=
    (List.eq_nil_or_concat' _).resolve_left (List.splitOn_ne_nil '.' name.toList)
  -- The simple name is the last piece; the front is what the other pieces are joined to.
  have hsimple : simpleNameOf name = String.ofList last := by
    rw [simpleNameOf, hpieces, List.getLast?_concat]
    rfl
  have hlast : last ∈ name.toList.splitOn '.' := by
    rw [hpieces]
    exact List.mem_append_right others List.mem_cons_self
  rw [hpieces, Text.intercalate_concat] at hjoin
  rw [hsimple]
  refine ⟨?_, ?_⟩
  · rw [String.toList_ofList]
    exact Text.notMem_of_mem_splitOn hlast
  · obtain rfl | ⟨first, before, rfl⟩ := List.eq_nil_or_concat' others
    · exact Or.inl (String.toList_inj.mp (hjoin.symm.trans String.toList_ofList.symm))
    · rw [← Text.intercalate_concat_append] at hjoin
      refine Or.inr ⟨String.ofList (['.'].intercalate (first ++ [before])), String.toList_inj.mp ?_⟩
      simp only [String.toList_append, String.toList_ofList]
      exact hjoin.symm

/-- A name is its own simple name exactly if it has no dot. -/
theorem IsSimpleName.eq_iff {simple name : String} (h : IsSimpleName simple name) :
    simple = name ↔ '.' ∉ name.toList := by
  obtain ⟨hdot, hname⟩ := h
  constructor
  · rintro rfl
    exact hdot
  · intro hundotted
    obtain heq | ⟨front, rfl⟩ := hname
    · exact heq.symm
    · refine absurd ?_ hundotted
      rw [String.toList_append, String.toList_append]
      exact List.mem_append_left _ (List.mem_append_right _ List.mem_cons_self)

/-! ## The error of a type -/

/-- **What the one error says of a type that has failed.**  After a fault it is about the type and names its
audit class.  After a write it is about the artifact, and it names what follows the last dot of the name of
the audit class, which is all of it exactly if the suffix has no dot. -/
inductive Generator.Blames (g : Generator) (t : DomainType) : Failure → Diagnostic → Prop where
  | fault {e : ExtractionError} {message : String} (hfault : AuditType.ofDomain g.naming t = .error e)
      (hnames : NamesClass message (t.name ++ g.naming.suffix)) :
      Blames g t (.extraction e) ⟨.error, message, some t.qualifiedName⟩
  | unwritten {a : AuditType} {cause : IoError} {className : String}
      (hdescribed : AuditType.ofDomain g.naming t = .ok a)
      (hname : a.qualifiedName = g.naming.package ++ "." ++ (t.name ++ g.naming.suffix))
      (hsimple : IsSimpleName className (t.name ++ g.naming.suffix))
      (hexact : className = t.name ++ g.naming.suffix ↔ '.' ∉ g.naming.suffix.toList) :
      Blames g t (.writing t.name a.qualifiedName cause)
        ⟨.error, "Problem opening file to write the " ++ className ++ " class file",
          some a.qualifiedName⟩

/-- **What a piece of work reports**: an error if it fails, which says what it has to, and none otherwise. -/
inductive Generator.Reports (g : Generator) (task : Task) : Account → Prop where
  | success {calls : List StoreCall} {w : Written} {diagnostics : List Diagnostic}
      (hnone : diagnostics.filter Diagnostic.isError = []) :
      Reports g task ⟨calls, .written w, diagnostics⟩
  | failure {calls : List StoreCall} {f : Failure} {diagnostics : List Diagnostic} {d : Diagnostic}
      (hone : diagnostics.filter Diagnostic.isError = [d]) (hblames : ∀ t, task = .type t → g.Blames t f d) :
      Reports g task ⟨calls, .failed f, diagnostics⟩

namespace Generator

variable {g : Generator} {t : DomainType}

theorem blames_fault {e : ExtractionError} (h : g.render t = .error e) :
    g.Blames t (.extraction e)
      ⟨.error, (Failure.extraction e).diagnosis g.naming.suffix, some t.qualifiedName⟩ := by
  unfold render at h
  cases hfault : AuditType.ofDomain g.naming t with
  | ok a =>
      rw [hfault] at h
      exact nomatch h
  | error e' =>
      rw [hfault] at h
      obtain rfl : e' = e := Except.error.inj h
      have hnames := namesClass_extraction e' g.naming.suffix
      rw [(concerns_of_ofDomain hfault).1] at hnames
      exact .fault hfault hnames

theorem blames_unwritten {artifact : Artifact} {cause : IoError} (h : g.render t = .ok artifact) :
    g.Blames t (.writing t.name artifact.qualifiedName cause)
      ⟨.error, (Failure.writing t.name artifact.qualifiedName cause).diagnosis g.naming.suffix,
        some artifact.qualifiedName⟩ := by
  unfold render at h
  cases hdescribed : AuditType.ofDomain g.naming t with
  | error e =>
      rw [hdescribed] at h
      exact nomatch h
  | ok a =>
      rw [hdescribed] at h
      obtain rfl : a.artifact = artifact := Except.ok.inj h
      obtain ⟨hgenerated, hpackage, -⟩ := named_of_ofDomain hdescribed
      have hname : a.qualifiedName = g.naming.package ++ "." ++ (t.name ++ g.naming.suffix) := by
        rw [AuditType.qualifiedName, hgenerated, hpackage, Naming.generatedName]
      have hsimple := isSimpleName_simpleNameOf (t.name ++ g.naming.suffix)
      -- The name of the type has no dot, so the name of the audit class has those of the suffix.
      have hundotted : '.' ∉ t.name.toList := by
        intro hmem
        exact absurd (isTypeNameChar_of_mem (extracts_of_ofDomain hdescribed).1 hmem) (by decide)
      have hexact := hsimple.eq_iff
      rw [String.toList_append, List.mem_append, or_iff_right hundotted] at hexact
      have hclass : simpleNameOf a.qualifiedName = simpleNameOf (t.name ++ g.naming.suffix) := by
        rw [hname]
        exact simpleNameOf_append g.naming.package (t.name ++ g.naming.suffix)
      rw [← hclass] at hsimple hexact
      exact .unwritten hdescribed hname hsimple hexact

/-- **One piece of work** reports what it has to. -/
theorem Accounted.reports {task : Task} {account : Account} (h : g.Accounted task account) :
    g.Reports task account := by
  -- The diagnostic that precedes the work on a type is no error, so one error is left at most.
  cases h with
  | contract hwrote =>
      cases hwrote with
      | success _ => exact .success rfl
      | failure _ => exact .failure rfl nofun
  | @rendered t a _ hrender hwrote =>
      cases hwrote with
      | success _ => exact .success rfl
      | failure _ =>
          refine .failure rfl fun u htask => ?_
          cases htask
          exact blames_unwritten hrender
  | @rejected t e hrender =>
      refine .failure rfl fun u htask => ?_
      cases htask
      exact blames_fault hrender

end Generator

/-! ## The errors of a pass -/

variable {σ κ : Type}

/-- **The errors of a pass**, for every store: each piece of work reports an error if it fails and none
otherwise.  The error of a type that has a fault is about the type and names its audit class; the error of a
type that could not be written is about its artifact, and it names the audit class exactly if the suffix has
no dot. -/
theorem process_blames (g : Generator) (store : Store σ κ) {round : Round}
    (hactive : round.isActive = true) (types : List DomainType) (s : σ) :
    ∃ accounts : List Account, List.Forall₂ g.Reports (g.tasks types) accounts ∧
      (g.process store round types s).report.written
        = (accounts.map Account.outcome).filterMap Outcome.written? ∧
      (g.process store round types s).report.failures
        = (accounts.map Account.outcome).filterMap Outcome.failure? ∧
      diagnosticsOf (g.process store round types s).notices = accounts.flatMap Account.diagnostics := by
  obtain ⟨accounts, heach, houtcomes, hdiagnostics, -⟩ :=
    runTasks_accounted g store (g.tasks types) s []
  refine ⟨accounts, heach.imp fun _ _ h => h.reports, ?_, ?_, ?_⟩
  · rw [written_process g store hactive, houtcomes]
  · rw [failures_process g store hactive, houtcomes]
  · rw [diagnosticsOf_process g store hactive, hdiagnostics]

/-- A boat that cannot be written, and a truck with a fault. -/
theorem process_blames_boatTruckCar :
    Round.isActive {} = true ∧
      ∃ accounts, List.Forall₂ (Generator.Reports {}) (Generator.tasks {} boatTruckCar) accounts ∧
        (Generator.process {} refusingBoats {} boatTruckCar Catalog.empty).report.written
          = (accounts.map Account.outcome).filterMap Outcome.written? ∧
        (Generator.process {} refusingBoats {} boatTruckCar Catalog.empty).report.failures
          = (accounts.map Account.outcome).filterMap Outcome.failure? ∧
        diagnosticsOf (Generator.process {} refusingBoats {} boatTruckCar Catalog.empty).notices
          = accounts.flatMap Account.diagnostics :=
  ⟨rfl, process_blames {} refusingBoats rfl boatTruckCar Catalog.empty⟩

/-- The first type of them, without columns. -/
def bareBoat : DomainType := ⟨"Boat", "a", [.auditable], []⟩

/-- The errors of a pass over the boat, under a suffix. -/
def boatErrors (suffix : String) : List Diagnostic :=
  (diagnosticsOf (Generator.process ⟨{ suffix := suffix }, false⟩ refusingBoats {} [bareBoat]
    Catalog.empty).notices).filter Diagnostic.isError

/-- **The error of a write is not about the type**, and under a suffix with a dot it does not name the audit
class. -/
theorem process_blames_artifact :
    bareBoat.qualifiedName = "a.Boat" ∧
      boatErrors "Audit" = [⟨.error, "Problem opening file to write the BoatAudit class file",
        some "com.lsq.systems.metagen58.BoatAudit"⟩] ∧
      boatErrors "Audit.v2" = [⟨.error, "Problem opening file to write the v2 class file",
        some "com.lsq.systems.metagen58.BoatAudit.v2"⟩] := by
  refine ⟨rfl, rfl, rfl⟩

end EntityAudit
