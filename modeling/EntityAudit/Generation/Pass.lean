import EntityAudit.Generation.Failure
import EntityAudit.Identifier.Pascal
import EntityAudit.Java.EntityClass
import EntityAudit.Report.Event
import EntityAudit.Store.Basic

/-!
# `EntityAudit.Generation.Pass` — one pass over the types of an application

A pass generates the audit type of every auditable type, each on its own: a type that fails is reported
and the pass goes on.  The common contract comes first when the pass has to write it.

## Contents

* `Round` — what the host knows about the moment
* `Written`, `Report` — the result of a pass
* `Generator` — the settings, with `Generator.writesInterface`, `Generator.render`, `Generator.announce`
* `extractionEvents`, `commit`, `audit` — one artifact
* `Task`, `Generator.tasks`, `runTasks` — all of them
* `Generator.process` — the pass
-/

namespace EntityAudit

/-! ## Rounds -/

/-- What the host knows about the moment of a pass. -/
structure Round where
  /-- No more types will come. -/
  isOver : Bool := false
  /-- Audit types are asked for. -/
  hasAnnotations : Bool := true
deriving DecidableEq, Repr

namespace Round

/-- The round after the last types. -/
def last : Round := ⟨true, false⟩

/-- Whether there is anything to do. -/
def isActive (r : Round) : Bool := !r.isOver && r.hasAnnotations

/-- The text of a round in the log. -/
def text (r : Round) : String :=
  "Round \x7b processing_over: " ++ toString r.isOver ++ ", annotations_present: "
    ++ toString r.hasAnnotations ++ " \x7d"

end Round

/-! ## Reports -/

/-- An artifact that was written. -/
structure Written where
  qualifiedName : String
  fingerprint : Fingerprint
deriving DecidableEq, Repr

/-- The result of a pass: what was written and what failed, in order, unless nothing was attempted. -/
structure Report where
  written : List Written := []
  failures : List Failure := []
  isSkipped : Bool := false
deriving DecidableEq, Repr

namespace Report

/-- Whether nothing failed. -/
def isClean (r : Report) : Bool := r.failures.isEmpty

/-- The fingerprint under which a name was first written. -/
def fingerprintOf (r : Report) (qualifiedName : String) : Option Fingerprint :=
  (r.written.find? (fun w => w.qualifiedName == qualifiedName)).map Written.fingerprint

end Report

/-! ## Generators -/

/-- The settings of a pass. -/
structure Generator where
  naming : Naming := {}
  emitInterface : Bool := false
deriving DecidableEq, Repr

/-- The version of the generator. -/
def version : String := "0.1.0"

/-- What a generator says when it starts. -/
def banner : String := "Entity Audit Generator"

namespace Generator

/-- Whether a pass writes the contract: on demand, and always outside the default package, where nobody
else provides it. -/
def writesInterface (g : Generator) : Bool :=
  g.emitInterface || g.naming.package != ({} : Naming).package

/-- The artifact of a type, or the fault that it has. -/
def render (g : Generator) (t : DomainType) : Except ExtractionError Artifact :=
  (AuditType.ofDomain g.naming t).map AuditType.artifact

/-- What a generator tells at the start. -/
def announce (g : Generator) : List Notice :=
  [.event ⟨.info, "audit generator initialised",
     [("package", g.naming.package), ("suffix", g.naming.suffix)]⟩,
   .diagnostic ⟨.note, banner, none⟩]

end Generator

/-! ## One artifact -/

/-- What is logged about a column. -/
def columnEvent (typeName : String) (m : Method) (f : AuditField) : Event :=
  ⟨.debug, "mirroring column",
    [("domain", typeName), ("method", m.name), ("field", f.rawName),
     ("value_type", f.valueType.simpleName)]⟩

/-- What is logged about columns, up to the first one that has a fault. -/
def columnEvents (typeName : String) : List Method → List Event
  | [] => []
  | m :: rest =>
    match m.auditField typeName with
    | .error _ => []
    | .ok f => columnEvent typeName m f :: columnEvents typeName rest

/-- What is logged while a type is extracted. -/
def extractionEvents (t : DomainType) : List Event :=
  if isTypeName t.name then
    (if Identifier.isPascal t.name then []
      else [⟨.warn, "domain type name is not PascalCase", [("domain", t.name)]⟩])
      ++ columnEvents t.name t.columns
  else []

/-- What became of one piece of work. -/
inductive Outcome where
  | written (w : Written)
  | failed (f : Failure)
deriving DecidableEq, Repr

/-- The artifact that was written. -/
def Outcome.written? : Outcome → Option Written
  | written w => some w
  | failed _ => none

/-- The failure. -/
def Outcome.failure? : Outcome → Option Failure
  | written _ => none
  | failed f => some f

/-- One piece of work done: its outcome, the state of the store after it, and what was told. -/
structure Step (σ : Type) where
  outcome : Outcome
  state : σ
  notices : List Notice

variable {σ κ : Type}

namespace Generator

/-- What is told about an artifact that could not be written. -/
def writeFailureNotices (g : Generator) (a : Artifact) (f : Failure) : List Notice :=
  [.event ⟨.error, "artifact write failed", [("artifact", a.qualifiedName), ("error", f.message)]⟩,
   .diagnostic ⟨.error, f.diagnosis g.naming.suffix, some a.qualifiedName⟩]

/-- Writes the artifact of the type `typeName`. -/
def commit (g : Generator) (store : Store σ κ) (typeName : String) (a : Artifact) (s : σ) : Step σ :=
  let r := store.put a s
  match r.result with
  | .ok () =>
    { outcome := .written ⟨a.qualifiedName, a.fingerprint⟩
      state := r.state
      notices := r.events.map .event
        ++ [.event ⟨.info, "wrote audit artifact",
             [("artifact", a.qualifiedName), ("fingerprint", a.fingerprint.hex)]⟩] }
  | .error cause =>
    let f := Failure.writing typeName a.qualifiedName cause
    { outcome := .failed f
      state := r.state
      notices := r.events.map .event ++ g.writeFailureNotices a f }

/-- What is told before a type is worked on. -/
def processingNotice (t : DomainType) : Notice :=
  .diagnostic ⟨.other, "Processing annotated class " ++ t.qualifiedName, some t.qualifiedName⟩

/-- What is told about a type that has no audit type. -/
def extractionFailureNotices (g : Generator) (t : DomainType) (f : Failure) : List Notice :=
  [.event ⟨.error, "audit generation aborted", [("domain", t.qualifiedName), ("error", f.message)]⟩,
   .diagnostic ⟨.error, f.diagnosis g.naming.suffix, some t.qualifiedName⟩]

/-- Generates the audit type of a type. -/
def audit (g : Generator) (store : Store σ κ) (t : DomainType) (s : σ) : Step σ :=
  let before := processingNotice t :: (extractionEvents t).map .event
  match g.render t with
  | .ok a =>
    let step := g.commit store t.name a s
    { step with notices := before ++ step.notices }
  | .error e =>
    let f := Failure.extraction e
    { outcome := .failed f
      state := s
      notices := before ++ g.extractionFailureNotices t f }

end Generator

/-! ## All of them -/

/-- A piece of work of a pass. -/
inductive Task where
  | interface
  | type (t : DomainType)
deriving DecidableEq, Repr

namespace Generator

/-- The work of a pass over some types: the contract, if it has to be written, then the auditable types. -/
def tasks (g : Generator) (types : List DomainType) : List Task :=
  (if g.writesInterface then [.interface] else []) ++ (auditableTypes types).map .type

/-- Does one piece of work. -/
def runTask (g : Generator) (store : Store σ κ) (s : σ) : Task → Step σ
  | .interface => g.commit store auditInterface (interfaceArtifact g.naming.package) s
  | .type t => g.audit store t s

end Generator

/-- Pieces of work done one after the other: their outcomes, the state after all of them, and what was
told. -/
structure Progress (σ : Type) where
  outcomes : List Outcome
  state : σ
  notices : List Notice

namespace Generator

/-- Does pieces of work one after the other. -/
def runTasks (g : Generator) (store : Store σ κ) : List Task → σ → Progress σ
  | [], s => ⟨[], s, []⟩
  | task :: rest, s =>
    let step := g.runTask store s task
    let after := g.runTasks store rest step.state
    ⟨step.outcome :: after.outcomes, after.state, step.notices ++ after.notices⟩

end Generator

/-! ## The pass -/

/-- A pass done: its report, the state of the store after it, and what was told. -/
structure Pass (σ : Type) where
  report : Report
  state : σ
  notices : List Notice

namespace Generator

/-- Runs one pass over some types.  In a round that is not active nothing is attempted. -/
def process (g : Generator) (store : Store σ κ) (round : Round) (types : List DomainType) (s : σ) :
    Pass σ :=
  if round.isActive then
    let done := g.runTasks store (g.tasks types) s
    let written := done.outcomes.filterMap Outcome.written?
    let failures := done.outcomes.filterMap Outcome.failure?
    { report := ⟨written, failures, false⟩
      state := done.state
      notices :=
        [.event ⟨.info, "starting audit generation pass",
           [("candidates", toString (auditableTypes types).length)]⟩]
          ++ done.notices
          ++ [.event ⟨.info, "audit generation pass finished",
               [("written", toString written.length), ("failed", toString failures.length)]⟩] }
  else
    { report := ⟨[], [], true⟩
      state := s
      notices := [.event ⟨.debug, "inactive round, skipping", [("round", round.text)]⟩] }

end Generator

end EntityAudit
