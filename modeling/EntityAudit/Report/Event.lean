/-!
# `EntityAudit.Report.Event` — the log and the messages to the host

A run tells its story in two ways: it logs events, and it reports diagnostics to the host that started
it.  The two are interleaved, so both are notices in one list.

## Contents

* `Level`, `Event` — the log
* `DiagnosticKind`, `Diagnostic` — messages to the host
* `Notice` — either of them
* `diagnosticsOf`, `eventsOf` — what a host that collects diagnostics sees
* `Diagnostic.event`, `logOf` — what a host that logs diagnostics sees
-/

namespace EntityAudit

/-! ## Events -/

/-- How important an event is. -/
inductive Level where
  | error
  | warn
  | info
  | debug
deriving DecidableEq, Repr

/-- The name of a level. -/
def Level.name : Level → String
  | error => "error"
  | warn => "warn"
  | info => "info"
  | debug => "debug"

/-- An entry of the log, with named values. -/
structure Event where
  level : Level
  message : String
  fields : List (String × String)
deriving DecidableEq, Repr

/-! ## Diagnostics -/

/-- What a diagnostic is. -/
inductive DiagnosticKind where
  | error
  | note
  | other
  | warning
deriving DecidableEq, Repr

/-- The name of a kind. -/
def DiagnosticKind.name : DiagnosticKind → String
  | error => "error"
  | note => "note"
  | other => "other"
  | warning => "warning"

/-- A message to the host, and the qualified name of the type that it is about. -/
structure Diagnostic where
  kind : DiagnosticKind
  message : String
  subject : Option String := none
deriving DecidableEq, Repr

namespace Diagnostic

/-- Whether a diagnostic reports an error. -/
def isError (d : Diagnostic) : Bool := d.kind == .error

/-- A diagnostic as one line. -/
def display (d : Diagnostic) : String := d.kind.name ++ ": " ++ d.message

/-- The event that a host logs for a diagnostic. -/
def event (d : Diagnostic) : Event :=
  let level :=
    match d.kind with
    | .error => Level.error
    | .warning => .warn
    | .note => .info
    | .other => .debug
  ⟨level, d.message, [("subject", d.subject.getD "-")]⟩

end Diagnostic

/-! ## Notices -/

/-- Something that a run tells. -/
inductive Notice where
  | event (e : Event)
  | diagnostic (d : Diagnostic)
deriving DecidableEq, Repr

namespace Notice

/-- The diagnostic that a notice is. -/
def diagnostic? : Notice → Option Diagnostic
  | event _ => none
  | diagnostic d => some d

/-- The event that a notice is. -/
def event? : Notice → Option Event
  | event e => some e
  | diagnostic _ => none

/-- The entry in the log of a host that logs its diagnostics too. -/
def entry : Notice → Event
  | event e => e
  | diagnostic d => d.event

end Notice

/-- The diagnostics among some notices, in order. -/
def diagnosticsOf (notices : List Notice) : List Diagnostic := notices.filterMap Notice.diagnostic?

/-- The events among some notices, in order. -/
def eventsOf (notices : List Notice) : List Event := notices.filterMap Notice.event?

/-- The log of a host that logs its diagnostics too. -/
def logOf (notices : List Notice) : List Event := notices.map Notice.entry

@[simp] theorem diagnosticsOf_append (xs ys : List Notice) :
    diagnosticsOf (xs ++ ys) = diagnosticsOf xs ++ diagnosticsOf ys := List.filterMap_append

@[simp] theorem diagnosticsOf_events (events : List Event) :
    diagnosticsOf (events.map .event) = [] := by
  induction events with
  | nil => rfl
  | cons e rest ih => simp [diagnosticsOf, Notice.diagnostic?]

end EntityAudit
