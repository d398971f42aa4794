import EntityAudit.Artifact
import EntityAudit.Report.Event
import EntityAudit.Volume.IoError

/-!
# `EntityAudit.Store.Basic` — where artifacts are kept

A store hands out a sink for the source of a type; a sink takes bytes, commits them when it is flushed,
and is released in the end.  What a store does at each of these moments is its own affair: it has a
state, of which nothing is assumed, it may fail, and it may log.

## Contents

* `Reply` — the result of a call, with the state after it
* `Store` — a store with states `σ` and sinks `κ`
* `Store.put` — writing an artifact
* `SinkCall`, `Store.use` — any other use of a sink
-/

namespace EntityAudit

/-- The result of a call on a store, the state after it and what was logged. -/
structure Reply (σ α : Type) where
  result : Except IoError α
  state : σ
  events : List Event := []

/-- A store of artifacts.  `σ` is its state and `κ` the type of its sinks. -/
structure Store (σ κ : Type) where
  /-- Opens the sink for the source of a type. -/
  openSink : String → σ → Reply σ κ
  /-- Hands bytes to a sink. -/
  write : ByteArray → κ × σ → Reply (κ × σ) Unit
  /-- Commits what a sink was given. -/
  flush : κ × σ → Reply (κ × σ) Unit
  /-- Gives a sink back; nothing can be reported any more, but something can be logged. -/
  release : κ × σ → σ × List Event

namespace Store

variable {σ κ : Type}

/-! ## Writing an artifact -/

/-- Gives a sink back after a call on it, with the result of that call. -/
def finish (store : Store σ κ) (r : Reply (κ × σ) Unit) : Reply σ Unit :=
  let (s, events) := store.release r.state
  ⟨r.result, s, r.events ++ events⟩

/-- Writes bytes to an open sink and commits them; a failure to write leaves nothing to commit. -/
def fill (store : Store σ κ) (bytes : ByteArray) (k : κ × σ) : Reply (κ × σ) Unit :=
  let w := store.write bytes k
  match w.result with
  | .error e => ⟨.error e, w.state, w.events⟩
  | .ok () =>
    let f := store.flush w.state
    ⟨f.result, f.state, w.events ++ f.events⟩

/-- Writes an artifact: opens its sink, hands over its bytes, commits them and releases the sink.  The
first failure is the result, and the sink is released in any case. -/
def put (store : Store σ κ) (a : Artifact) (s : σ) : Reply σ Unit :=
  let opened := store.openSink a.qualifiedName s
  match opened.result with
  | .error e => ⟨.error e, opened.state, opened.events⟩
  | .ok k =>
    let r := store.finish (store.fill a.bytes (k, opened.state))
    { r with events := opened.events ++ r.events }

/-! ## Any other use -/

/-- A call on an open sink. -/
inductive SinkCall where
  | write (bytes : ByteArray)
  | flush

/-- One call on an open sink. -/
def call (store : Store σ κ) (c : SinkCall) (k : κ × σ) : Reply (κ × σ) Unit :=
  match c with
  | .write bytes => store.write bytes k
  | .flush => store.flush k

/-- Calls on an open sink one after the other, whatever their results are. -/
def callAll (store : Store σ κ) :
    List SinkCall → κ × σ → List (Except IoError Unit) × (κ × σ) × List Event
  | [], k => ([], k, [])
  | c :: rest, k =>
    let r := store.call c k
    let (results, k', events) := store.callAll rest r.state
    (r.result :: results, k', r.events ++ events)

/-- Opens a sink, makes some calls on it and releases it. -/
def use (store : Store σ κ) (name : String) (calls : List SinkCall) (s : σ) :
    Reply σ (List (Except IoError Unit)) :=
  let opened := store.openSink name s
  match opened.result with
  | .error e => ⟨.error e, opened.state, opened.events⟩
  | .ok k =>
    let (results, k', events) := store.callAll calls (k, opened.state)
    let (s', released) := store.release k'
    ⟨.ok results, s', opened.events ++ events ++ released⟩

end Store

end EntityAudit
