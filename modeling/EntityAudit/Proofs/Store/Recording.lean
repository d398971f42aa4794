import EntityAudit.Store.Basic

/-!
# `EntityAudit.Proofs.Store.Recording` — a store that keeps a record of its calls

Whatever a store does, a recording store in front of it does the same and notes each call with the
failure it ended in. It is the instrument by which statements about *all* stores speak of the calls that
were made.

## Contents

* `StoreCall`, `failureOf` — an entry of the record
* `Recording.store` — the store with a record
* `PutCalls` — the four ways in which writing an artifact may go
* `fill_recording`, `put_recording` — recording changes nothing, and the record grows by one of the four
  ways
-/

namespace EntityAudit

/-! ## Entries -/

/-- A call on a store or on one of its sinks, with the failure that it ended in, if any. -/
inductive StoreCall where
  | opened (name : String) (failure : Option IoError)
  | wrote (bytes : ByteArray) (failure : Option IoError)
  | flushed (failure : Option IoError)
  | released

/-- The name under which a call opens a sink. -/
def StoreCall.openedName? : StoreCall → Option String
  | opened name _ => some name
  | wrote _ _ | flushed _ | released => none

/-- The failure that a result is. -/
def failureOf {α : Type} : Except IoError α → Option IoError
  | .ok _ => none
  | .error e => some e

/-! ## The record -/

namespace Recording

variable {σ κ : Type}

/-- A store in front of `behind`: every call is passed on and noted at the end of the record. -/
def store (behind : Store σ κ) : Store (σ × List StoreCall) κ where
  openSink name s :=
    let r := behind.openSink name s.1
    ⟨r.result, (r.state, s.2 ++ [.opened name (failureOf r.result)]), r.events⟩
  write bytes k :=
    let r := behind.write bytes (k.1, k.2.1)
    ⟨r.result, (r.state.1, r.state.2, k.2.2 ++ [.wrote bytes (failureOf r.result)]), r.events⟩
  flush k :=
    let r := behind.flush (k.1, k.2.1)
    ⟨r.result, (r.state.1, r.state.2, k.2.2 ++ [.flushed (failureOf r.result)]), r.events⟩
  release k :=
    let r := behind.release (k.1, k.2.1)
    ((r.1, k.2.2 ++ [.released]), r.2)

end Recording

/-! ## Writing an artifact -/

/-- The calls that writing an artifact makes, and the failure that it ends in: a failure at any of the
three stages is the last but the release of the sink, and the bytes are handed over before the flush. -/
inductive PutCalls (a : Artifact) : List StoreCall → Option IoError → Prop where
  | openingFails (e : IoError) : PutCalls a [.opened a.qualifiedName (some e)] (some e)
  | writingFails (e : IoError) :
      PutCalls a [.opened a.qualifiedName none, .wrote a.bytes (some e), .released] (some e)
  | flushingFails (e : IoError) :
      PutCalls a [.opened a.qualifiedName none, .wrote a.bytes none, .flushed (some e), .released]
        (some e)
  | succeeds :
      PutCalls a [.opened a.qualifiedName none, .wrote a.bytes none, .flushed none, .released] none

/-- Writing an artifact opens one sink, under its name. -/
theorem PutCalls.openedNames {a : Artifact} {calls : List StoreCall} {failure : Option IoError}
    (h : PutCalls a calls failure) :
    calls.filterMap StoreCall.openedName? = [a.qualifiedName] := by
  cases h <;> rfl

variable {σ κ : Type}

/-- Filling an open sink: the bytes are handed over and then committed, up to the first failure. -/
theorem fill_recording (store : Store σ κ) (a : Artifact) (k : κ) (s : σ) (record : List StoreCall) :
    ∃ calls, PutCalls a (.opened a.qualifiedName none :: (calls ++ [.released]))
        (failureOf (store.fill a.bytes (k, s)).result) ∧
      (Recording.store store).fill a.bytes (k, s, record)
        = { store.fill a.bytes (k, s) with
            state := ((store.fill a.bytes (k, s)).state.1, (store.fill a.bytes (k, s)).state.2,
              record ++ calls) } := by
  cases hwrite : (store.write a.bytes (k, s)).result with
  | error e =>
      refine ⟨[.wrote a.bytes (some e)], ?_, ?_⟩
      · simp only [Store.fill, hwrite]
        exact .writingFails e
      · simp only [Store.fill, Recording.store, hwrite, failureOf]
  | ok u =>
      cases hflush : (store.flush (store.write a.bytes (k, s)).state).result with
      | error e =>
          refine ⟨[.wrote a.bytes none, .flushed (some e)], ?_, ?_⟩
          · simp only [Store.fill, hwrite, hflush]
            exact .flushingFails e
          · simp only [Store.fill, Recording.store, hwrite, hflush, failureOf, List.append_assoc,
              List.singleton_append]
      | ok u =>
          refine ⟨[.wrote a.bytes none, .flushed none], ?_, ?_⟩
          · simp only [Store.fill, hwrite, hflush]
            exact .succeeds
          · simp only [Store.fill, Recording.store, hwrite, hflush, failureOf, List.append_assoc,
              List.singleton_append]

/-- **Recording changes nothing**, and the record of a write grows by the calls of one write. -/
theorem put_recording (store : Store σ κ) (a : Artifact) (s : σ) (record : List StoreCall) :
    ∃ calls, PutCalls a calls (failureOf (store.put a s).result) ∧
      (Recording.store store).put a (s, record)
        = { store.put a s with state := ((store.put a s).state, record ++ calls) } := by
  have hsink : (Recording.store store).openSink a.qualifiedName (s, record)
      = { store.openSink a.qualifiedName s with
          state := ((store.openSink a.qualifiedName s).state,
            record ++ [.opened a.qualifiedName
              (failureOf (store.openSink a.qualifiedName s).result)]) } := rfl
  cases hopen : (store.openSink a.qualifiedName s).result with
  | error e =>
      rw [hopen] at hsink
      refine ⟨[.opened a.qualifiedName (some e)], ?_, ?_⟩
      · simp only [Store.put, hopen]
        exact .openingFails e
      · simp only [Store.put, hsink, hopen, failureOf]
  | ok k =>
      -- The sink that was opened is filled and, whatever comes of it, released.
      rw [hopen] at hsink
      obtain ⟨calls, hcalls, hfill⟩ := fill_recording store a k
        (store.openSink a.qualifiedName s).state (record ++ [.opened a.qualifiedName none])
      refine ⟨.opened a.qualifiedName none :: (calls ++ [.released]), ?_, ?_⟩
      · simp only [Store.put, Store.finish, hopen]
        exact hcalls
      · simp only [Store.put, Store.finish, hsink, hopen, failureOf, hfill]
        simp only [Recording.store, List.append_assoc, List.cons_append, List.nil_append]

end EntityAudit
