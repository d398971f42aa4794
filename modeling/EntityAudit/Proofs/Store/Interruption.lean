import EntityAudit.Store.Faulty

/-!
# `EntityAudit.Proofs.Store.Interruption` — a write that is made to fail on its way to a store

A store may stand in front of another one and pass its calls on, but make any of them fail: it refuses the
call, or it passes it on and reports a failure all the same.  Which calls fail may depend on anything.  What
a failed write leaves behind is decided by how far it got, because the sink is released in any case.

## Contents

* `Store.failedAt?`, `failedAt?_of_error` — the moment at which a write fails
* `Store.Delegates`, `Faulty.delegates` — a store in front of another one
* `Store.Reach`, `Reach.At` — how far a write gets behind, and which moments of failure this goes with
* `Store.Abandons`, `Delegates.abandonsAt` — what a failed write leaves behind
-/

namespace EntityAudit

variable {σ κ τ ι : Type}

namespace Store

/-! ## The moment of a failure -/

/-- The moment at which writing an artifact fails, if it does. -/
def failedAt? (store : Store σ κ) (a : Artifact) (s : σ) : Option Faulty.Stage :=
  let opened := store.openSink a.qualifiedName s
  match opened.result with
  | .error _ => some .opening
  | .ok k =>
    let w := store.write a.bytes (k, opened.state)
    match w.result with
    | .error _ => some .writing
    | .ok () =>
      match (store.flush w.state).result with
      | .error _ => some .flushing
      | .ok () => none

/-- A write that ends in an error has failed at one of the moments. -/
theorem failedAt?_of_error {store : Store σ κ} {a : Artifact} {s : σ} {e : IoError}
    (h : (store.put a s).result = .error e) : ∃ stage, store.failedAt? a s = some stage := by
  cases hopen : (store.openSink a.qualifiedName s).result with
  | error e' => exact ⟨.opening, by simp only [failedAt?, hopen]⟩
  | ok k =>
      cases hwrite : (store.write a.bytes (k, (store.openSink a.qualifiedName s).state)).result with
      | error e' => exact ⟨.writing, by simp only [failedAt?, hopen, hwrite]⟩
      | ok =>
          cases hflush : (store.flush
              (store.write a.bytes (k, (store.openSink a.qualifiedName s).state)).state).result with
          | error e' => exact ⟨.flushing, by simp only [failedAt?, hopen, hwrite, hflush]⟩
          | ok =>
              simp only [put, finish, fill, hopen, hwrite, hflush] at h
              exact nomatch h

/-! ## Stores in front of others -/

/-- How opening a sink in front goes, next to how it goes behind: the call is passed on, or it is refused, or
it is passed on and fails all the same, if `passes` allows that.  In the last case the sink behind is released
at once. -/
inductive OpensLike (behind : Store σ κ) (stateOf : τ → σ) (sinkOf : ι → κ) (passes : Prop) (s : σ)
    (r : Reply τ ι) (answer : Reply σ κ) : Prop where
  | passedOn (hresult : r.result.map sinkOf = answer.result) (hstate : stateOf r.state = answer.state)
  | refused {e : IoError} (hresult : r.result = .error e) (hstate : stateOf r.state = s)
  | overruled {e : IoError} {k : κ} (hpasses : passes) (hresult : r.result = .error e)
      (hopen : answer.result = .ok k) (hstate : stateOf r.state = (behind.release (k, answer.state)).1)

/-- How a call on a sink in front goes, next to how it goes behind. -/
inductive GoesLike (view : ι × τ → κ × σ) (passes : Prop) (k : κ × σ) (r : Reply (ι × τ) Unit)
    (answer : Reply (κ × σ) Unit) : Prop where
  | passedOn (hresult : r.result = answer.result) (hstate : view r.state = answer.state)
  | refused {e : IoError} (hresult : r.result = .error e) (hstate : view r.state = k)
  | overruled {e : IoError} (hpasses : passes) (hresult : r.result = .error e)
      (hstate : view r.state = answer.state)

/-- **The store `front` passes its calls on to `behind`, but may make any of them fail.**  Its states and its
sinks may hold more than those behind: `stateOf` and `sinkOf` tell what they are there.  A call that is made
to fail is not passed on, unless `passes` holds.  Handing over nothing need not be passed on. -/
structure Delegates (front : Store τ ι) (behind : Store σ κ) (stateOf : τ → σ) (sinkOf : ι → κ)
    (passes : Prop) : Prop where
  openSink : ∀ name s, OpensLike behind stateOf sinkOf passes (stateOf s) (front.openSink name s)
    (behind.openSink name (stateOf s))
  write : ∀ bytes k,
    GoesLike (Prod.map sinkOf stateOf) passes (k.map sinkOf stateOf) (front.write bytes k)
      (behind.write bytes (k.map sinkOf stateOf)) ∨
    (bytes.isEmpty = true ∧ (front.write bytes k).result = .ok () ∧
      (front.write bytes k).state.map sinkOf stateOf = k.map sinkOf stateOf)
  flush : ∀ k,
    GoesLike (Prod.map sinkOf stateOf) passes (k.map sinkOf stateOf) (front.flush k)
      (behind.flush (k.map sinkOf stateOf))
  release : ∀ k, stateOf (front.release k).1 = (behind.release (k.map sinkOf stateOf)).1

/-! ## How far a write gets -/

/-- How far a write gets with a store: the last of its steps that succeeds there. -/
inductive Reach where
  | unopened
  | opened
  | handed
  | flushed
deriving DecidableEq, Repr

/-- How far a write may have got behind that failed in front at a moment.  If `passes` holds, the call that
failed may have succeeded behind. -/
inductive Reach.At (passes : Prop) : Faulty.Stage → Reach → Prop where
  | opening : At passes .opening .unopened
  | openingPassed (hpasses : passes) : At passes .opening .opened
  | writing : At passes .writing .opened
  | writingPassed (hpasses : passes) : At passes .writing .handed
  | flushing : At passes .flushing .handed
  | flushingPassed (hpasses : passes) : At passes .flushing .flushed

/-! ## What a failed write leaves behind -/

/-- A sink has been opened; it comes with the state after that. -/
def Opens (behind : Store σ κ) (name : String) (s : σ) (k : κ × σ) : Prop :=
  (behind.openSink name s).result = .ok k.1 ∧ (behind.openSink name s).state = k.2

/-- Bytes have been handed over to an open sink: they were accepted, or there were none. -/
inductive Handed (behind : Store σ κ) (bytes : ByteArray) (k : κ × σ) : κ × σ → Prop where
  | accepted (hwrite : (behind.write bytes k).result = .ok ()) :
      Handed behind bytes k (behind.write bytes k).state
  | nothing (hempty : bytes.isEmpty = true) : Handed behind bytes k k

/-- **What a write leaves behind** that got so far and then failed in front.  Its next call was not made
here, or it failed here too; either way the sink, if there is one, is released. -/
inductive Abandons (behind : Store σ κ) (a : Artifact) (s : σ) : Reach → σ → Prop where
  | untouched : Abandons behind a s .unopened s
  | notOpened {e : IoError} (hopen : (behind.openSink a.qualifiedName s).result = .error e) :
      Abandons behind a s .unopened (behind.openSink a.qualifiedName s).state
  | unwritten {k : κ × σ} (hopen : behind.Opens a.qualifiedName s k) :
      Abandons behind a s .opened (behind.release k).1
  | notWritten {k : κ × σ} {e : IoError} (hopen : behind.Opens a.qualifiedName s k)
      (hwrite : (behind.write a.bytes k).result = .error e) :
      Abandons behind a s .opened (behind.release (behind.write a.bytes k).state).1
  | unflushed {k w : κ × σ} (hopen : behind.Opens a.qualifiedName s k)
      (hhanded : behind.Handed a.bytes k w) :
      Abandons behind a s .handed (behind.release w).1
  | notFlushed {k w : κ × σ} {e : IoError} (hopen : behind.Opens a.qualifiedName s k)
      (hhanded : behind.Handed a.bytes k w) (hflush : (behind.flush w).result = .error e) :
      Abandons behind a s .handed (behind.release (behind.flush w).state).1
  | flushed {k w : κ × σ} (hopen : behind.Opens a.qualifiedName s k)
      (hhanded : behind.Handed a.bytes k w) (hflush : (behind.flush w).result = .ok ()) :
      Abandons behind a s .flushed (behind.release (behind.flush w).state).1

/-- What a write leaves behind that failed in front at a moment. -/
def AbandonsAt (behind : Store σ κ) (passes : Prop) (a : Artifact) (s : σ) (stage : Faulty.Stage) (s' : σ) :
    Prop :=
  ∃ reach, Reach.At passes stage reach ∧ behind.Abandons a s reach s'

section Delegates

variable {front : Store τ ι} {behind : Store σ κ} {stateOf : τ → σ} {sinkOf : ι → κ} {passes : Prop}
  {a : Artifact} {s : τ} {e : IoError}

/-- A sink that was opened in front has been opened behind. -/
theorem Delegates.opened (h : front.Delegates behind stateOf sinkOf passes) {k : ι}
    (hopen : (front.openSink a.qualifiedName s).result = .ok k) :
    behind.Opens a.qualifiedName (stateOf s)
      (Prod.map sinkOf stateOf (k, (front.openSink a.qualifiedName s).state)) := by
  cases h.openSink a.qualifiedName s with
  | passedOn hresult hstate =>
      rw [hopen] at hresult
      exact ⟨hresult.symm, hstate.symm⟩
  | refused hresult _ => exact nomatch hopen.symm.trans hresult
  | overruled _ hresult _ _ => exact nomatch hopen.symm.trans hresult

/-- What was handed over in front has been handed over behind. -/
theorem Delegates.handed (h : front.Delegates behind stateOf sinkOf passes) {bytes : ByteArray} {k : ι × τ}
    (hwrite : (front.write bytes k).result = .ok ()) :
    behind.Handed bytes (k.map sinkOf stateOf) ((front.write bytes k).state.map sinkOf stateOf) := by
  obtain hcall | ⟨hempty, -, hstate⟩ := h.write bytes k
  · cases hcall with
    | passedOn hresult hstate =>
        rw [hstate]
        exact .accepted (hresult.symm.trans hwrite)
    | refused hresult _ => exact nomatch hwrite.symm.trans hresult
    | overruled _ hresult _ => exact nomatch hwrite.symm.trans hresult
  · rw [hstate]
    exact .nothing hempty

/-- No sink could be opened in front. -/
theorem Delegates.abandonsAt_opening (h : front.Delegates behind stateOf sinkOf passes)
    (hopen : (front.openSink a.qualifiedName s).result = .error e) :
    behind.AbandonsAt passes a (stateOf s) .opening
      (stateOf (front.openSink a.qualifiedName s).state) := by
  cases h.openSink a.qualifiedName s with
  | passedOn hresult hstate =>
      rw [hopen] at hresult
      rw [hstate]
      exact ⟨_, .opening, .notOpened hresult.symm⟩
  | refused _ hstate =>
      rw [hstate]
      exact ⟨_, .opening, .untouched⟩
  | overruled hpasses _ hbehind hstate =>
      rw [hstate]
      exact ⟨_, .openingPassed hpasses, .unwritten ⟨hbehind, rfl⟩⟩

/-- The bytes could not be handed over in front. -/
theorem Delegates.abandonsAt_writing (h : front.Delegates behind stateOf sinkOf passes) {w : ι × τ}
    (hopen : behind.Opens a.qualifiedName (stateOf s) (w.map sinkOf stateOf))
    (hwrite : (front.write a.bytes w).result = .error e) :
    behind.AbandonsAt passes a (stateOf s) .writing
      (behind.release ((front.write a.bytes w).state.map sinkOf stateOf)).1 := by
  obtain hcall | ⟨-, hok, -⟩ := h.write a.bytes w
  · cases hcall with
    | passedOn hresult hstate =>
        rw [hstate]
        exact ⟨_, .writing, .notWritten hopen (hresult.symm.trans hwrite)⟩
    | refused _ hstate =>
        rw [hstate]
        exact ⟨_, .writing, .unwritten hopen⟩
    | overruled hpasses _ hstate =>
        -- The call has reached the store behind, where it may have failed as well.
        rw [hstate]
        cases hbehind : (behind.write a.bytes (w.map sinkOf stateOf)).result with
        | error e' => exact ⟨_, .writing, .notWritten hopen hbehind⟩
        | ok => exact ⟨_, .writingPassed hpasses, .unflushed hopen (.accepted hbehind)⟩
  · exact nomatch hwrite.symm.trans hok

/-- The bytes could not be committed in front. -/
theorem Delegates.abandonsAt_flushing (h : front.Delegates behind stateOf sinkOf passes)
    {k : κ × σ} {w : ι × τ} (hopen : behind.Opens a.qualifiedName (stateOf s) k)
    (hhanded : behind.Handed a.bytes k (w.map sinkOf stateOf))
    (hflush : (front.flush w).result = .error e) :
    behind.AbandonsAt passes a (stateOf s) .flushing
      (behind.release ((front.flush w).state.map sinkOf stateOf)).1 := by
  cases h.flush w with
  | passedOn hresult hstate =>
      rw [hstate]
      exact ⟨_, .flushing, .notFlushed hopen hhanded (hresult.symm.trans hflush)⟩
  | refused _ hstate =>
      rw [hstate]
      exact ⟨_, .flushing, .unflushed hopen hhanded⟩
  | overruled hpasses _ hstate =>
      rw [hstate]
      cases hbehind : (behind.flush (w.map sinkOf stateOf)).result with
      | error e' => exact ⟨_, .flushing, .notFlushed hopen hhanded hbehind⟩
      | ok => exact ⟨_, .flushingPassed hpasses, .flushed hopen hhanded hbehind⟩

/-- **A failed write in front** leaves behind what a write leaves there that failed at its moment. -/
theorem Delegates.abandonsAt (h : front.Delegates behind stateOf sinkOf passes) {stage : Faulty.Stage}
    (hfailed : front.failedAt? a s = some stage) :
    behind.AbandonsAt passes a (stateOf s) stage (stateOf (front.put a s).state) := by
  unfold failedAt? at hfailed
  -- One case for each call; a call that fails is the last one before the release.
  cases hopen : (front.openSink a.qualifiedName s).result with
  | error e =>
      simp only [hopen, Option.some.injEq] at hfailed
      subst hfailed
      simp only [put, hopen]
      exact h.abandonsAt_opening hopen
  | ok k =>
      have hbehind := h.opened hopen
      simp only [hopen] at hfailed
      simp only [put, finish, fill, hopen]
      cases hwrite : (front.write a.bytes (k, (front.openSink a.qualifiedName s).state)).result with
      | error e =>
          simp only [hwrite, Option.some.injEq] at hfailed
          subst hfailed
          simp only [h.release]
          exact h.abandonsAt_writing hbehind hwrite
      | ok =>
          have hhanded := h.handed hwrite
          simp only [hwrite] at hfailed
          simp only [h.release]
          split at hfailed
          · rename_i hflush
            cases hfailed
            exact h.abandonsAt_flushing hbehind hhanded hflush
          · cases hfailed

end Delegates

end Store

/-! ## Stores with a policy -/

/-- **A store with a policy** stands in front of the store behind it. -/
theorem Faulty.delegates (policy : String → Option Faulty.Fault) (behind : Store σ κ) (passes : Prop) :
    (Faulty.store policy behind).Delegates behind id Prod.snd passes := by
  -- Each call is refused or passed on as it is; none is passed on and fails all the same.
  refine ⟨fun name s => ?_, fun bytes k => ?_, fun k => ?_, fun k => rfl⟩
  · unfold Faulty.store
    dsimp only
    split
    · exact .refused rfl rfl
    · refine .passedOn ?_ rfl
      show ((behind.openSink name s).result.map fun k => (policy name, k)).map Prod.snd
        = (behind.openSink name s).result
      cases (behind.openSink name s).result <;> rfl
  · unfold Faulty.store
    dsimp only
    split
    · split
      · rename_i hempty
        exact Or.inr ⟨hempty, rfl, rfl⟩
      · exact Or.inl (.refused rfl rfl)
    · exact Or.inl (.passedOn rfl rfl)
  · unfold Faulty.store
    dsimp only
    split
    · exact .refused rfl rfl
    · exact .passedOn rfl rfl

end EntityAudit
