import EntityAudit.Proofs.Store.Delivery
import EntityAudit.Proofs.Store.Interruption
import EntityAudit.Proofs.Volume.Files
import EntityAudit.Store.Memory

/-!
# `EntityAudit.Proofs.Store.FailedWrite` — what a failed write leaves in a memory and in a directory

A write that is made to fail on its way to a memory or to a directory does not always leave the artifact as
it was.  A memory is written to at once: once the sink is open, what was there is gone.  A directory is
written to late, at a flush or when the sink is released: bytes that were handed over get to the file although
the flush has failed, exactly as if nothing had failed.

## Contents

* `Memory.leftBy`, `Memory.eq_leftBy` — memories
* `commit_cases`, `release_flush_of_error` — when a commit succeeds, and what is left when it does not
* `Directory.put_of_opens`, `Directory.result_put_of_opens` — the write that a commit ends
* `Directory.Commits`, `Directory.LeftBy`, `Directory.leftBy` — directories
* `failed_put_leaves` — a failed write in front of either store
* `failed_put_changes` — an artifact that does not stay as it was
-/

namespace EntityAudit

/-! ## Memories -/

namespace Memory

variable {m m' : Memory} {a : Artifact} {reach : Store.Reach}

/-- What a write that got so far leaves in a memory. -/
def leftBy (a : Artifact) (m : Memory) : Store.Reach → Memory
  | .unopened => m
  | .opened => m.insert a.qualifiedName ByteArray.empty
  | .handed => m.insert a.qualifiedName a.bytes
  | .flushed => m.insert a.qualifiedName a.bytes

/-- A sink is a name, and its entry is empty at first. -/
theorem eq_of_opens {name : String} {k : String × Memory} (h : store.Opens name m k) :
    k = (name, m.insert name ByteArray.empty) :=
  Prod.ext (Except.ok.inj h.1).symm h.2.symm

/-- An empty entry to which bytes have been handed over holds them. -/
theorem state_of_handed {k w : String × Memory} (hopen : store.Opens a.qualifiedName m k)
    (h : store.Handed a.bytes k w) : w.2 = m.insert a.qualifiedName a.bytes := by
  obtain rfl := eq_of_opens hopen
  cases h with
  | accepted _ => exact congrArg Reply.state (put_memory a m)
  | nothing hempty =>
      have hbytes : a.bytes = ByteArray.empty := ByteArray.size_eq_zero_iff.mp (beq_iff_eq.mp hempty)
      rw [hbytes]

/-- **Memories**: the entry is as it was, or it is empty, or it holds the bytes. -/
theorem eq_leftBy (h : store.Abandons a m reach m') : m' = m.leftBy a reach := by
  -- No call on a memory fails, so three of the ways to be abandoned do not occur.
  cases h with
  | untouched => rfl
  | notOpened hopen => exact nomatch hopen
  | unwritten hopen => exact congrArg Prod.snd (eq_of_opens hopen)
  | notWritten _ hwrite => exact nomatch hwrite
  | unflushed hopen hhanded => exact state_of_handed hopen hhanded
  | notFlushed _ _ hflush => exact nomatch hflush
  | flushed hopen hhanded _ => exact state_of_handed hopen hhanded

end Memory

/-! ## Commits -/

namespace Volume

variable {v : Volume} {p : Path} {bytes : ByteArray}

/-- A file that was brought up to date can be read. -/
theorem read_update (hp : p.asksDirectory = false) (h : (v.update p bytes).1 = .ok ()) :
    (v.update p bytes).2.read p = .ok bytes := by
  unfold update at h ⊢
  cases hplace : v.resolve p with
  | error e =>
      rw [hplace] at h
      exact nomatch h
  | ok place =>
      simp only [hplace] at h
      obtain ⟨-, heq⟩ | ⟨hheld, heq⟩ | ⟨hfree, heq⟩ := v.updateAt_cases place bytes
      · rw [heq] at h
        exact nomatch h
      · simp only [heq]
        exact read_eq_ok_iff.mpr ⟨place, hplace, hheld, hp⟩
      · simp only [heq]
        refine read_eq_ok_iff.mpr ⟨place, (extends_overwrite hfree bytes).resolve_eq_ok hplace, ?_, hp⟩
        rw [entryAt?_overwrite_of_free hfree, if_pos rfl]

/-- Nothing is written where a path asks for a directory. -/
theorem write_of_asksDirectory (hp : p.asksDirectory = true) (bytes : ByteArray) (v : Volume) :
    ∃ e, v.write p bytes = (.error e, v) := by
  unfold write
  simp only [hp, if_true, Bool.true_or]
  split
  · exact ⟨_, rfl⟩
  · exact ⟨_, rfl⟩

end Volume

section Commits

variable {f : PendingFile} {v : Volume} {e : IoError}

/-- **A commit, case by case**: it fails and changes nothing, or the file holds the bytes after it. -/
theorem commit_cases (f : PendingFile) (v : Volume) :
    ((∃ e, (f.commit v).result = .error e) ∧ (f.commit v).state = v) ∨
    ((f.commit v).result = .ok () ∧ (f.commit v).state.read f.path = .ok f.bytes) := by
  obtain ⟨p, bytes, isDirty⟩ := f
  cases hp : p.asksDirectory with
  | true =>
      -- What asks for a directory is no file: it can neither be read nor written.
      have hread : ∀ old, v.read p ≠ .ok old := by
        intro old hold
        obtain ⟨-, -, -, hasks⟩ := Volume.read_eq_ok_iff.mp hold
        exact nomatch hp.symm.trans hasks
      obtain ⟨e, hwrite⟩ := Volume.write_of_asksDirectory hp bytes v
      cases hold : v.read p with
      | error _ =>
          simp only [PendingFile.commit, hold, hwrite]
          exact Or.inl ⟨⟨e, rfl⟩, trivial⟩
      | ok old => exact absurd hold (hread old)
  | false =>
      obtain ⟨hresult, hstate⟩ := Volume.commit_eq hp bytes isDirty v
      rw [hresult, hstate]
      cases hupdate : (v.update p bytes).1 with
      | error e => exact Or.inl ⟨⟨e, rfl⟩, Volume.update_of_error hupdate⟩
      | ok => exact Or.inr ⟨rfl, Volume.read_update hp hupdate⟩

/-- A flush ends as its commit does. -/
theorem result_flush (f : PendingFile) (v : Volume) :
    (PendingFile.flush (f, v)).result = (f.commit v).result := by
  unfold PendingFile.flush
  dsimp only
  split
  · rename_i h
    rw [h]
  · rename_i h
    rw [h]

/-- A sink without bytes that were never committed does nothing when it is released. -/
theorem release_of_clean (h : f.isDirty = false) : (PendingFile.release (f, v)).1 = v := by
  simp only [PendingFile.release, h, Bool.false_eq_true, if_false]

/-- A sink with such bytes commits them when it is released. -/
theorem release_of_dirty (h : f.isDirty = true) : (PendingFile.release (f, v)).1 = (f.commit v).state := by
  unfold PendingFile.release
  rw [if_pos h]
  dsimp only
  split <;> rfl

/-- A sink whose flush has succeeded has nothing left to commit. -/
theorem release_flush_of_ok (h : (f.commit v).result = .ok ()) :
    (PendingFile.release (PendingFile.flush (f, v)).state).1 = (f.commit v).state := by
  simp only [PendingFile.flush, h, release_of_clean]

/-- A commit that fails has changed nothing, and neither does the next one. -/
theorem release_flush_of_error (h : (f.commit v).result = .error e) :
    (PendingFile.release (PendingFile.flush (f, v)).state).1 = v := by
  obtain ⟨-, hstate⟩ | ⟨hok, -⟩ := commit_cases f v
  · simp only [PendingFile.flush, h, hstate]
    cases hdirty : f.isDirty with
    | true => rw [release_of_dirty hdirty, hstate]
    | false => rw [release_of_clean hdirty]
  · rw [hok] at h
    cases h

end Commits

/-! ## Directories -/

namespace Directory

variable {root : Path} {a : Artifact} {v v' : Volume} {reach : Store.Reach}

/-- The sink of an artifact after its bytes have been handed over. -/
def filled (root : Path) (a : Artifact) : PendingFile :=
  PendingFile.collect ⟨pathFor root a.qualifiedName, ByteArray.empty, false⟩ a.bytes

theorem filled_eq (root : Path) (a : Artifact) :
    filled root a = ⟨pathFor root a.qualifiedName, a.bytes, !a.bytes.isEmpty⟩ := by
  unfold filled PendingFile.collect
  cases hempty : a.bytes.isEmpty with
  | true =>
      have hbytes : a.bytes = ByteArray.empty := ByteArray.size_eq_zero_iff.mp (beq_iff_eq.mp hempty)
      rw [if_pos rfl, hbytes, Bool.not_true]
  | false => simp only [Bool.false_eq_true, if_false, ByteArray.empty_append, Bool.not_false]

/-- Opening a sink creates the directories above the file of the type. -/
theorem openSink_eq (root : Path) (name : String) (v : Volume) :
    (store root).openSink name v
      = ⟨(v.createParents (pathFor root name)).1.map
            fun _ => ⟨pathFor root name, ByteArray.empty, false⟩,
          (v.createParents (pathFor root name)).2, []⟩ := by
  unfold store openSink
  dsimp only
  split
  · rename_i hcreated
    simp only [hcreated, Except.map]
  · rename_i hcreated
    simp only [hcreated, Except.map]

variable {f : PendingFile} {opened : Volume}

/-- An open sink belongs to the file of the type, and nothing has been handed over to it. -/
theorem sink_of_opens {name : String} (h : (store root).Opens name v (f, opened)) :
    f = ⟨pathFor root name, ByteArray.empty, false⟩ := by
  have hresult := h.1
  rw [openSink_eq] at hresult
  cases hcreated : (v.createParents (pathFor root name)).1 with
  | error e =>
      simp only [hcreated] at hresult
      exact nomatch hresult
  | ok =>
      simp only [hcreated] at hresult
      exact (Except.ok.inj hresult).symm

/-- Opening a sink leaves all files alone, whether it fails or not. -/
theorem openSink_keepsFiles (root : Path) (name : String) (v : Volume) :
    v.KeepsFiles ((store root).openSink name v).state := by
  simp only [openSink_eq]
  exact v.createParents_keepsFiles (pathFor root name)

theorem keepsFiles_of_opens {name : String} (h : (store root).Opens name v (f, opened)) :
    v.KeepsFiles opened := by
  have hkept := openSink_keepsFiles root name v
  rw [h.2] at hkept
  exact hkept

theorem collect_of_opens (h : (store root).Opens a.qualifiedName v (f, opened)) :
    f.collect a.bytes = filled root a := by
  rw [filled, sink_of_opens h]

/-- Handing over bytes fills the sink. -/
theorem eq_of_handed {w : PendingFile × Volume} (hopen : (store root).Opens a.qualifiedName v (f, opened))
    (h : (store root).Handed a.bytes (f, opened) w) : w = (filled root a, opened) := by
  rw [← collect_of_opens hopen]
  obtain hwrite | hempty := h
  · rfl
  · rw [PendingFile.collect, if_pos hempty]

theorem release_eq (root : Path) : (store root).release = PendingFile.release := rfl

theorem flush_eq (root : Path) : (store root).flush = PendingFile.flush := rfl

/-- A write that has opened its sink fills it, flushes it and releases it. -/
theorem put_of_opens (h : (store root).Opens a.qualifiedName v (f, opened)) :
    ((store root).put a v).result = (PendingFile.flush (filled root a, opened)).result ∧
      ((store root).put a v).state
        = (PendingFile.release (PendingFile.flush (filled root a, opened)).state).1 := by
  rw [← collect_of_opens h]
  simp only [Store.put, h.1, h.2, Store.fill, Store.finish]
  exact ⟨rfl, rfl⟩

/-- **A write that has opened its sink ends as its commit does.** -/
theorem result_put_of_opens (h : (store root).Opens a.qualifiedName v (f, opened)) :
    ((store root).put a v).result = ((filled root a).commit opened).result := by
  rw [(put_of_opens h).1, result_flush]

/-- **The bytes of a write that got so far are committed all the same**: its flush has succeeded, or it has
handed over bytes that the file can take. -/
def Commits (root : Path) (a : Artifact) (v : Volume) (reach : Store.Reach) : Prop :=
  reach = .flushed ∨
    (reach = .handed ∧ a.bytes.isEmpty = false ∧ ((store root).put a v).result = .ok ())

/-- **What a write that got so far leaves in a volume**: what it would leave if it had not failed, or the
files that were there, and no others.  Then the file of the type, too, is what it was, or absent as it was; a
path that goes up is left out, because it may lead through a directory that is new. -/
structure LeftBy (root : Path) (a : Artifact) (v : Volume) (reach : Store.Reach) (v' : Volume) : Prop where
  committed : Commits root a v reach →
    v' = ((store root).put a v).state ∧ v'.read (pathFor root a.qualifiedName) = .ok a.bytes
  kept : ¬ Commits root a v reach → v.KeepsFiles v'
  same : ¬ Commits root a v reach → v.IsTree → ".." ∉ (pathFor root a.qualifiedName).parts → ∀ bytes,
    v'.read (pathFor root a.qualifiedName) = .ok bytes ↔ v.read (pathFor root a.qualifiedName) = .ok bytes

theorem LeftBy.of_kept (hnot : ¬ Commits root a v reach) (h : v.KeepsFiles v') :
    LeftBy root a v reach v' :=
  ⟨fun hcommits => absurd hcommits hnot, fun _ => h, fun _ htree hup _ => h.read_iff htree hup⟩

/-- A write whose bytes were not handed over leaves all files alone. -/
theorem leftBy_of_opened (hreach : reach = .unopened ∨ reach = .opened) (h : v.KeepsFiles v') :
    LeftBy root a v reach v' := by
  refine .of_kept ?_ h
  rintro (rfl | ⟨rfl, -⟩)
  · exact nomatch hreach
  · exact nomatch hreach

/-- A commit that has succeeded leaves what the whole write would leave. -/
theorem leftBy_of_commit (hopen : (store root).Opens a.qualifiedName v (f, opened))
    (hcommits : Commits root a v reach) (hcommit : ((filled root a).commit opened).result = .ok ()) :
    LeftBy root a v reach ((filled root a).commit opened).state := by
  refine ⟨fun _ => ⟨?_, ?_⟩, fun hnot => absurd hcommits hnot, fun hnot => absurd hcommits hnot⟩
  · rw [(put_of_opens hopen).2, release_flush_of_ok hcommit]
  · obtain ⟨⟨e, herror⟩, -⟩ | ⟨-, hread⟩ := commit_cases (filled root a) opened
    · exact nomatch hcommit.symm.trans herror
    · rwa [filled_eq] at hread ⊢

/-- A commit that has failed leaves the volume in which the sink was opened. -/
theorem leftBy_of_failed {e : IoError} (hopen : (store root).Opens a.qualifiedName v (f, opened))
    (hcommit : ((filled root a).commit opened).result = .error e) : LeftBy root a v .handed opened := by
  refine .of_kept ?_ (keepsFiles_of_opens hopen)
  rintro (hreach | ⟨-, -, hput⟩)
  · exact nomatch hreach
  · rw [result_put_of_opens hopen, hcommit] at hput
    exact nomatch hput

/-- A filled sink that is released without a flush commits its bytes, if there are any. -/
theorem leftBy_of_unflushed (hopen : (store root).Opens a.qualifiedName v (f, opened)) :
    LeftBy root a v .handed (PendingFile.release (filled root a, opened)).1 := by
  -- Only bytes make a sink dirty, and only a dirty sink commits when it is released.
  cases hempty : a.bytes.isEmpty with
  | true =>
      have hclean : (filled root a).isDirty = false := by rw [filled_eq, hempty, Bool.not_true]
      rw [release_of_clean hclean]
      refine .of_kept ?_ (keepsFiles_of_opens hopen)
      rintro (hreach | ⟨-, hbytes, -⟩)
      · exact nomatch hreach
      · exact nomatch hempty.symm.trans hbytes
  | false =>
      have hdirty : (filled root a).isDirty = true := by rw [filled_eq, hempty, Bool.not_false]
      rw [release_of_dirty hdirty]
      obtain ⟨⟨e, herror⟩, hstate⟩ | ⟨hok, -⟩ := commit_cases (filled root a) opened
      · rw [hstate]
        exact leftBy_of_failed hopen herror
      · exact leftBy_of_commit hopen (Or.inr ⟨rfl, hempty, (result_put_of_opens hopen).trans hok⟩) hok

/-- **Directories**: all files are as they were, unless the bytes are committed. -/
theorem leftBy (h : (store root).Abandons a v reach v') : LeftBy root a v reach v' := by
  cases h with
  | untouched => exact leftBy_of_opened (Or.inl rfl) (.refl v)
  | notOpened => exact leftBy_of_opened (Or.inl rfl) (openSink_keepsFiles root a.qualifiedName v)
  | @unwritten k hopen =>
      obtain ⟨f, opened⟩ := k
      rw [release_eq, release_of_clean (congrArg PendingFile.isDirty (sink_of_opens hopen))]
      exact leftBy_of_opened (Or.inr rfl) (keepsFiles_of_opens hopen)
  | notWritten _ hwrite => exact nomatch hwrite
  | @unflushed k _ hopen hhanded =>
      obtain ⟨f, opened⟩ := k
      rw [eq_of_handed hopen hhanded, release_eq]
      exact leftBy_of_unflushed hopen
  | @notFlushed k _ _ hopen hhanded hflush =>
      obtain ⟨f, opened⟩ := k
      obtain rfl := eq_of_handed hopen hhanded
      rw [flush_eq, result_flush] at hflush
      -- The sink stays dirty and tries once more when it is released, with the same result.
      rw [release_eq, flush_eq, release_flush_of_error hflush]
      exact leftBy_of_failed hopen hflush
  | @flushed k _ hopen hhanded hflush =>
      obtain ⟨f, opened⟩ := k
      obtain rfl := eq_of_handed hopen hhanded
      rw [flush_eq, result_flush] at hflush
      rw [release_eq, flush_eq, release_flush_of_ok hflush]
      exact leftBy_of_commit hopen (Or.inl rfl) hflush

end Directory

/-! ## Failed writes -/

/-- **A failed write** in front of a memory or of a directory, whose calls are passed on or made to fail as
one likes, leaves there what is decided by how far it got. -/
theorem failed_put_leaves (a : Artifact) (passes : Prop) :
    (∀ {τ ι : Type} {front : Store τ ι} {stateOf : τ → Memory} {sinkOf : ι → String},
      front.Delegates Memory.store stateOf sinkOf passes → ∀ s e, (front.put a s).result = .error e →
        ∃ stage reach, front.failedAt? a s = some stage ∧ Store.Reach.At passes stage reach ∧
          stateOf (front.put a s).state = (stateOf s).leftBy a reach) ∧
    (∀ {τ ι : Type} {front : Store τ ι} {root : Path} {stateOf : τ → Volume} {sinkOf : ι → PendingFile},
      front.Delegates (Directory.store root) stateOf sinkOf passes →
        ∀ s e, (front.put a s).result = .error e →
          ∃ stage reach, front.failedAt? a s = some stage ∧ Store.Reach.At passes stage reach ∧
            Directory.LeftBy root a (stateOf s) reach (stateOf (front.put a s).state)) := by
  constructor
  · intro τ ι front stateOf sinkOf h s e herror
    obtain ⟨stage, hstage⟩ := Store.failedAt?_of_error herror
    obtain ⟨reach, hreach, habandons⟩ := h.abandonsAt hstage
    exact ⟨stage, reach, hstage, hreach, Memory.eq_leftBy habandons⟩
  · intro τ ι front root stateOf sinkOf h s e herror
    obtain ⟨stage, hstage⟩ := Store.failedAt?_of_error herror
    obtain ⟨reach, hreach, habandons⟩ := h.abandonsAt hstage
    exact ⟨stage, reach, hstage, hreach, Directory.leftBy habandons⟩

/-- The source of a boat. -/
def boatSource : Artifact := ⟨"a.BoatAudit", "new"⟩

/-- Makes calls for boats fail at a moment. -/
def failingBoats (stage : Faulty.Stage) : String → Option Faulty.Fault :=
  Faulty.refusals [⟨"BoatAudit", ⟨stage, .other "disk full"⟩⟩]

/-- A memory with a source of a boat. -/
def boatMemory : Memory := Catalog.empty.insert "a.BoatAudit" "old".toUTF8

/-- A memory that cannot be written to for boats. -/
def unwritable : Store Memory (Faulty.Sink String) := Faulty.store (failingBoats .writing) Memory.store

/-- A directory that cannot be flushed for boats. -/
def unflushable : Store Volume (Faulty.Sink PendingFile) :=
  Faulty.store (failingBoats .flushing) (Directory.store ⟨"out"⟩)

theorem put_unwritable : (unwritable.put boatSource boatMemory).result = .error (.other "disk full") := rfl

theorem put_unflushable :
    (unflushable.put boatSource (.scratch "work")).result = .error (.other "disk full") := rfl

/-- One write that fails in front of a memory, and one in front of a directory. -/
theorem failed_put_leaves_boat :
    (∃ stage reach, unwritable.failedAt? boatSource boatMemory = some stage ∧
      Store.Reach.At False stage reach ∧
      (unwritable.put boatSource boatMemory).state = boatMemory.leftBy boatSource reach) ∧
    (∃ stage reach, unflushable.failedAt? boatSource (.scratch "work") = some stage ∧
      Store.Reach.At False stage reach ∧
      Directory.LeftBy ⟨"out"⟩ boatSource (.scratch "work") reach
        (unflushable.put boatSource (.scratch "work")).state) :=
  ⟨(failed_put_leaves boatSource False).1 (Faulty.delegates _ _ False) boatMemory _ put_unwritable,
    (failed_put_leaves boatSource False).2 (Faulty.delegates _ _ False) (.scratch "work") _
      put_unflushable⟩

/-- **A write that has failed can change what is stored**: a memory loses what it had, and a directory gets
what it did not have. -/
theorem failed_put_changes :
    (Store.Delegates unwritable Memory.store id Prod.snd False ∧
      (unwritable.put boatSource boatMemory).result = .error (.other "disk full") ∧
      boatMemory.get? "a.BoatAudit" = some "old".toUTF8 ∧
      (unwritable.put boatSource boatMemory).state.get? "a.BoatAudit" = some ByteArray.empty ∧
      "old".toUTF8 ≠ ByteArray.empty) ∧
    (Store.Delegates unflushable (Directory.store ⟨"out"⟩) id Prod.snd False ∧
      (unflushable.put boatSource (.scratch "work")).result = .error (.other "disk full") ∧
      (Volume.scratch "work").read (pathFor ⟨"out"⟩ "a.BoatAudit") = .error (.system .notFound) ∧
      (unflushable.put boatSource (.scratch "work")).state.read (pathFor ⟨"out"⟩ "a.BoatAudit")
        = .ok "new".toUTF8) := by
  refine ⟨⟨Faulty.delegates _ _ False, rfl, rfl, rfl, by decide⟩, Faulty.delegates _ _ False, rfl, rfl, rfl⟩

end EntityAudit
