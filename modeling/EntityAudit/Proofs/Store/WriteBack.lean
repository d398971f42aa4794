import Mathlib.Data.List.DropRight
import EntityAudit.Proofs.Store.Opening

/-!
# `EntityAudit.Proofs.Store.WriteBack` — an open sink is a buffer in front of a file

A sink collects bytes and commits all of them at once.  As long as it is open, its file holds what was handed
over before the last flush; when it is released, everything, if there was a flush or a byte at all.  What
carries this is an invariant of the calls: it ties the bytes that were collected, whether some are not
committed yet, and the file to the calls so far.

A path that cannot be that of a file, or that leads to a directory, lets every flush fail, and no file
changes.

## Contents

* `SinkCall.handedOver`, `flushed?`, `kept?`, `isPending` — what calls ask for
* `Volume.CanHold`, `Volume.Updated` — the place of a file, and a volume in which only this file changed
* `Directory.Buffers` — the invariant, with one lemma for a call, one for a run and one for the release
* `Directory.WritesBack`, `Directory.Refuses` — the two ways in which a sink behaves
* `sink_writesBack` — every sink of an ideal volume
* `sinks_lose_bytes` — sinks that never write their file
-/

namespace EntityAudit

/-! ## What calls ask for -/

namespace Store

variable {σ κ : Type}

/-- The results of calls on an open sink. -/
def resultsOf (store : Store σ κ) (calls : List SinkCall) (k : κ × σ) : List (Except IoError Unit) :=
  (store.callAll calls k).1

/-- The sink and the state after calls on an open sink. -/
def after (store : Store σ κ) (calls : List SinkCall) (k : κ × σ) : κ × σ := (store.callAll calls k).2.1

end Store

namespace Store.SinkCall

/-- Whether a call hands over bytes. -/
def isWrite : SinkCall → Bool
  | write _ => true
  | flush => false

/-- The bytes that a call hands over. -/
def bytes : SinkCall → ByteArray
  | write bytes => bytes
  | flush => .empty

/-- All bytes that calls hand over, one after the other. -/
def handedOver : List SinkCall → ByteArray
  | [] => .empty
  | c :: rest => c.bytes ++ handedOver rest

/-- The bytes that were handed over before the last flush, if there is one. -/
def flushed? (calls : List SinkCall) : Option ByteArray :=
  if calls.any (fun c => !c.isWrite) then some (handedOver (calls.rdropWhile isWrite)) else none

/-- Whether bytes were handed over since the last flush. -/
def isPending (calls : List SinkCall) : Bool :=
  (calls.rtakeWhile isWrite).any fun c => !c.bytes.isEmpty

/-- All bytes that were handed over, if there is a flush or a byte at all. -/
def kept? (calls : List SinkCall) : Option ByteArray :=
  if calls.any (fun c => !c.isWrite || !c.bytes.isEmpty) then some (handedOver calls) else none

theorem handedOver_append (calls others : List SinkCall) :
    handedOver (calls ++ others) = handedOver calls ++ handedOver others := by
  induction calls with
  | nil => exact ByteArray.empty_append.symm
  | cons c rest ih => rw [List.cons_append, handedOver, handedOver, ih, ByteArray.append_assoc]

theorem handedOver_concat (calls : List SinkCall) (c : SinkCall) :
    handedOver (calls ++ [c]) = handedOver calls ++ c.bytes := by
  rw [handedOver_append, handedOver, handedOver, ByteArray.append_empty]

/-- Calls that hand over nothing add nothing. -/
theorem handedOver_eq_empty {calls : List SinkCall} (h : ∀ c ∈ calls, c.bytes.isEmpty = true) :
    handedOver calls = .empty := by
  induction calls with
  | nil => rfl
  | cons c rest ih =>
      obtain ⟨hc, hrest⟩ := List.forall_mem_cons.mp h
      have hempty : c.bytes = .empty := ByteArray.size_eq_zero_iff.mp (beq_iff_eq.mp hc)
      rw [handedOver, hempty, ByteArray.empty_append, ih hrest]

/-- How a call ends on a sink that cannot commit: bytes are accepted, and a flush fails. -/
def IsRefused : SinkCall → Except IoError Unit → Prop
  | write _, r => r = .ok ()
  | flush, r => ∃ e, r = .error e

/-! ### One call more -/

variable (calls : List SinkCall) (bytes : ByteArray)

theorem flushed?_write : flushed? (calls ++ [.write bytes]) = flushed? calls := by
  unfold flushed?
  rw [List.any_append, List.rdropWhile_concat_pos _ _ _ rfl]
  simp [isWrite]

theorem flushed?_flush : flushed? (calls ++ [.flush]) = some (handedOver calls) := by
  unfold flushed?
  rw [List.any_append, List.rdropWhile_concat_neg _ _ _ Bool.false_ne_true, handedOver_concat]
  simp [isWrite, SinkCall.bytes]

theorem isPending_write : isPending (calls ++ [.write bytes]) = (isPending calls || !bytes.isEmpty) := by
  unfold isPending
  rw [List.rtakeWhile_concat_pos _ _ _ rfl, List.any_append]
  simp [SinkCall.bytes]

theorem isPending_flush : isPending (calls ++ [.flush]) = false := by
  unfold isPending
  rw [List.rtakeWhile_concat_neg _ _ _ Bool.false_ne_true]
  rfl

variable {calls}

/-- Bytes that wait for a commit are kept. -/
theorem kept?_of_isPending (h : isPending calls = true) : kept? calls = some (handedOver calls) := by
  obtain ⟨c, hc, hbytes⟩ := List.any_eq_true.mp h
  have hmem : c ∈ calls := (List.rtakeWhile_suffix _ _).subset hc
  unfold kept?
  rw [if_pos]
  exact List.any_eq_true.mpr ⟨c, hmem, by rw [hbytes, Bool.or_true]⟩

/-- **Where no bytes wait**, what is kept is what was flushed. -/
theorem kept?_of_not_isPending (h : isPending calls = false) : kept? calls = flushed? calls := by
  have hempty : ∀ c ∈ calls.rtakeWhile isWrite, c.bytes.isEmpty = true := by
    intro c hc
    have hnone := List.any_eq_false.mp h c hc
    rwa [Bool.not_eq_true, Bool.not_eq_false'] at hnone
  have hsplit : calls.rdropWhile isWrite ++ calls.rtakeWhile isWrite = calls :=
    List.rdropWhile_append_rtakeWhile ..
  unfold kept? flushed?
  by_cases hflush : calls.any (fun c => !c.isWrite) = true
  · have hkept : calls.any (fun c => !c.isWrite || !c.bytes.isEmpty) = true := by
      obtain ⟨c, hc, hnot⟩ := List.any_eq_true.mp hflush
      exact List.any_eq_true.mpr ⟨c, hc, by rw [hnot, Bool.true_or]⟩
    rw [if_pos hkept, if_pos hflush]
    conv_lhs => rw [← hsplit, handedOver_append, handedOver_eq_empty hempty, ByteArray.append_empty]
  · -- Without a flush all calls are behind the last one.
    have hall : calls.rtakeWhile isWrite = calls := by
      rw [List.rtakeWhile_eq_self_iff]
      intro c hc
      have hnot := List.any_eq_false.mp (Bool.eq_false_iff.mpr hflush) c hc
      rwa [Bool.not_eq_true, Bool.not_eq_false'] at hnot
    have hkept : ¬ calls.any (fun c => !c.isWrite || !c.bytes.isEmpty) = true := by
      intro hany
      obtain ⟨c, hc, hcommit⟩ := List.any_eq_true.mp hany
      rw [← hall] at hc
      rw [hempty c hc, Bool.not_true, Bool.or_false] at hcommit
      rw [hall] at hc
      exact hflush (List.any_eq_true.mpr ⟨c, hc, hcommit⟩)
    rw [if_neg hkept, if_neg hflush]

end Store.SinkCall

open Store (SinkCall)
open Store.SinkCall (handedOver flushed? isPending kept?)

/-! ## The file of a sink -/

namespace Volume

/-- A file can be at the place to which the path leads, and the path can be read and written there. -/
structure CanHold (v : Volume) (p : Path) (place : Place) : Prop where
  resolves : v.resolve p = .ok place
  free : v.entryAt? place ≠ some .directory
  unslashed : p.asksDirectory = false

/-- The volume `w` is `v` with a file at the place that holds the bytes, if any are given. -/
structure Updated (v w : Volume) (place : Place) (given : Option ByteArray) : Prop where
  current_eq : w.current = v.current
  limits_eq : w.limits = v.limits
  entry_eq : ∀ q, w.entryAt? q = if q = place then (given.map Entry.file).or (v.entryAt? q) else v.entryAt? q

variable {v w : Volume} {p : Path} {place : Place} {given : Option ByteArray} {bytes : ByteArray}

theorem Updated.refl (v : Volume) (place : Place) : v.Updated v place none := by
  refine ⟨rfl, rfl, fun q => ?_⟩
  rw [Option.map_none, Option.none_or, ite_self]

section Held

variable (hv : v.CanHold p place) (h : v.Updated w place given)

include hv h

/-- No directory is in the way of the file. -/
theorem Updated.free : w.entryAt? place ≠ some .directory := by
  rw [h.entry_eq, if_pos rfl]
  cases given with
  | none => exact hv.free
  | some bytes => exact nofun

/-- A file takes no directory away. -/
theorem Updated.extends : v.Extends w := by
  refine ⟨h.current_eq, h.limits_eq, fun q hq => ?_, fun q bytes hq => ?_⟩
  · have hne : q ≠ place := by
      rintro rfl
      exact hv.free hq
    rw [h.entry_eq, if_neg hne, hq]
  · rw [h.entry_eq, hq]
    split
    · cases given with
      | none => exact ⟨bytes, rfl⟩
      | some bytes' => exact ⟨bytes', rfl⟩
    · exact ⟨bytes, rfl⟩

/-- **What is read at the path** are the bytes that were given, or what was read before. -/
theorem Updated.read_eq : w.read p = given.elim (v.read p) .ok := by
  have hresolve := (h.extends hv).resolve_eq_ok hv.resolves
  have hentry := h.entry_eq place
  rw [if_pos rfl] at hentry
  unfold read
  rw [hresolve, hv.resolves]
  simp only [hentry]
  cases given with
  | none => rfl
  | some bytes => simp [hv.unslashed]

/-- **Bringing the file up to date** succeeds, and it holds the bytes. -/
theorem Updated.updateAt (bytes : ByteArray) :
    (w.updateAt place bytes).1 = .ok () ∧ v.Updated (w.updateAt place bytes).2 place (some bytes) := by
  have hfree := h.free hv
  obtain ⟨hdirectory, -⟩ | ⟨hheld, heq⟩ | ⟨-, heq⟩ := w.updateAt_cases place bytes
  · exact absurd hdirectory hfree
  · rw [heq]
    refine ⟨rfl, h.current_eq, h.limits_eq, fun q => ?_⟩
    by_cases hq : q = place
    · rw [if_pos hq, hq, hheld]
      rfl
    · rw [h.entry_eq, if_neg hq, if_neg hq]
  · rw [heq]
    refine ⟨rfl, h.current_eq, h.limits_eq, fun q => ?_⟩
    rw [entryAt?_overwrite_of_free hfree, h.entry_eq]
    by_cases hq : q = place
    · rw [if_pos hq, if_pos hq]
      rfl
    · rw [if_neg hq, if_neg hq, if_neg hq]

/-- A commit to the path brings the file up to date. -/
theorem Updated.commit {f : PendingFile} (hf : f.path = p) :
    (f.commit w).result = .ok () ∧ (f.commit w).state = (w.updateAt place f.bytes).2 := by
  obtain ⟨path, bytes, isDirty⟩ := f
  dsimp only at hf
  subst hf
  obtain ⟨hresult, hstate⟩ := commit_eq hv.unslashed bytes isDirty w
  have hupdate : w.update path bytes = w.updateAt place bytes := by
    rw [update, (h.extends hv).resolve_eq_ok hv.resolves]
  rw [hresult, hstate, hupdate]
  exact ⟨(h.updateAt hv bytes).1, rfl⟩

end Held

/-- In the volume `w` the file that the path means holds the bytes that are given, or what it held in `v`
if none are; everything else is as it was in `v`. -/
structure Holds (v : Volume) (p : Path) (place : Place) (given : Option ByteArray) (w : Volume) : Prop where
  read_eq : w.read p = given.elim (v.read p) .ok
  entry_eq : ∀ q, w.entryAt? q = if q = place then (given.map Entry.file).or (v.entryAt? q) else v.entryAt? q

theorem Updated.holds (hv : v.CanHold p place) (h : v.Updated w place given) : v.Holds p place given w :=
  ⟨h.read_eq hv, h.entry_eq⟩

/-- The volume `w` is what committing the bytes leaves of `v`: a file that holds them already is not written. -/
structure CommitsAt (v : Volume) (place : Place) (bytes : ByteArray) (w : Volume) : Prop where
  unchanged : v.entryAt? place = some (.file bytes) → w = v
  noted : v.entryAt? place ≠ some (.file bytes) → w.written = place :: v.written

theorem commitsAt_updateAt (hfree : v.entryAt? place ≠ some .directory) (bytes : ByteArray) :
    v.CommitsAt place bytes (v.updateAt place bytes).2 := by
  unfold updateAt
  cases hentry : v.entryAt? place with
  | none =>
      refine ⟨fun hheld => ?_, fun _ => rfl⟩
      rw [hentry] at hheld
      exact nomatch hheld
  | some entry =>
      cases entry with
      | directory => exact absurd hentry hfree
      | file old =>
          by_cases hold : old.data = bytes.data
          · obtain rfl : old = bytes := ByteArray.ext hold
            simp only [if_true]
            exact ⟨fun _ => rfl, fun hnot => absurd hentry hnot⟩
          · simp only [if_neg hold]
            refine ⟨fun hheld => ?_, fun _ => rfl⟩
            have hsame : old = bytes := by simpa [hentry] using hheld
            exact absurd (congrArg ByteArray.data hsame) hold

end Volume

/-! ## The invariant -/

namespace Directory

variable {root : Path} {opened : Volume} {p : Path} {place : Place} {calls : List SinkCall}
  {k : PendingFile × Volume}

/-- **The invariant of a sink after some calls**: it has collected all bytes that were handed over, it is
dirty when some were not flushed, and its file holds those that were. -/
structure Buffers (opened : Volume) (p : Path) (place : Place) (calls : List SinkCall)
    (k : PendingFile × Volume) : Prop where
  path_eq : k.1.path = p
  bytes_eq : k.1.bytes = handedOver calls
  isDirty_eq : k.1.isDirty = isPending calls
  disk : opened.Updated k.2 place (flushed? calls)

/-- A new sink has collected nothing, and no file has changed. -/
theorem Buffers.new (opened : Volume) (p : Path) (place : Place) :
    Buffers opened p place [] (⟨p, .empty, false⟩, opened) :=
  ⟨rfl, rfl, rfl, .refl opened place⟩

/-- Collecting appends the bytes, and leaves a sink dirty or makes it so unless there are none. -/
theorem collect_cases (f : PendingFile) (bytes : ByteArray) :
    (f.collect bytes).path = f.path ∧ (f.collect bytes).bytes = f.bytes ++ bytes
      ∧ (f.collect bytes).isDirty = (f.isDirty || !bytes.isEmpty) := by
  unfold PendingFile.collect
  cases hempty : bytes.isEmpty with
  | true =>
      have hbytes : bytes = .empty := ByteArray.size_eq_zero_iff.mp (beq_iff_eq.mp hempty)
      rw [if_pos rfl, hbytes, ByteArray.append_empty, Bool.not_true, Bool.or_false]
      exact ⟨rfl, rfl, rfl⟩
  | false =>
      rw [if_neg Bool.false_ne_true, Bool.not_false, Bool.or_true]
      exact ⟨rfl, rfl, rfl⟩

/-- A flush leaves the volume as its commit leaves it. -/
theorem volume_flush (f : PendingFile) (v : Volume) :
    (PendingFile.flush (f, v)).state.2 = (f.commit v).state := by
  unfold PendingFile.flush
  dsimp only
  split <;> rfl

/-- **One call**: it succeeds, and the invariant holds of the calls with this one. -/
theorem Buffers.call (root : Path) (hv : opened.CanHold p place) (h : Buffers opened p place calls k)
    (c : SinkCall) :
    ((store root).call c k).result = .ok () ∧
      Buffers opened p place (calls ++ [c]) ((store root).call c k).state := by
  obtain ⟨f, v⟩ := k
  obtain ⟨hpath, hbytes, hdirty, hdisk⟩ := h
  dsimp only at hpath hbytes hdirty hdisk
  cases c with
  | write bytes =>
      refine ⟨rfl, ?_⟩
      show Buffers opened p place (calls ++ [.write bytes]) (f.collect bytes, v)
      obtain ⟨hpath', hbytes', hdirty'⟩ := collect_cases f bytes
      refine ⟨hpath'.trans hpath, ?_, ?_, ?_⟩
      · rw [hbytes', hbytes, Store.SinkCall.handedOver_concat]
        rfl
      · rw [hdirty', hdirty, Store.SinkCall.isPending_write]
      · rw [Store.SinkCall.flushed?_write]
        exact hdisk
  | flush =>
      obtain ⟨hresult, hstate⟩ := hdisk.commit hv hpath
      have hflush : PendingFile.flush (f, v)
          = ⟨.ok (), ({ f with isDirty := false }, (f.commit v).state), (f.commit v).events⟩ := by
        simp only [PendingFile.flush, hresult]
      show (PendingFile.flush (f, v)).result = .ok () ∧
        Buffers opened p place (calls ++ [.flush]) (PendingFile.flush (f, v)).state
      rw [hflush]
      refine ⟨rfl, hpath, ?_, ?_, ?_⟩
      · rw [Store.SinkCall.handedOver_concat]
        exact hbytes.trans ByteArray.append_empty.symm
      · exact (Store.SinkCall.isPending_flush calls).symm
      · rw [Store.SinkCall.flushed?_flush, hstate, hbytes]
        exact (hdisk.updateAt hv _).2

/-- **A run of calls**: all of them succeed, and the invariant holds of all calls so far. -/
theorem Buffers.run (root : Path) (hv : opened.CanHold p place) (h : Buffers opened p place calls k)
    (others : List SinkCall) :
    (∀ r ∈ (store root).resultsOf others k, r = .ok ()) ∧
      Buffers opened p place (calls ++ others) ((store root).after others k) := by
  induction others generalizing calls k with
  | nil =>
      rw [List.append_nil]
      exact ⟨fun r hr => absurd hr List.not_mem_nil, h⟩
  | cons c rest ih =>
      obtain ⟨hresult, hstate⟩ := h.call root hv c
      obtain ⟨hresults, hrest⟩ := ih hstate
      rw [List.append_assoc, List.singleton_append] at hrest
      exact ⟨List.forall_mem_cons.mpr ⟨hresult, hresults⟩, hrest⟩

/-- **The release**: the file holds what is kept. -/
theorem Buffers.release (root : Path) (hv : opened.CanHold p place)
    (h : Buffers opened p place calls k) :
    opened.Updated ((store root).release k).1 place (kept? calls) := by
  obtain ⟨f, v⟩ := k
  obtain ⟨hpath, hbytes, hdirty, hdisk⟩ := h
  dsimp only at hpath hbytes hdirty hdisk
  rw [release_eq]
  cases hpending : isPending calls with
  | true =>
      rw [release_of_dirty (hdirty.trans hpending), (hdisk.commit hv hpath).2, hbytes,
        Store.SinkCall.kept?_of_isPending hpending]
      exact (hdisk.updateAt hv _).2
  | false =>
      rw [release_of_clean (hdirty.trans hpending), Store.SinkCall.kept?_of_not_isPending hpending]
      exact hdisk

/-! ## How a sink behaves -/

/-- **A sink writes its file back**: `k` is the sink as it was opened, with its volume, and the path leads to
the place.  This is what holds after some calls, and after the release that may follow them. -/
structure WritesBack (root : Path) (k : PendingFile × Volume) (p : Path) (place : Place)
    (calls : List SinkCall) : Prop where
  /-- Every call succeeds. -/
  results : ∀ r ∈ (store root).resultsOf calls k, r = .ok ()
  /-- As long as the sink is open, the file holds what was handed over before the last flush. -/
  whileOpen : k.2.Holds p place (flushed? calls) ((store root).after calls k).2
  /-- After the release it holds all that was handed over, if there was a flush or a byte at all. -/
  released : k.2.Holds p place (kept? calls) ((store root).release ((store root).after calls k)).1
  /-- Bytes that are handed over wait. -/
  write_waits : ∀ bytes, ((store root).write bytes ((store root).after calls k)).state.2
    = ((store root).after calls k).2
  /-- A flush commits all bytes. -/
  flush_commits : ((store root).after calls k).2.CommitsAt place (handedOver calls)
    ((store root).flush ((store root).after calls k)).state.2
  /-- The release commits all bytes if some wait, and else it does nothing. -/
  release_commits : isPending calls = true → ((store root).after calls k).2.CommitsAt place
    (handedOver calls) ((store root).release ((store root).after calls k)).1
  release_clean : isPending calls = false → ((store root).release ((store root).after calls k)).1
    = ((store root).after calls k).2

/-- A sink for a path that leads to where a file can be writes it back. -/
theorem writesBack_of_canHold (root : Path) (hv : opened.CanHold p place) (calls : List SinkCall) :
    WritesBack root (⟨p, .empty, false⟩, opened) p place calls := by
  obtain ⟨hresults, hafter⟩ := (Buffers.new opened p place).run root hv calls
  rw [List.nil_append] at hafter
  have hfree := hafter.disk.free hv
  obtain ⟨hresult, hcommit⟩ := hafter.disk.commit hv hafter.path_eq
  rw [hafter.bytes_eq] at hcommit
  have hcommits := Volume.commitsAt_updateAt hfree (handedOver calls)
  rw [← hcommit] at hcommits
  refine ⟨hresults, hafter.disk.holds hv, (hafter.release root hv).holds hv, fun _ => rfl, ?_, ?_, ?_⟩
  · rw [flush_eq, volume_flush]
    exact hcommits
  · intro hpending
    rw [release_eq, release_of_dirty (hafter.isDirty_eq.trans hpending)]
    exact hcommits
  · intro hclean
    exact release_of_clean (hafter.isDirty_eq.trans hclean)

/-- **A sink refuses every flush**, and leaves the volume in which it was opened as it is. -/
structure Refuses (root : Path) (k : PendingFile × Volume) (calls : List SinkCall) : Prop where
  results : List.Forall₂ SinkCall.IsRefused calls ((store root).resultsOf calls k)
  whileOpen : ((store root).after calls k).2 = k.2
  released : ((store root).release ((store root).after calls k)).1 = k.2

/-- A commit fails where no file can be. -/
theorem commit_of_not_canHold {f : PendingFile} {v : Volume} (h : ∀ place, ¬ v.CanHold f.path place) :
    (∃ e, (f.commit v).result = .error e) ∧ (f.commit v).state = v := by
  rcases commit_cases f v with hfailed | ⟨hok, hread⟩
  · exact hfailed
  · -- What can be read after a commit could be written, at the place where it is read.
    exfalso
    obtain ⟨-, -, -, hasks⟩ := Volume.read_eq_ok_iff.mp hread
    obtain ⟨hresult, -⟩ := Volume.commit_eq hasks f.bytes f.isDirty v
    rw [hresult, Volume.update] at hok
    cases hplace : v.resolve f.path with
    | error e =>
        rw [hplace] at hok
        cases hok
    | ok place =>
        simp only [hplace] at hok
        obtain ⟨-, heq⟩ | ⟨hheld, -⟩ | ⟨hfree, -⟩ := v.updateAt_cases place f.bytes
        · rw [heq] at hok
          cases hok
        · refine h place ⟨hplace, ?_, hasks⟩
          rw [hheld]
          intro hdirectory
          cases hdirectory
        · exact h place ⟨hplace, hfree, hasks⟩

/-- One call on a sink whose path leads to no place for a file. -/
theorem refused_call (root : Path) (h : ∀ place, ¬ opened.CanHold p place) (hpath : k.1.path = p)
    (hvolume : k.2 = opened) (c : SinkCall) : c.IsRefused ((store root).call c k).result ∧
      ((store root).call c k).state.1.path = p ∧ ((store root).call c k).state.2 = opened := by
  obtain ⟨f, v⟩ := k
  dsimp only at hpath hvolume
  subst hpath hvolume
  cases c with
  | write bytes => exact ⟨rfl, (collect_cases f bytes).1, rfl⟩
  | flush =>
      obtain ⟨⟨e, herror⟩, hstate⟩ := commit_of_not_canHold h
      have hflush : PendingFile.flush (f, v) = ⟨.error e, (f, (f.commit v).state), (f.commit v).events⟩ := by
        simp only [PendingFile.flush, herror]
      show SinkCall.IsRefused .flush (PendingFile.flush (f, v)).result ∧
        (PendingFile.flush (f, v)).state.1.path = f.path ∧ (PendingFile.flush (f, v)).state.2 = v
      rw [hflush]
      exact ⟨⟨e, rfl⟩, rfl, hstate⟩

/-- A run of calls on such a sink. -/
theorem refused_run (root : Path) (h : ∀ place, ¬ opened.CanHold p place) (hpath : k.1.path = p)
    (hvolume : k.2 = opened) (calls : List SinkCall) :
    List.Forall₂ SinkCall.IsRefused calls ((store root).resultsOf calls k) ∧
      ((store root).after calls k).1.path = p ∧ ((store root).after calls k).2 = opened := by
  induction calls generalizing k with
  | nil => exact ⟨.nil, hpath, hvolume⟩
  | cons c rest ih =>
      obtain ⟨hresult, hpath, hvolume⟩ := refused_call root h hpath hvolume c
      obtain ⟨hresults, hafter⟩ := ih hpath hvolume
      exact ⟨.cons hresult hresults, hafter⟩

/-- A sink for a path that leads to no place for a file refuses every flush. -/
theorem refuses_of_not_canHold (root : Path) (h : ∀ place, ¬ opened.CanHold p place)
    (hpath : k.1.path = p) (hvolume : k.2 = opened) (calls : List SinkCall) : Refuses root k calls := by
  obtain ⟨hresults, hpath', hafter⟩ := refused_run root h hpath hvolume calls
  refine ⟨hresults, hafter.trans hvolume.symm, ?_⟩
  rw [release_eq, hvolume]
  generalize (store root).after calls k = last at hpath' hafter ⊢
  obtain ⟨f, v⟩ := last
  dsimp only at hpath' hafter
  subst hpath' hafter
  cases hdirty : f.isDirty with
  | false => exact release_of_clean hdirty
  | true => exact (release_of_dirty hdirty).trans (commit_of_not_canHold h).2

end Directory

/-! ## Sinks of an ideal volume -/

/-- **A file can be where the path of an open sink leads** exactly if the path can be that of a file and
does not lead to a directory. -/
theorem exists_canHold_iff {v opened : Volume} {root : Path} {name : String} {f : PendingFile}
    (hv : v.IsIdeal) (hopen : (Directory.store root).Opens name v (f, opened)) :
    (∃ place, opened.CanHold (pathFor root name) place) ↔
      (pathFor root name).NamesFile ∧ opened.isDirectory (pathFor root name) = false := by
  constructor
  · rintro ⟨place, hresolves, hfree, hslash⟩
    have hne : (pathFor root name).text ≠ "" := by
      intro hempty
      rw [Volume.resolve, if_pos hempty] at hresolves
      exact nomatch hresolves
    refine ⟨⟨hne, hslash, ?_⟩, ?_⟩
    · rw [Volume.resolve, if_neg hne] at hresolves
      exact (Volume.walk_of_walkFrom hresolves).1
    · rw [Volume.isDirectory, hresolves]
      exact Volume.hasDirectory_eq_false_iff.mpr hfree
  · rintro ⟨hfile, hdirectory⟩
    obtain ⟨place, hplace⟩ := Directory.exists_place_of_opens hv hopen hfile
    rw [Volume.isDirectory, hplace] at hdirectory
    exact ⟨place, hplace, Volume.hasDirectory_eq_false_iff.mp hdirectory, hfile.unslashed⟩

/-- **Every sink of an ideal volume** writes its file back, if its path can be that of a file and does not
lead to a directory once the directories above it are there; otherwise it refuses every flush.  Opening it has
left all files as they were. -/
theorem sink_writesBack {v opened : Volume} {root : Path} {name : String} {f : PendingFile}
    (hv : v.IsIdeal) (hopen : (Directory.store root).Opens name v (f, opened)) :
    v.KeepsFiles opened ∧
    (".." ∉ (pathFor root name).parts → ∀ bytes,
      opened.read (pathFor root name) = .ok bytes ↔ v.read (pathFor root name) = .ok bytes) ∧
    ((pathFor root name).NamesFile ∧ opened.isDirectory (pathFor root name) = false →
      ∃ place, opened.resolve (pathFor root name) = .ok place ∧
        ∀ calls, Directory.WritesBack root (f, opened) (pathFor root name) place calls) ∧
    (¬ ((pathFor root name).NamesFile ∧ opened.isDirectory (pathFor root name) = false) →
      ∀ calls, Directory.Refuses root (f, opened) calls) := by
  have hkept := Directory.keepsFiles_of_opens hopen
  obtain rfl := Directory.sink_of_opens hopen
  refine ⟨hkept, fun hup bytes => hkept.read_iff hv.isTree hup, fun hholds => ?_, fun hnot calls => ?_⟩
  · obtain ⟨place, hplace⟩ := (exists_canHold_iff hv hopen).mpr hholds
    exact ⟨place, hplace.resolves, Directory.writesBack_of_canHold root hplace⟩
  · rw [← exists_canHold_iff hv hopen, not_exists] at hnot
    apply Directory.refuses_of_not_canHold root hnot
    · rfl
    · rfl

/-- An ideal volume with an empty directory. -/
def idealVolume : Volume := { Volume.scratch "work" with limits := .unbounded }

theorem isIdeal_idealVolume : idealVolume.IsIdeal := ⟨Volume.isTree_of_single rfl, rfl, rfl⟩

/-- The sink of a boat, as it is opened there. -/
def boatSink : PendingFile := ⟨pathFor ⟨"out"⟩ "a.BoatAudit", .empty, false⟩

/-- The volume in which it is open. -/
def boatVolume : Volume := ((Directory.store ⟨"out"⟩).openSink "a.BoatAudit" idealVolume).state

/-- A flush, and bytes after it. -/
def boatCalls : List SinkCall := [.write "old".toUTF8, .flush, .write ByteArray.empty, .write "new".toUTF8]

/-- While the sink is open, the file has what was flushed, and after the release it has everything. -/
theorem sink_writesBack_boat :
    idealVolume.read (pathFor ⟨"out"⟩ "a.BoatAudit") = .error (.system .notFound) ∧
    ((Directory.store ⟨"out"⟩).after boatCalls (boatSink, boatVolume)).2.read
      (pathFor ⟨"out"⟩ "a.BoatAudit") = .ok "old".toUTF8 ∧
    ((Directory.store ⟨"out"⟩).release
      ((Directory.store ⟨"out"⟩).after boatCalls (boatSink, boatVolume))).1.read
        (pathFor ⟨"out"⟩ "a.BoatAudit") = .ok "oldnew".toUTF8 := by
  have hopen : (Directory.store ⟨"out"⟩).Opens "a.BoatAudit" idealVolume (boatSink, boatVolume) := ⟨rfl, rfl⟩
  have hfile : (pathFor ⟨"out"⟩ "a.BoatAudit").NamesFile := ⟨by decide, by decide, by decide⟩
  obtain ⟨-, -, hwrites, -⟩ := sink_writesBack isIdeal_idealVolume hopen
  obtain ⟨place, -, hback⟩ := hwrites ⟨hfile, rfl⟩
  have hcalls := hback boatCalls
  refine ⟨rfl, ?_, ?_⟩
  · rw [hcalls.whileOpen.read_eq]
    rfl
  · rw [hcalls.released.read_eq]
    rfl

/-- A sink that opens where no directory is and loses its bytes: they are handed over and flushed, the flush
fails, and after the release they are not in the file. -/
def LosesBytes (v : Volume) (root : Path) (name : String) (bytes : ByteArray) : Prop :=
  ∃ f opened, (Directory.store root).Opens name v (f, opened) ∧ v.isDirectory (pathFor root name) = false ∧
    (∃ e, (Directory.store root).resultsOf [.write bytes, .flush] (f, opened) = [.ok (), .error e]) ∧
    ((Directory.store root).release ((Directory.store root).after [.write bytes, .flush] (f, opened))).1.read
      (pathFor root name) ≠ .ok bytes

/-- **Not every sink writes its file back**: its path may have a NUL or end in a slash. -/
theorem sinks_lose_bytes :
    idealVolume.IsIdeal ∧ LosesBytes idealVolume ⟨"out"⟩ "a\x00" "x".toUTF8 ∧
      LosesBytes idealVolume ⟨"out"⟩ "" "x".toUTF8 := by
  refine ⟨isIdeal_idealVolume, ⟨_, _, ⟨rfl, rfl⟩, rfl, ⟨.nulInPath, rfl⟩, ?_⟩,
    ⟨_, _, ⟨rfl, rfl⟩, rfl, ⟨.system .isADirectory, rfl⟩, ?_⟩⟩
  · exact nofun
  · exact nofun

end EntityAudit
