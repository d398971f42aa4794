import Mathlib.Data.List.Nodup
import EntityAudit.Generation.Pass
import EntityAudit.Proofs.Fingerprint.Stripes
import EntityAudit.Store.Memory

/-!
# `EntityAudit.Proofs.Generation.MemoryPass` — what a memory holds after a pass

A memory keeps one text per qualified name, and the last one written replaces those before it. A report
lists every write, so an entry describes the memory unless a later entry has the same name; two types, or
a type and the contract, may well meet under one name.

## Contents

* `lastWritten`, `Report.lastFingerprintOf` — the last entry with a name
* `runTask_memory` — one artifact (the step)
* `runTasks_memory` — all of them (the run)
* `Report.Describes`, `process_memory_described` — a report and the memory after its pass
* `not_every_entry_described` — an entry that is not true of the memory
-/

namespace EntityAudit

/-! ## The last entry with a name -/

/-- The last entry with a name. -/
def lastWritten (written : List Written) (name : String) : Option Written :=
  written.reverse.find? (fun w => w.qualifiedName == name)

/-- The fingerprint under which a name was last written. -/
def Report.lastFingerprintOf (r : Report) (name : String) : Option Fingerprint :=
  (lastWritten r.written name).map Written.fingerprint

/-- An entry is the last with its name unless a later one has the name too. -/
theorem lastWritten_cons (w : Written) (rest : List Written) (name : String) :
    lastWritten (w :: rest) name
      = (lastWritten rest name).or (if w.qualifiedName = name then some w else none) := by
  rw [lastWritten, List.reverse_cons, List.find?_append]
  congr 1
  by_cases h : w.qualifiedName = name <;> simp [h]

theorem lastWritten_ne_none {written : List Written} {w : Written} (h : w ∈ written) :
    lastWritten written w.qualifiedName ≠ none := by
  intro hnone
  have := List.find?_eq_none.mp hnone w (List.mem_reverse.mpr h)
  simp at this

/-- Where names do not recur, every entry is the last with its name. -/
theorem lastWritten_of_nodup {written : List Written}
    (hnodup : (written.map Written.qualifiedName).Nodup) {w : Written} (h : w ∈ written) :
    lastWritten written w.qualifiedName = some w := by
  cases hlast : lastWritten written w.qualifiedName with
  | none => exact absurd hlast (lastWritten_ne_none h)
  | some v =>
      have hname : v.qualifiedName = w.qualifiedName := by simpa using List.find?_some hlast
      have hv : v ∈ written := List.mem_reverse.mp (List.mem_of_find?_eq_some hlast)
      rw [List.inj_on_of_nodup_map hnodup hv h hname]

/-- Where names do not recur, the first fingerprint under the name of an entry is its own. -/
theorem fingerprintOf_of_nodup {r : Report} (hnodup : (r.written.map Written.qualifiedName).Nodup)
    {w : Written} (h : w ∈ r.written) : r.fingerprintOf w.qualifiedName = some w.fingerprint := by
  rw [Report.fingerprintOf]
  cases hfirst : r.written.find? (fun v => v.qualifiedName == w.qualifiedName) with
  | none =>
      have := List.find?_eq_none.mp hfirst w h
      simp at this
  | some v =>
      have hname : v.qualifiedName = w.qualifiedName := by simpa using List.find?_some hfirst
      rw [List.inj_on_of_nodup_map hnodup (List.mem_of_find?_eq_some hfirst) h hname]
      rfl

/-! ## One artifact -/

/-- **One task.** Either an artifact is written and the memory holds it, or the memory is as before. -/
theorem runTask_memory (g : Generator) (task : Task) (m : Memory) :
    (∃ a : Artifact,
      (g.runTask Memory.store m task).outcome = .written ⟨a.qualifiedName, a.fingerprint⟩ ∧
      (g.runTask Memory.store m task).state = m.insert a.qualifiedName a.bytes) ∨
    (∃ f, (g.runTask Memory.store m task).outcome = .failed f ∧
      (g.runTask Memory.store m task).state = m) := by
  cases task with
  | interface =>
      refine .inl ⟨interfaceArtifact g.naming.package, ?_, ?_⟩ <;>
        simp only [Generator.runTask, Generator.commit, put_memory]
  | type t =>
      cases hrender : g.render t with
      | ok a =>
          refine .inl ⟨a, ?_, ?_⟩ <;>
            simp only [Generator.runTask, Generator.audit, hrender, Generator.commit, put_memory]
      | error e =>
          refine .inr ⟨.extraction e, ?_, ?_⟩ <;>
            simp only [Generator.runTask, Generator.audit, hrender]

/-! ## All of them -/

/-- **All tasks.** Under a name the memory holds what the last entry with the name stands for, and what it
held before if there is none. -/
theorem runTasks_memory (g : Generator) (tasks : List Task) (m : Memory) (name : String) :
    (∀ w, lastWritten ((g.runTasks Memory.store tasks m).outcomes.filterMap Outcome.written?) name
          = some w →
      ∃ bytes, (g.runTasks Memory.store tasks m).state.get? name = some bytes ∧
        Fingerprint.of bytes = w.fingerprint) ∧
    (lastWritten ((g.runTasks Memory.store tasks m).outcomes.filterMap Outcome.written?) name = none →
      (g.runTasks Memory.store tasks m).state.get? name = m.get? name) := by
  induction tasks generalizing m with
  | nil =>
      refine ⟨fun w hw => ?_, fun _ => rfl⟩
      cases hw
  | cons task rest ih =>
      obtain ⟨a, houtcome, hstate⟩ | ⟨f, houtcome, hstate⟩ := runTask_memory g task m
      · have hrest := ih (m.insert a.qualifiedName a.bytes)
        simp only [Generator.runTasks, houtcome, hstate, List.filterMap_cons, Outcome.written?,
          lastWritten_cons]
        cases hlast : lastWritten
            ((g.runTasks Memory.store rest (m.insert a.qualifiedName a.bytes)).outcomes.filterMap
              Outcome.written?) name with
        | some v =>
            -- A later entry has the name, so the rest of the run decides.
            refine ⟨fun w hw => ?_, fun hnone => ?_⟩
            · exact hrest.1 w (hlast.trans hw)
            · cases hnone
        | none =>
            have hheld := hrest.2 hlast
            rw [Catalog.get?_insert] at hheld
            by_cases h : a.qualifiedName = name
            · rw [if_pos h.symm] at hheld
              refine ⟨fun w hw => ⟨a.bytes, hheld, ?_⟩, fun hnone => ?_⟩
              · rw [if_pos h, Option.none_or] at hw
                cases hw
                rfl
              · rw [if_pos h] at hnone
                cases hnone
            · rw [if_neg (Ne.symm h)] at hheld
              refine ⟨fun w hw => ?_, fun _ => hheld⟩
              rw [if_neg h] at hw
              cases hw
      · have hrest := ih m
        simp only [Generator.runTasks, houtcome, hstate, List.filterMap_cons, Outcome.written?]
        exact hrest

/-! ## The report and the memory -/

/-- A name that no entry has is neither found first nor last. -/
theorem fingerprintOf_eq_none_iff {r : Report} {name : String} :
    r.fingerprintOf name = none ↔ lastWritten r.written name = none := by
  rw [Report.fingerprintOf, Option.map_eq_none_iff, lastWritten, List.find?_eq_none,
    List.find?_eq_none]
  simp only [List.mem_reverse]

/-- **How a report describes a memory**: `before` is what the memory was when the pass began and `after`
what it was when the pass ended. -/
structure Report.Describes (r : Report) (before after : Memory) : Prop where
  /-- Under the name of an entry the memory holds what the last entry with the name stands for. -/
  held : ∀ w ∈ r.written, ∃ bytes, after.get? w.qualifiedName = some bytes ∧
    r.lastFingerprintOf w.qualifiedName = some (Fingerprint.of bytes)
  /-- An entry is true of the memory unless a later one has its name and another fingerprint. -/
  isTrue_iff : ∀ w ∈ r.written,
    (∃ bytes, after.get? w.qualifiedName = some bytes ∧ Fingerprint.of bytes = w.fingerprint) ↔
      r.lastFingerprintOf w.qualifiedName = some w.fingerprint
  /-- The fingerprint found under a written name is that of the text under it exactly when the first and
  the last entry with the name agree. -/
  isFound_iff : ∀ name, r.fingerprintOf name ≠ none →
    (r.fingerprintOf name = (after.get? name).map Fingerprint.of ↔
      r.fingerprintOf name = r.lastFingerprintOf name)
  /-- Nothing else is changed. -/
  untouched : ∀ name, r.fingerprintOf name = none → after.get? name = before.get? name
  /-- Where names do not recur, every entry is true of the memory and is the one that is found. -/
  of_nodup : (r.written.map Written.qualifiedName).Nodup → ∀ w ∈ r.written,
    ∃ bytes, after.get? w.qualifiedName = some bytes ∧ Fingerprint.of bytes = w.fingerprint ∧
      r.fingerprintOf w.qualifiedName = some (Fingerprint.of bytes)

/-- A report describes a memory when the last entry with each name does. -/
theorem describes_of_last {r : Report} {before after : Memory}
    (hlast : ∀ name w, lastWritten r.written name = some w →
      ∃ bytes, after.get? name = some bytes ∧ Fingerprint.of bytes = w.fingerprint)
    (hnone : ∀ name, lastWritten r.written name = none → after.get? name = before.get? name) :
    r.Describes before after := by
  have held (name : String) (h : lastWritten r.written name ≠ none) :
      ∃ bytes, after.get? name = some bytes ∧
        r.lastFingerprintOf name = some (Fingerprint.of bytes) := by
    obtain ⟨v, hv⟩ := Option.ne_none_iff_exists'.mp h
    obtain ⟨bytes, hbytes, hfingerprint⟩ := hlast name v hv
    refine ⟨bytes, hbytes, ?_⟩
    rw [Report.lastFingerprintOf, hv, hfingerprint]
    rfl
  refine ⟨fun w hw => held _ (lastWritten_ne_none hw), fun w hw => ?_, fun name hname => ?_,
    fun name hname => hnone name (fingerprintOf_eq_none_iff.mp hname), fun hnodup w hw => ?_⟩
  · obtain ⟨bytes, hbytes, hlastFingerprint⟩ := held _ (lastWritten_ne_none hw)
    rw [hlastFingerprint, hbytes]
    constructor
    · rintro ⟨other, hother, hfingerprint⟩
      cases hother
      rw [hfingerprint]
    · intro h
      exact ⟨bytes, rfl, Option.some.inj h⟩
  · obtain ⟨bytes, hbytes, hlastFingerprint⟩ :=
      held name fun h => hname (fingerprintOf_eq_none_iff.mpr h)
    rw [hlastFingerprint, hbytes]
    rfl
  · obtain ⟨bytes, hbytes, hfingerprint⟩ := hlast _ w (lastWritten_of_nodup hnodup hw)
    refine ⟨bytes, hbytes, hfingerprint, ?_⟩
    rw [fingerprintOf_of_nodup hnodup hw, hfingerprint]

/-- **The last write under a name is the one that lasts.** After a pass over any types, in an active
round, the report describes the memory: what is held under a written name has the fingerprint of the last
entry with the name, so an entry is true of the memory exactly if no later one contradicts it. -/
theorem process_memory_described (g : Generator) {round : Round} (hactive : round.isActive = true)
    (types : List DomainType) (m : Memory) :
    (g.process Memory.store round types m).report.Describes m
      (g.process Memory.store round types m).state := by
  simp only [Generator.process, if_pos hactive]
  exact describes_of_last (fun name => (runTasks_memory g (g.tasks types) m name).1)
    (fun name => (runTasks_memory g (g.tasks types) m name).2)

/-- Two types of one name, from different packages. -/
def twoCars : List DomainType :=
  [⟨"Car", "a", [.auditable], []⟩,
   ⟨"Car", "b", [.auditable], [⟨"getCarMake", ⟨"java.lang.String"⟩, [.column]⟩]⟩]

/-- A pass over two types of one name: the second artifact replaces the first. -/
theorem process_memory_described_cars :
    Round.isActive {} = true ∧
      (Generator.process {} Memory.store {} twoCars Catalog.empty).report.Describes Catalog.empty
        (Generator.process {} Memory.store {} twoCars Catalog.empty).state :=
  ⟨rfl, process_memory_described {} rfl twoCars Catalog.empty⟩

/-! ## A type that meets the contract

With the suffix `Interface`, the audit type of `Audit` has the name of the contract. Both are written, and
the report has an entry for each; to see that their fingerprints differ they have to be evaluated, on the
bytes of the two texts. -/

/-- The bytes of a line with its indentation and its end. -/
def lineBytes (l : Java.Line) : List UInt8 :=
  List.replicate l.depth 9 ++ l.text.toByteArray.data.toList ++ [10]

/-- The bytes of a source text are those of its lines, one after the other. -/
theorem toByteArray_render (lines : List Java.Line) :
    (Java.render lines).toByteArray = ⟨⟨lines.flatMap lineBytes⟩⟩ := by
  have ofAppend (x y : List Char) :
      (x ++ y).utf8Encode.data.toList = x.utf8Encode.data.toList ++ y.utf8Encode.data.toList := by
    rw [List.utf8Encode_append, ByteArray.data_append, Array.toList_append]
  have ofIndent (depth : Nat) :
      (List.replicate depth '\t').utf8Encode.data.toList = List.replicate depth 9 := by
    induction depth with
    | zero => rfl
    | succ depth ih =>
        rw [List.replicate_succ, ← List.singleton_append, ofAppend, ih]
        rfl
  have ofLines : (lines.flatMap Java.Line.chars).utf8Encode.data.toList
      = lines.flatMap lineBytes := by
    induction lines with
    | nil => rfl
    | cons l rest ih =>
        rw [List.flatMap_cons, List.flatMap_cons, ofAppend, ih, Java.Line.chars, ofAppend, ofAppend,
          ofIndent, String.utf8Encode_toList]
        rfl
  rw [Java.render, String.toByteArray_ofList, ← ofLines]

theorem bytes_artifact (a : AuditType) :
    a.artifact.bytes = ⟨⟨(Java.EntityClass.ofAuditType a).lines.flatMap lineBytes⟩⟩ :=
  toByteArray_render _

theorem bytes_interfaceArtifact (package : String) :
    (interfaceArtifact package).bytes = ⟨⟨(Java.interfaceLines package).flatMap lineBytes⟩⟩ :=
  toByteArray_render _

/-- The settings under which the names meet. -/
def meetingGenerator : Generator := ⟨⟨"p", "Interface"⟩, false⟩

/-- The type whose audit type has the name of the contract. -/
def meetingType : DomainType := ⟨"Audit", "a", [.auditable], []⟩

/-- The audit type with the name of the contract. -/
def meetingAuditType : AuditType := ⟨"Audit", "AuditInterface", "p", []⟩

theorem render_meetingType : meetingGenerator.render meetingType = .ok meetingAuditType.artifact := by
  have : AuditType.ofDomain meetingGenerator.naming meetingType = .ok meetingAuditType := by
    decide +kernel
  rw [Generator.render, this]
  rfl

/-- The bytes of the audit type. -/
def meetingBytes : List UInt8 := (Java.EntityClass.ofAuditType meetingAuditType).lines.flatMap lineBytes

/-- The bytes of the contract. -/
def contractBytes : List UInt8 := (Java.interfaceLines "p").flatMap lineBytes

theorem fingerprint_meeting :
    meetingAuditType.artifact.fingerprint ≠ (interfaceArtifact "p").fingerprint := by
  have hclass : meetingAuditType.artifact.bytes = ⟨⟨meetingBytes⟩⟩ := bytes_artifact _
  have hcontract : (interfaceArtifact "p").bytes = ⟨⟨contractBytes⟩⟩ := bytes_interfaceArtifact _
  have hlength : meetingBytes.length = 1016 := by decide +kernel
  have hhash : Xxh3.hash ⟨⟨meetingBytes⟩⟩ = Xxh3.listHash meetingBytes :=
    Xxh3.hash_eq_listHash (by omega) (by omega)
  -- The contract is short enough for the direct form of the hash.
  have hne : Xxh3.listHash meetingBytes ≠ Xxh3.hash ⟨⟨contractBytes⟩⟩ := by decide +kernel
  intro h
  rw [Artifact.fingerprint, Artifact.fingerprint, hclass, hcontract, Fingerprint.of, Fingerprint.of,
    Fingerprint.mk.injEq, hhash] at h
  exact hne h

/-- The pass writes the contract and then the audit type under one name. -/
theorem process_meeting :
    (meetingGenerator.process Memory.store {} [meetingType] Catalog.empty).report.written
        = [⟨"p.AuditInterface", (interfaceArtifact "p").fingerprint⟩,
           ⟨"p.AuditInterface", meetingAuditType.artifact.fingerprint⟩] ∧
      (meetingGenerator.process Memory.store {} [meetingType] Catalog.empty).state.get?
          "p.AuditInterface" = some meetingAuditType.artifact.bytes := by
  have htasks : meetingGenerator.tasks [meetingType] = [.interface, .type meetingType] := by
    decide +kernel
  have hcontract : (interfaceArtifact meetingGenerator.naming.package).qualifiedName
      = "p.AuditInterface" := by
    decide +kernel
  have hclass : meetingAuditType.artifact.qualifiedName = "p.AuditInterface" := by decide +kernel
  have hactive : Round.isActive {} = true := rfl
  simp only [Generator.process, if_pos hactive, htasks, Generator.runTasks, Generator.runTask,
    Generator.audit, render_meetingType, Generator.commit, put_memory, hcontract, hclass]
  refine ⟨?_, ?_⟩
  · rfl
  · rw [Catalog.get?_insert, if_pos rfl]

/-- **Not every entry of a report is true of the memory**: that of the contract is not, once a type with
its name has been written. -/
theorem not_every_entry_described :
    ¬ ∀ (g : Generator) (round : Round) (types : List DomainType) (m : Memory),
      round.isActive = true → ∀ w ∈ (g.process Memory.store round types m).report.written,
        ∃ bytes, (g.process Memory.store round types m).state.get? w.qualifiedName = some bytes ∧
          Fingerprint.of bytes = w.fingerprint := by
  intro h
  obtain ⟨hwritten, hheld⟩ := process_meeting
  have hmem : (⟨"p.AuditInterface", (interfaceArtifact "p").fingerprint⟩ : Written) ∈
      (meetingGenerator.process Memory.store {} [meetingType] Catalog.empty).report.written := by
    rw [hwritten]
    exact List.mem_cons_self
  obtain ⟨bytes, hbytes, hfingerprint⟩ :=
    h meetingGenerator {} [meetingType] Catalog.empty rfl _ hmem
  have hsame : meetingAuditType.artifact.bytes = bytes := Option.some.inj (hheld.symm.trans hbytes)
  refine fingerprint_meeting ?_
  rw [Artifact.fingerprint, hsame, hfingerprint]

end EntityAudit
