import EntityAudit.Proofs.Path.SourceSteps
import EntityAudit.Proofs.Volume.Ways

/-!
# `EntityAudit.Proofs.Store.Delivery` — what writing an artifact to a directory does to a volume

An artifact is delivered in two parts: the directories of its packages are created, and its file is brought
up to date.  However often the sink commits, the volume is changed once at most; the first delivery fixes
what every later one of the same bytes finds.

## Contents

* `Volume.updateAt`, `Volume.update`, `extends_overwrite` — bringing a file up to date
* `Volume.deliver`, `put_directory` — an artifact as a delivery
* `Volume.createParents_pathFor`, `Volume.update_pathFor` — both parts, for the source of a type
* `Volume.Delivered`, `Volume.Prepared`, `deliver_delivered` — what a delivery leaves behind
* `deliver_again` — delivering the same bytes once more
* `deliver_of_no_start` — a path that does not start in a directory
-/

namespace EntityAudit

namespace Volume

/-! ## Bringing a file up to date -/

/-- Gives the file at a place new bytes, and notes it. -/
def overwrite (v : Volume) (place : Place) (bytes : ByteArray) : Volume :=
  { v.put place (.file bytes) with written := place :: v.written }

/-- Brings the file at a place up to date; one that holds the bytes already is left alone. -/
def updateAt (v : Volume) (place : Place) (bytes : ByteArray) : Except IoError Unit × Volume :=
  match v.entryAt? place with
  | some .directory => (.error (.system .isADirectory), v)
  | some (.file old) =>
    if old.data = bytes.data then (.ok (), v) else (.ok (), v.overwrite place bytes)
  | none => (.ok (), v.overwrite place bytes)

/-- Brings the file that a path means up to date. -/
def update (v : Volume) (p : Path) (bytes : ByteArray) : Except IoError Unit × Volume :=
  match v.resolve p with
  | .error e => (.error e, v)
  | .ok place => v.updateAt place bytes

/-- Creates the directories above the file that a path means, and brings the file up to date. -/
def deliver (v : Volume) (p : Path) (bytes : ByteArray) : Except IoError Unit × Volume :=
  match v.createParents p with
  | (.error e, v') => (.error e, v')
  | (.ok (), v') => v'.update p bytes

variable {v w : Volume} {p : Path} {place q : Place} {bytes : ByteArray}

/-- **Bringing a file up to date, case by case**: a directory is in its place, or it is up to date already,
or it is written. -/
theorem updateAt_cases (v : Volume) (place : Place) (bytes : ByteArray) :
    (v.entryAt? place = some .directory ∧
      v.updateAt place bytes = (.error (.system .isADirectory), v)) ∨
    (v.entryAt? place = some (.file bytes) ∧ v.updateAt place bytes = (.ok (), v)) ∨
    (v.entryAt? place ≠ some .directory ∧
      v.updateAt place bytes = (.ok (), v.overwrite place bytes)) := by
  unfold updateAt
  cases hentry : v.entryAt? place with
  | none => exact .inr (.inr ⟨nofun, rfl⟩)
  | some entry =>
      cases entry with
      | directory => exact .inl ⟨rfl, rfl⟩
      | file old =>
          by_cases hold : old.data = bytes.data
          · obtain rfl : old = bytes := ByteArray.ext hold
            exact .inr (.inl ⟨rfl, if_pos rfl⟩)
          · exact .inr (.inr ⟨nofun, if_neg hold⟩)

/-- Only one place changes when a file is written. -/
theorem entryAt?_overwrite_of_free (hfree : v.entryAt? place ≠ some .directory) (bytes : ByteArray)
    (q : Place) :
    (v.overwrite place bytes).entryAt? q = if q = place then some (.file bytes) else v.entryAt? q := by
  have htop : place ≠ .top := by
    rintro rfl
    exact hfree (if_pos rfl)
  exact entryAt?_put v place q (.file bytes) htop

/-- A file takes no directory away. -/
theorem extends_overwrite (hfree : v.entryAt? place ≠ some .directory) (bytes : ByteArray) :
    v.Extends (v.overwrite place bytes) := by
  refine ⟨rfl, rfl, fun q hq => ?_, fun q old hq => ?_⟩
  · -- A directory is not in the place of the file.
    have hne : q ≠ place := by
      rintro rfl
      exact hfree hq
    rw [entryAt?_overwrite_of_free hfree, if_neg hne, hq]
  · rw [entryAt?_overwrite_of_free hfree]
    split
    · exact ⟨bytes, rfl⟩
    · exact ⟨old, hq⟩

/-- A file that could not be brought up to date is as it was. -/
theorem update_of_error {e : IoError} (h : (v.update p bytes).1 = .error e) :
    (v.update p bytes).2 = v := by
  unfold update at h ⊢
  split at h
  · rfl
  · rename_i place hplace
    obtain ⟨-, heq⟩ | ⟨-, heq⟩ | ⟨-, heq⟩ := v.updateAt_cases place bytes
    · rw [heq]
    · rw [heq]
    · rw [heq] at h
      exact nomatch h

/-! ## An artifact as a delivery -/

/-- Writing to a file that a path means, if it does not ask for a directory. -/
theorem write_eq (hp : p.asksDirectory = false) :
    v.write p bytes = match v.resolve p with
      | .error e => (.error e, v)
      | .ok place =>
        if v.hasDirectory place = true then (.error (.system .isADirectory), v)
        else (.ok (), v.overwrite place bytes) := by
  unfold write
  simp only [hp, Bool.false_eq_true, if_false, Bool.false_or]
  rfl

/-- A commit brings a file up to date. -/
theorem commit_eq (hp : p.asksDirectory = false) (bytes : ByteArray) (isDirty : Bool) (v : Volume) :
    ((⟨p, bytes, isDirty⟩ : PendingFile).commit v).result = (v.update p bytes).1 ∧
      ((⟨p, bytes, isDirty⟩ : PendingFile).commit v).state = (v.update p bytes).2 := by
  cases hresolve : v.resolve p with
  | error e => simp only [PendingFile.commit, read, write_eq hp, update, hresolve, and_self]
  | ok place =>
      cases hentry : v.entryAt? place with
      | none =>
          simp only [PendingFile.commit, read, write_eq hp, update, updateAt, hasDirectory, hresolve,
            hentry, Bool.false_eq_true, if_false, and_self]
      | some entry =>
          cases entry with
          | directory =>
              simp only [PendingFile.commit, read, write_eq hp, update, updateAt, hasDirectory, hresolve,
                hentry, Entry.isDirectory, if_true, and_self]
          | file old =>
              by_cases hold : old.data = bytes.data
              · simp only [PendingFile.commit, read, update, updateAt, hresolve, hentry, hp, if_pos hold,
                  Bool.false_eq_true, if_false, and_self]
              · simp only [PendingFile.commit, read, write_eq hp, update, updateAt, hasDirectory,
                  hresolve, hentry, hp, if_neg hold, Entry.isDirectory, Bool.false_eq_true, if_false,
                  and_self]

end Volume

/-- A sink that was released after a commit leaves the volume as the commit left it: a commit that failed
has changed nothing, and fails in the same way once more. -/
theorem release_flush {p : Path} (hp : p.asksDirectory = false) (bytes : ByteArray) (isDirty : Bool)
    (v : Volume) :
    (PendingFile.flush (⟨p, bytes, isDirty⟩, v)).result = (v.update p bytes).1 ∧
      (PendingFile.release (PendingFile.flush (⟨p, bytes, isDirty⟩, v)).state).1
        = (v.update p bytes).2 := by
  obtain ⟨hresult, hstate⟩ := Volume.commit_eq hp bytes isDirty v
  cases hupdate : (v.update p bytes).1 with
  | ok =>
      rw [hupdate] at hresult
      simp only [PendingFile.flush, hresult, PendingFile.release, Bool.false_eq_true, if_false, hstate,
        and_self]
  | error e =>
      rw [hupdate] at hresult
      have hkept := Volume.update_of_error hupdate
      rw [hkept] at hstate ⊢
      cases isDirty with
      | false =>
          simp only [PendingFile.flush, hresult, PendingFile.release, Bool.false_eq_true, if_false, hstate,
            and_self]
      | true =>
          simp only [PendingFile.flush, hresult, PendingFile.release, if_true, hstate, and_self]

/-- A new sink that has collected bytes. -/
theorem exists_collect (p : Path) (bytes : ByteArray) :
    ∃ isDirty, (⟨p, ByteArray.empty, false⟩ : PendingFile).collect bytes = ⟨p, bytes, isDirty⟩ := by
  unfold PendingFile.collect
  split
  · rename_i hempty
    have hsize : bytes.size = 0 := beq_iff_eq.mp hempty
    rw [ByteArray.size_eq_zero_iff.mp hsize]
    exact ⟨false, rfl⟩
  · rw [ByteArray.empty_append]
    exact ⟨true, rfl⟩

/-- **Writing an artifact to a directory delivers it.** -/
theorem put_directory {root : Path} (a : Artifact)
    (hp : (pathFor root a.qualifiedName).asksDirectory = false) (v : Volume) :
    ((Directory.store root).put a v).result
        = (v.deliver (pathFor root a.qualifiedName) a.bytes).1 ∧
      ((Directory.store root).put a v).state
        = (v.deliver (pathFor root a.qualifiedName) a.bytes).2 := by
  obtain ⟨isDirty, hcollect⟩ := exists_collect (pathFor root a.qualifiedName) a.bytes
  unfold Store.put Directory.store Directory.openSink Volume.deliver
  dsimp only
  generalize pathFor root a.qualifiedName = p at *
  generalize v.createParents p = created at *
  obtain ⟨_ | _, v'⟩ := created
  · exact ⟨rfl, rfl⟩
  · obtain ⟨hresult, hstate⟩ := release_flush hp a.bytes isDirty v'
    simp only [Store.fill, hcollect, Store.finish, hresult, hstate, and_self]

namespace Volume

/-! ## The source of a type -/

/-- Why the directories above what a path means are not looked at. -/
def parentRefusal? (limits : Limits) (p : Path) : Option IoError :=
  match p.parentSteps? with
  | none => none
  | some [] => none
  | some steps => refusal? limits p.parentSize steps

/-- Why the source of a type is not looked at, where its directory is. -/
def fileRefusal? (limits : Limits) (root : Path) (name : String) : Option IoError :=
  match refusal? limits (pathFor root name).text.utf8ByteSize (root.parts ++ sourceSteps name) with
  | some e => some e
  | none =>
    if (root.parts ++ sourceSteps name).any limits.refusesStep = true then some (.system .invalidFilename)
    else none

variable {v v' w : Volume} {q : Place} {root : Path} {name : String} {bytes : ByteArray}

/-- **The directories above a source** are those of the root and then those of its package. -/
theorem createParents_pathFor (h : IsSourceName name) (root : Path) (v : Volume) :
    v.createParents (pathFor root name) = match parentRefusal? v.limits (pathFor root name) with
      | some e => (.error e, v)
      | none => v.createDown (v.start root.isAbsolute) false (root.steps ++ packageSteps name) := by
  unfold createParents createDirectories parentRefusal?
  rw [h.parentSteps?_pathFor root, h.isAbsolute_pathFor root]
  cases root.steps ++ packageSteps name with
  | nil => rfl
  | cons step rest => rfl

theorem resolve_eq {p : Path} (hp : p.text ≠ "") (v : Volume) :
    v.resolve p = match refusal? v.limits p.text.utf8ByteSize p.parts with
      | some e => .error e
      | none => v.walk (v.start p.isAbsolute) p.parts := if_neg hp

/-- The path to a source leads through the root and then through its package. -/
theorem resolve_pathFor (h : IsSourceName name) (root : Path) (v : Volume) :
    v.resolve (pathFor root name)
      = match refusal? v.limits (pathFor root name).text.utf8ByteSize (root.parts ++ sourceSteps name) with
        | some e => .error e
        | none => v.walk (v.start root.isAbsolute) (root.parts ++ sourceSteps name) := by
  rw [resolve_eq (h.text_pathFor_ne root), h.parts_pathFor root, h.isAbsolute_pathFor root]

/-- The steps to a source lead to its file, in its directory. -/
theorem descend_sourceSteps (h : IsSourceName name) (place : Place) :
    place.descend (sourceSteps name) = (place.descend (packageSteps name)).below (fileStep name) := by
  rw [sourceSteps, Place.descend_append, Place.descend, if_neg h.descends_file.1]
  rfl

/-- Different sources have different places. -/
theorem descend_sourceSteps_inj {place : Place} {other : String} (h : IsSourceName name)
    (hother : IsSourceName other)
    (heq : place.descend (sourceSteps name) = place.descend (sourceSteps other)) : name = other :=
  sourceSteps_injective (Place.descend_inj place (fun _ hstep => (h.descends hstep).1)
    (fun _ hstep => (hother.descends hstep).1) heq)

/-- The directory of a source, below where the path to it starts. -/
def packagePlace (start : Place) (root : Path) (name : String) : Place :=
  start.descend (root.parts ++ packageSteps name)

/-- The place of a source, below where the path to it starts. -/
def sourcePlace (start : Place) (root : Path) (name : String) : Place :=
  (packagePlace start root name).below (fileStep name)

theorem sourcePlace_eq_descend (h : IsSourceName name) (start : Place) (root : Path) :
    sourcePlace start root name = (start.descend root.parts).descend (sourceSteps name) := by
  rw [descend_sourceSteps h, sourcePlace, packagePlace, Place.descend_append]

theorem sourcePlace_inj {start : Place} {other : String} (h : IsSourceName name)
    (hother : IsSourceName other) (heq : sourcePlace start root name = sourcePlace start root other) :
    name = other := by
  rw [sourcePlace_eq_descend h, sourcePlace_eq_descend hother] at heq
  exact descend_sourceSteps_inj h hother heq

theorem packagePlace_eq_descend_steps (start : Place) (root : Path) (name : String) :
    packagePlace start root name = start.descend (root.steps ++ packageSteps name) := by
  unfold packagePlace
  rw [Place.descend_append, Place.descend_append, ← Place.descend_filter start root.parts,
    ← filter_steps, Place.descend_filter]

/-- **The file of a source whose directory is there** is found at its place, and brought up to date. -/
theorem update_pathFor (h : IsSourceName name) (hup : ".." ∉ root.parts) (htree : v.IsTree)
    {start : Place} (hstart : v.start root.isAbsolute = start)
    (hpackage : v.entryAt? (packagePlace start root name) = some .directory) (bytes : ByteArray) :
    v.update (pathFor root name) bytes = match fileRefusal? v.limits root name with
      | some e => (.error e, v)
      | none => v.updateAt (sourcePlace start root name) bytes := by
  obtain ⟨hdot, hdots⟩ := h.descends_file
  have hway : v.walk start (root.parts ++ sourceSteps name)
      = if (root.parts ++ sourceSteps name).any v.limits.refusesStep = true
        then .error (.system .invalidFilename) else .ok (sourcePlace start root name) := by
    rw [sourceSteps, ← List.append_assoc]
    exact walk_file htree (h.dots_notMem hup) hpackage hdot hdots
  unfold update fileRefusal?
  rw [resolve_pathFor h root v, hstart, hway]
  cases refusal? v.limits (pathFor root name).text.utf8ByteSize (root.parts ++ sourceSteps name) with
  | some e => rfl
  | none =>
      by_cases hlong : (root.parts ++ sourceSteps name).any v.limits.refusesStep = true
      · simp only [if_pos hlong]
      · simp only [if_neg hlong]

/-! ## What a delivery leaves behind -/

/-- **The result of a delivery** to a place: everything else is kept, and unless there was an error the
place holds the bytes. -/
structure Delivered (v : Volume) (place : Place) (bytes : ByteArray)
    (r : Except IoError Unit × Volume) : Prop where
  isTree : r.2.IsTree
  grown : v.Extends r.2
  kept : ∀ q entry, q ≠ place → v.entryAt? q = some entry → r.2.entryAt? q = some entry
  held : r.1 = .ok () → r.2.entryAt? place = some (.file bytes)

/-- A failure after a change that has kept all entries. -/
theorem Delivered.failed (h : w.Contains v) (htree : w.IsTree) (place : Place) (bytes : ByteArray)
    (e : IoError) : v.Delivered place bytes (.error e, w) :=
  ⟨htree, h.extends, fun q entry _ hq => h.entry q entry hq, fun hok => nomatch hok⟩

/-- A delivery after a change that has kept all entries. -/
theorem Delivered.after {place : Place} {r : Except IoError Unit × Volume} (hbefore : w.Contains v)
    (h : w.Delivered place bytes r) : v.Delivered place bytes r := by
  refine ⟨h.isTree, hbefore.extends.trans h.grown, fun q entry hne hq => ?_, h.held⟩
  exact h.kept q entry hne (hbefore.entry q entry hq)

/-- What is found after a file has been written. -/
theorem entryAt?_overwrite (v : Volume) (place : Place) (file : String) (bytes : ByteArray) (q : Place) :
    (v.overwrite (place.below file) bytes).entryAt? q
      = if q = place.below file then some (.file bytes) else v.entryAt? q :=
  entryAt?_put_below v place file (.file bytes) q

/-- A file can always be brought up to date, and nothing else changes, unless a directory is in its
place. -/
theorem updateAt_free {place : Place} {file : String}
    (hfree : v.entryAt? (place.below file) ≠ some .directory) (bytes : ByteArray) :
    (v.updateAt (place.below file) bytes).1 = .ok () ∧
      ∀ q, (v.updateAt (place.below file) bytes).2.entryAt? q
        = if q = place.below file then some (.file bytes) else v.entryAt? q := by
  obtain ⟨hdirectory, -⟩ | ⟨hheld, heq⟩ | ⟨-, heq⟩ := v.updateAt_cases (place.below file) bytes
  · exact absurd hdirectory hfree
  · rw [heq]
    refine ⟨rfl, fun q => ?_⟩
    split
    · rename_i hq
      rw [hq]
      exact hheld
    · rfl
  · rw [heq]
    exact ⟨rfl, entryAt?_overwrite v place file bytes⟩

/-- **Bringing a file up to date** in a directory that is there. -/
theorem updateAt_delivered {place : Place} (htree : v.IsTree) (hplace : v.entryAt? place = some .directory)
    (file : String) (bytes : ByteArray) :
    v.Delivered (place.below file) bytes (v.updateAt (place.below file) bytes) := by
  obtain ⟨-, heq⟩ | ⟨hheld, heq⟩ | ⟨hfree, heq⟩ := v.updateAt_cases (place.below file) bytes
  · rw [heq]
    exact .failed (.refl v) htree _ _ _
  · rw [heq]
    exact ⟨htree, .refl v, fun q entry _ hq => hq, fun _ => hheld⟩
  · rw [heq]
    have hentry := entryAt?_overwrite v place file bytes
    have hother : ∀ q, q ≠ place.below file → (v.overwrite (place.below file) bytes).entryAt? q
        = v.entryAt? q := by
      intro q hq
      rw [hentry, if_neg hq]
    have hheld : (v.overwrite (place.below file) bytes).entryAt? (place.below file)
        = some (.file bytes) := by
      rw [hentry, if_pos rfl]
    exact ⟨htree.of_change hplace hfree hentry, extends_overwrite hfree bytes,
      fun q entry hne hq => (hother q hne).trans hq, fun _ => hheld⟩

/-- Bringing a file up to date once more, in a volume that has grown since. -/
theorem updateAt_again {place : Place} (hgrown : (v.updateAt place bytes).2.Extends w)
    (hheld : (v.updateAt place bytes).1 = .ok () → w.entryAt? place = some (.file bytes)) :
    w.updateAt place bytes = ((v.updateAt place bytes).1, w) := by
  have hdone : w.entryAt? place = some (.file bytes) → w.updateAt place bytes = (.ok (), w) := by
    intro hentry
    simp only [updateAt, hentry, if_true]
  obtain ⟨hdirectory, heq⟩ | ⟨-, heq⟩ | ⟨-, heq⟩ := v.updateAt_cases place bytes
  · rw [heq] at hgrown ⊢
    simp only [updateAt, hgrown.directory place hdirectory]
  · rw [heq] at hheld ⊢
    exact hdone (hheld rfl)
  · rw [heq] at hheld ⊢
    exact hdone (hheld rfl)

/-- The directory of a source has been created, and nothing else. -/
structure Prepared (v v' : Volume) (root : Path) (name : String) : Prop where
  isTree : v'.IsTree
  contains : v'.Contains v
  package : v'.entryAt? (packagePlace (v.start root.isAbsolute) root name) = some .directory

/-- The way to the directory of a source does not go up, unless the root does. -/
theorem dots_notMem_root (h : IsSourceName name) (hup : ".." ∉ root.parts) :
    ".." ∉ root.steps ++ packageSteps name :=
  h.dots_notMem fun hmem => hup (mem_parts_of_mem_steps hmem)

/-- **Creating the directory of a source** prepares the delivery, unless it fails. -/
theorem prepared_of_createDown (h : IsSourceName name) (hup : ".." ∉ root.parts) (htree : v.IsTree)
    (hstart : v.entryAt? (v.start root.isAbsolute) = some .directory)
    (hr : v.createDown (v.start root.isAbsolute) false (root.steps ++ packageSteps name) = (.ok (), w)) :
    v.Prepared w root name := by
  have hcreated := createDown_created v (v.start root.isAbsolute) false (root.steps ++ packageSteps name)
  rw [hr] at hcreated
  refine ⟨hcreated.isTree htree, hcreated.furnished.contains, ?_⟩
  rw [packagePlace_eq_descend_steps]
  exact hcreated.reached rfl (dots_notMem_root h hup) hstart

/-- Once the directory of a source has been created, its file is brought up to date, there and in every
volume that has grown since. -/
theorem Prepared.update_pathFor (hprepared : v.Prepared v' root name) (h : IsSourceName name)
    (hup : ".." ∉ root.parts) (hgrown : v'.Extends w) (htree : w.IsTree) (bytes : ByteArray) :
    w.update (pathFor root name) bytes = match fileRefusal? v'.limits root name with
      | some e => (.error e, w)
      | none => w.updateAt (sourcePlace (v.start root.isAbsolute) root name) bytes := by
  have hstart := (hprepared.contains.extends.trans hgrown).start_eq root.isAbsolute
  rw [← hgrown.limits_eq]
  exact Volume.update_pathFor h hup htree hstart (hgrown.directory _ hprepared.package) bytes

/-- Bringing the file of a source up to date, where its directory has been created. -/
theorem Prepared.delivered (hprepared : v.Prepared v' root name) (h : IsSourceName name)
    (hup : ".." ∉ root.parts) (bytes : ByteArray) :
    v'.Delivered (sourcePlace (v.start root.isAbsolute) root name) bytes
      (v'.update (pathFor root name) bytes) := by
  rw [hprepared.update_pathFor h hup (.refl v') hprepared.isTree]
  cases fileRefusal? v'.limits root name with
  | some e => exact .failed (.refl v') hprepared.isTree _ _ e
  | none => exact updateAt_delivered hprepared.isTree hprepared.package (fileStep name) bytes

/-- Bringing the file of a source up to date once more. -/
theorem Prepared.update_again (hprepared : v.Prepared v' root name) (h : IsSourceName name)
    (hup : ".." ∉ root.parts) (htree : w.IsTree) (hfrom : v'.Extends w)
    (hgrown : (v'.update (pathFor root name) bytes).2.Extends w)
    (hheld : (v'.update (pathFor root name) bytes).1 = .ok () →
      w.entryAt? (sourcePlace (v.start root.isAbsolute) root name) = some (.file bytes)) :
    w.update (pathFor root name) bytes = ((v'.update (pathFor root name) bytes).1, w) := by
  rw [hprepared.update_pathFor h hup (.refl v') hprepared.isTree] at hgrown hheld ⊢
  rw [hprepared.update_pathFor h hup hfrom htree]
  cases hfile : fileRefusal? v'.limits root name with
  | some e => rfl
  | none =>
      rw [hfile] at hgrown hheld
      exact updateAt_again hgrown hheld

/-- **A delivery** to the source of a type. -/
theorem deliver_delivered (h : IsSourceName name) (hup : ".." ∉ root.parts) (htree : v.IsTree)
    (hstart : v.entryAt? (v.start root.isAbsolute) = some .directory) (bytes : ByteArray) :
    v.Delivered (sourcePlace (v.start root.isAbsolute) root name) bytes
      (v.deliver (pathFor root name) bytes) := by
  unfold deliver
  rw [createParents_pathFor h root v]
  cases parentRefusal? v.limits (pathFor root name) with
  | some e => exact .failed (.refl v) htree _ _ _
  | none =>
      rcases hr : v.createDown (v.start root.isAbsolute) false (root.steps ++ packageSteps name)
        with ⟨e | _, v'⟩
      · have hcreated := createDown_created v (v.start root.isAbsolute) false
          (root.steps ++ packageSteps name)
        rw [hr] at hcreated
        exact .failed hcreated.furnished.contains (hcreated.isTree htree) _ _ e
      · have hprepared := prepared_of_createDown h hup htree hstart hr
        exact (hprepared.delivered h hup bytes).after hprepared.contains

/-- **Delivering the same bytes once more** ends as it ended and changes nothing, in every volume that has
grown since and still holds what was delivered. -/
theorem deliver_again (h : IsSourceName name) (hup : ".." ∉ root.parts) (htree : v.IsTree)
    (htree' : w.IsTree) (hstart : v.entryAt? (v.start root.isAbsolute) = some .directory)
    (hgrown : (v.deliver (pathFor root name) bytes).2.Extends w)
    (hheld : (v.deliver (pathFor root name) bytes).1 = .ok () →
      w.entryAt? (sourcePlace (v.start root.isAbsolute) root name) = some (.file bytes)) :
    w.deliver (pathFor root name) bytes = ((v.deliver (pathFor root name) bytes).1, w) := by
  have hfrom : v.Extends w := (deliver_delivered h hup htree hstart bytes).grown.trans hgrown
  unfold deliver at hgrown hheld ⊢
  rw [createParents_pathFor h root v] at hgrown hheld ⊢
  rw [createParents_pathFor h root w, hfrom.limits_eq, hfrom.start_eq]
  cases hparents : parentRefusal? v.limits (pathFor root name) with
  | some e => rfl
  | none =>
      rw [hparents] at hgrown hheld
      have hagain : ∀ r,
          v.createDown (v.start root.isAbsolute) false (root.steps ++ packageSteps name) = r →
          r.2.Extends w →
          w.createDown (v.start root.isAbsolute) false (root.steps ++ packageSteps name) = (r.1, w) := by
        rintro _ rfl
        exact createDown_again htree hstart (dots_notMem_root h hup) (isFresh_false v _)
      rcases hr : v.createDown (v.start root.isAbsolute) false (root.steps ++ packageSteps name)
        with ⟨e | _, v'⟩
      · rw [hr] at hgrown
        rw [hagain _ hr hgrown]
      · rw [hr] at hgrown hheld
        have hprepared := prepared_of_createDown h hup htree hstart hr
        have hw : v'.Extends w := (hprepared.delivered h hup bytes).grown.trans hgrown
        simp only [hagain _ hr hw]
        exact hprepared.update_again h hup htree' hw hgrown hheld

/-- Where the path does not start in a directory, no file is found. -/
theorem update_of_no_start (h : IsSourceName name)
    (hstart : v.entryAt? (v.start root.isAbsolute) ≠ some .directory) (bytes : ByteArray) :
    (v.update (pathFor root name) bytes).2 = v := by
  have hsteps : root.parts ++ sourceSteps name ≠ [] :=
    List.append_ne_nil_of_right_ne_nil _ (sourceSteps_ne_nil name)
  obtain ⟨step, rest, hcons⟩ := List.exists_cons_of_ne_nil hsteps
  unfold update
  rw [resolve_pathFor h root v, hcons]
  cases refusal? v.limits (pathFor root name).text.utf8ByteSize (step :: rest) with
  | some e => rfl
  | none =>
      cases hwalk : v.walk (v.start root.isAbsolute) (step :: rest) with
      | error e => rfl
      | ok place => exact absurd (directory_of_walk_cons hwalk) hstart

/-- Where the path does not start in a directory, nothing is delivered. -/
theorem deliver_of_no_start (h : IsSourceName name)
    (hstart : v.entryAt? (v.start root.isAbsolute) ≠ some .directory) (bytes : ByteArray) :
    (v.deliver (pathFor root name) bytes).2 = v := by
  have hcreate : ∀ steps, (v.createDown (v.start root.isAbsolute) false steps).2 = v := by
    intro steps
    cases steps with
    | nil => rfl
    | cons step rest => rw [createDown_missing hstart]
  unfold deliver
  rw [createParents_pathFor h root v]
  cases parentRefusal? v.limits (pathFor root name) with
  | some e => rfl
  | none =>
      have hkept := hcreate (root.steps ++ packageSteps name)
      rcases hr : v.createDown (v.start root.isAbsolute) false (root.steps ++ packageSteps name)
        with ⟨e | _, v'⟩
      · rw [hr] at hkept
        exact hkept
      · rw [hr] at hkept
        obtain rfl : v' = v := hkept
        exact update_of_no_start h hstart bytes

end Volume

end EntityAudit
