import EntityAudit.Proofs.Store.Delivery
import EntityAudit.Store.Memory

/-!
# `EntityAudit.Proofs.Store.Refinement` — a directory holds what a memory holds

Writing artifacts to an empty directory and to an empty memory keeps the two alike: the files below the
directory are the sources that the memory knows, with the same bytes.  A file is never in the way of a
directory, nor a directory of a file, because the names of files have a dot and those of packages have
none.  This holds where nothing but the content of the volume decides what succeeds: no name and no path
is too long.

## Contents

* `Store.putAll` — artifacts one after the other
* `Volume.Mirrors` — a directory that is like a memory (the invariant)
* `Mirrors.furnished`, `Mirrors.insert`, `Mirrors.put` — what writing one artifact does (the step)
* `Mirrors.putAll` — what writing all of them does (the run)
* `Volume.Refines`, `putAll_refines` — what is read from the directory in the end
-/

namespace EntityAudit

variable {σ κ : Type}

/-! ## Artifacts one after the other -/

/-- Writes artifacts one after the other: the results, and the state after all of them. -/
def Store.putAll (store : Store σ κ) : List Artifact → σ → List (Except IoError Unit) × σ
  | [], s => ([], s)
  | a :: rest, s =>
    let r := store.put a s
    let after := store.putAll rest r.state
    (r.result :: after.1, after.2)

namespace Volume

variable {v v' : Volume} {root : Path} {place : Place} {m : Memory} {name : String}

/-! ## The invariant -/

/-- **A directory is like a memory**: the path `root` leads to the directory `place`, every source that
the memory knows is a file there, every file there is such a source, and no directory there has a dot in
its name. -/
structure Mirrors (v : Volume) (root : Path) (place : Place) (m : Memory) : Prop where
  isTree : v.IsTree
  limits_eq : v.limits = .unbounded
  way : v.walkFrom root root.parts = .ok place
  directory : v.entryAt? place = some .directory
  found : ∀ name, IsSourceName name → ∀ bytes, m.get? name = some bytes →
    v.entryAt? (place.descend (sourceSteps name)) = some (.file bytes)
  only : ∀ q, q.isWithin place = true → ∀ bytes, v.entryAt? q = some (.file bytes) →
    ∃ name, IsSourceName name ∧ m.get? name = some bytes ∧ q = place.descend (sourceSteps name)
  undotted : ∀ upper : Place, upper.isWithin place = true → ∀ step,
    v.entryAt? (upper.below step) = some .directory → '.' ∉ step.toList

/-- The path `root` leads to a directory `place`, in which nothing is. -/
structure IsEmptyRoot (v : Volume) (root : Path) (place : Place) : Prop where
  way : v.walkFrom root root.parts = .ok place
  directory : v.entryAt? place = some .directory
  empty : ∀ q, q.isWithin place = true → q ≠ place → v.entryAt? q = none

/-- An empty directory is like an empty memory. -/
theorem IsEmptyRoot.mirrors (h : v.IsEmptyRoot root place) (htree : v.IsTree)
    (hlimits : v.limits = .unbounded) : v.Mirrors root place Catalog.empty := by
  refine ⟨htree, hlimits, h.way, h.directory, ?_, ?_, ?_⟩
  · intro name _ bytes hget
    rw [Catalog.get?_empty] at hget
    exact nomatch hget
  · intro q hq bytes hfile
    by_cases heq : q = place
    · rw [heq, h.directory] at hfile
      exact nomatch hfile
    · rw [h.empty q hq heq] at hfile
      exact nomatch hfile
  · intro upper hupper step hdirectory
    rw [h.empty _ (Place.isWithin_below hupper step) (Place.below_ne_of_isWithin hupper step)]
      at hdirectory
    exact nomatch hdirectory

/-! ## What the invariant says -/

/-- The directory of a source lies at or below the root. -/
theorem isWithin_package (h : IsSourceName name) (place : Place) :
    (place.descend (packageSteps name)).isWithin place = true :=
  Place.isWithin_descend place fun _ hstep => (h.descends_package hstep).1

/-- No directory is in the place of a source. -/
theorem Mirrors.source_free (hm : v.Mirrors root place m) (h : IsSourceName name) :
    v.entryAt? (place.descend (sourceSteps name)) ≠ some .directory := by
  intro hdirectory
  rw [descend_sourceSteps h] at hdirectory
  exact hm.undotted _ (isWithin_package h place) _ hdirectory (dot_mem_fileStep name)

/-- No file is in the way of a directory of packages. -/
theorem Mirrors.isClear (hm : v.Mirrors root place m) (h : IsSourceName name) :
    v.IsClear place (packageSteps name) := by
  constructor
  · intro step hstep
    obtain ⟨hdot, hup⟩ := h.descends_package hstep
    refine ⟨hdot, hup, ?_⟩
    rw [hm.limits_eq]
    exact Bool.false_ne_true
  · intro upper hupper step hstep bytes hfile
    obtain ⟨other, hother, -, heq⟩ := hm.only _ (Place.isWithin_below hupper step) bytes hfile
    rw [descend_sourceSteps hother] at heq
    have hname : step = fileStep other := (Place.below_inj heq).2
    exact dot_notMem_packageStep hstep (hname ▸ dot_mem_fileStep other)

/-- What is at the place of a source is what the memory knows under its name. -/
theorem Mirrors.entryAt?_source (hm : v.Mirrors root place m) (h : IsSourceName name) :
    v.entryAt? (place.descend (sourceSteps name)) = (m.get? name).map .file := by
  cases hget : m.get? name with
  | some bytes => exact hm.found name h bytes hget
  | none =>
      cases hentry : v.entryAt? (place.descend (sourceSteps name)) with
      | none => rfl
      | some entry =>
          cases entry with
          | directory => exact absurd hentry (hm.source_free h)
          | file bytes =>
              have hwithin := Place.isWithin_descend place fun _ hstep => (h.descends hstep).1
              obtain ⟨other, hother, hknown, heq⟩ := hm.only _ hwithin bytes hentry
              rw [descend_sourceSteps_inj h hother heq, hknown] at hget
              exact nomatch hget

/-- The path to a source leads where its steps lead from the directory. -/
theorem Mirrors.resolve_pathFor (hm : v.Mirrors root place m) (h : IsSourceName name) :
    v.resolve (pathFor root name) = v.walk place (sourceSteps name) := by
  obtain ⟨hnul, hwalk⟩ := walk_of_walkFrom hm.way
  have hnul' : ∀ step ∈ root.parts ++ sourceSteps name, '\x00' ∉ step.toList := by
    intro step hstep
    rcases List.mem_append.mp hstep with hroot | hsource
    · exact hnul step hroot
    · exact h.nul_notMem hsource
  rw [Volume.resolve_pathFor h root v, hm.limits_eq, refusal?_unbounded hnul']
  exact walk_append_of_ok hwalk

/-- A source is reached where its directory is there. -/
theorem Mirrors.walk_source (hm : v.Mirrors root place m) (h : IsSourceName name)
    (hpackage : v.entryAt? (place.descend (packageSteps name)) = some .directory) :
    v.walk place (sourceSteps name) = .ok (place.descend (sourceSteps name)) := by
  have hup : ".." ∉ packageSteps name := h.dots_notMem List.not_mem_nil
  obtain ⟨hdot, hdots⟩ := h.descends_file
  have hfits : ¬ (packageSteps name ++ [fileStep name]).any v.limits.refusesStep = true := by
    intro hany
    obtain ⟨step, -, hlong⟩ := List.any_eq_true.mp hany
    rw [hm.limits_eq] at hlong
    exact Bool.false_ne_true ((Bool.and_false _).symm.trans hlong)
  rw [sourceSteps, walk_file hm.isTree hup hpackage hdot hdots, if_neg hfits, ← sourceSteps,
    descend_sourceSteps h]

/-- **Reading a source** gives what the memory knows under its name. -/
theorem Mirrors.read_pathFor (hm : v.Mirrors root place m) (h : IsSourceName name) :
    v.read (pathFor root name) = match m.get? name with
      | some bytes => .ok bytes
      | none => .error (.system .notFound) := by
  have hentry := hm.entryAt?_source h
  unfold read
  rw [hm.resolve_pathFor h, h.asksDirectory_pathFor root]
  by_cases hpackage : v.entryAt? (place.descend (packageSteps name)) = some .directory
  · rw [hm.walk_source h hpackage]
    simp only [hentry]
    cases m.get? name with
    | none => rfl
    | some bytes => rfl
  · -- Nothing lies in a directory that is missing.
    have hnone : v.entryAt? (place.descend (sourceSteps name)) = none := by
      rw [descend_sourceSteps h]
      by_contra hsome
      exact hpackage (hm.isTree _ _ hsome)
    rw [hnone] at hentry
    rw [sourceSteps, walk_missing hm.directory (hm.isClear h) hpackage,
      Option.map_eq_none_iff.mp hentry.symm]

/-! ## The step -/

/-- Directories of packages have been created. -/
theorem Mirrors.furnished (hm : v.Mirrors root place m)
    (hfurnished : v.Furnished v' (packageSteps name)) (htree : v'.IsTree) : v'.Mirrors root place m := by
  have hcontains := hfurnished.contains
  refine ⟨htree, hcontains.limits_eq.trans hm.limits_eq, hcontains.extends.walkFrom_eq_ok hm.way,
    hcontains.extends.directory _ hm.directory, ?_, ?_, ?_⟩
  · intro other hother bytes hget
    exact hcontains.entry _ _ (hm.found other hother bytes hget)
  · intro q hq bytes hfile
    rcases hfurnished.entry q with hsame | ⟨-, hnew, -⟩
    · exact hm.only q hq bytes (hsame ▸ hfile)
    · rw [hnew] at hfile
      exact nomatch hfile
  · intro upper hupper step hdirectory
    rcases hfurnished.entry (upper.below step) with hsame | ⟨-, -, other, packageStep, hmem, heq⟩
    · exact hm.undotted upper hupper step (hsame ▸ hdirectory)
    · rw [(Place.below_inj heq).2]
      exact dot_notMem_packageStep hmem

/-- The file of a source has been brought up to date. -/
theorem Mirrors.insert (hm : v.Mirrors root place m) (h : IsSourceName name) {bytes : ByteArray}
    (hgrown : v.Extends v') (htree : v'.IsTree)
    (hentry : ∀ q, v'.entryAt? q
      = if q = place.descend (sourceSteps name) then some (.file bytes) else v.entryAt? q) :
    v'.Mirrors root place (m.insert name bytes) := by
  refine ⟨htree, hgrown.limits_eq.trans hm.limits_eq, hgrown.walkFrom_eq_ok hm.way,
    hgrown.directory _ hm.directory, ?_, ?_, ?_⟩
  · intro other hother old hget
    rw [Catalog.get?_insert] at hget
    rw [hentry]
    by_cases hname : other = name
    · rw [if_pos hname] at hget
      rw [hname, if_pos rfl, Option.some.inj hget]
    · rw [if_neg hname] at hget
      have hplace : place.descend (sourceSteps other) ≠ place.descend (sourceSteps name) := fun heq =>
        hname (descend_sourceSteps_inj hother h heq)
      rw [if_neg hplace, hm.found other hother old hget]
  · intro q hq old hfile
    rw [hentry] at hfile
    by_cases hplace : q = place.descend (sourceSteps name)
    · rw [if_pos hplace] at hfile
      refine ⟨name, h, ?_, hplace⟩
      rw [Catalog.get?_insert, if_pos rfl, Entry.file.inj (Option.some.inj hfile)]
    · rw [if_neg hplace] at hfile
      obtain ⟨other, hother, hget, heq⟩ := hm.only q hq old hfile
      have hname : other ≠ name := by
        rintro rfl
        exact hplace heq
      refine ⟨other, hother, ?_, heq⟩
      rw [Catalog.get?_insert, if_neg hname, hget]
  · intro upper hupper step hdirectory
    rw [hentry] at hdirectory
    split at hdirectory
    · exact nomatch hdirectory
    · exact hm.undotted upper hupper step hdirectory

/-- The directory of a source can be created. -/
theorem Mirrors.createParents_pathFor (hm : v.Mirrors root place m) (h : IsSourceName name) :
    ∃ v', v.createParents (pathFor root name) = (.ok (), v') ∧ v'.Mirrors root place m ∧
      v.Extends v' ∧ v'.entryAt? (place.descend (packageSteps name)) = some .directory := by
  obtain ⟨hnul, hwalk⟩ := walk_of_walkFrom hm.way
  have hparents : parentRefusal? v.limits (pathFor root name) = none := by
    have hnul' : ∀ step ∈ root.steps ++ packageSteps name, '\x00' ∉ step.toList := by
      intro step hstep
      rcases List.mem_append.mp hstep with hroot | hpackage
      · exact hnul step (mem_parts_of_mem_steps hroot)
      · exact h.nul_notMem (List.mem_append_left _ hpackage)
    unfold parentRefusal?
    rw [h.parentSteps?_pathFor root, hm.limits_eq]
    cases hsteps : root.steps ++ packageSteps name with
    | nil => rfl
    | cons step rest => exact refusal?_unbounded (hsteps ▸ hnul') _
  -- The way through the root is there, and the rest is created below it.
  have hroot : v.walk (v.start root.isAbsolute) (root.steps.filter (· ≠ ".")) = .ok place := by
    rw [filter_steps]
    exact walk_filter hwalk
  have hcreate : v.createParents (pathFor root name) = v.createDown place false (packageSteps name) := by
    rw [Volume.createParents_pathFor h root v, hparents]
    exact createDown_of_walk hroot hm.directory
  have hok : (v.createDown place false (packageSteps name)).1 = .ok () :=
    createDown_clear hm.directory (hm.isClear h)
  obtain ⟨hfurnished, htree, hreached⟩ := createDown_created v place false (packageSteps name)
  refine ⟨(v.createDown place false (packageSteps name)).2, ?_, ?_, hfurnished.extends, ?_⟩
  · rw [hcreate, ← hok]
  · exact hm.furnished hfurnished (htree hm.isTree)
  · exact hreached hok (h.dots_notMem List.not_mem_nil) hm.directory

/-- **Writing an artifact** succeeds, and keeps the directory like the memory. -/
theorem Mirrors.put (hm : v.Mirrors root place m) {a : Artifact} (h : IsSourceName a.qualifiedName) :
    ((Directory.store root).put a v).result = .ok () ∧
      ((Directory.store root).put a v).state.Mirrors root place (Memory.store.put a m).state := by
  obtain ⟨v', hcreate, hm', -, hpackage⟩ := hm.createParents_pathFor h
  have hsource := descend_sourceSteps h place
  have hfree := hm'.source_free h
  rw [hsource] at hfree
  obtain ⟨hok, hentry⟩ := updateAt_free hfree a.bytes
  have hdelivered := updateAt_delivered hm'.isTree hpackage (fileStep a.qualifiedName) a.bytes
  have hdeliver : v.deliver (pathFor root a.qualifiedName) a.bytes
      = v'.updateAt ((place.descend (packageSteps a.qualifiedName)).below (fileStep a.qualifiedName))
          a.bytes := by
    unfold deliver update
    rw [hcreate]
    simp only [hm'.resolve_pathFor h, hm'.walk_source h hpackage, hsource]
  obtain ⟨hresult, hstate⟩ := put_directory a (h.asksDirectory_pathFor root) v
  rw [hresult, hstate, hdeliver, put_memory]
  refine ⟨hok, hm'.insert h hdelivered.grown hdelivered.isTree ?_⟩
  rw [hsource]
  exact hentry

/-! ## The run -/

/-- **Writing artifacts one after the other** succeeds, and keeps the directory like the memory. -/
theorem Mirrors.putAll (hm : v.Mirrors root place m) {artifacts : List Artifact}
    (hnames : ∀ a ∈ artifacts, IsSourceName a.qualifiedName) :
    ((Directory.store root).putAll artifacts v).1 = artifacts.map (fun _ => .ok ()) ∧
      ((Directory.store root).putAll artifacts v).2.Mirrors root place
        (Memory.store.putAll artifacts m).2 := by
  induction artifacts generalizing v m with
  | nil => exact ⟨rfl, hm⟩
  | cons a rest ih =>
      obtain ⟨ha, hrest⟩ := List.forall_mem_cons.mp hnames
      obtain ⟨hok, hm'⟩ := hm.put ha
      obtain ⟨hoks, hm''⟩ := ih hm' hrest
      refine ⟨?_, hm''⟩
      rw [Store.putAll, List.map_cons]
      simp only [hok, hoks]

/-! ## What is read in the end -/

/-- **The directory to which a path leads refines a memory**: reading a source gives what the memory knows
under its name, or finds nothing, and there are no other files. -/
structure Refines (v : Volume) (root : Path) (place : Place) (m : Memory) : Prop where
  /-- The path still leads to the directory. -/
  way : v.walkFrom root root.parts = .ok place
  /-- A source can be read exactly if the memory knows its name, and then has the same bytes. -/
  read_eq : ∀ name, IsSourceName name → v.read (pathFor root name) = match m.get? name with
    | some bytes => .ok bytes
    | none => .error (.system .notFound)
  /-- Every file at or below the directory is such a source. -/
  files : ∀ q, q.isWithin place = true → ∀ bytes, v.entryAt? q = some (.file bytes) →
    ∃ name, IsSourceName name ∧ m.get? name = some bytes ∧ v.resolve (pathFor root name) = .ok q

theorem Mirrors.refines (hm : v.Mirrors root place m) : v.Refines root place m := by
  refine ⟨hm.way, fun name h => hm.read_pathFor h, fun q hq bytes hfile => ?_⟩
  obtain ⟨name, h, hget, heq⟩ := hm.only q hq bytes hfile
  refine ⟨name, h, hget, ?_⟩
  -- The source is there, so its directory is.
  have hpackage : v.entryAt? (place.descend (packageSteps name)) = some .directory := by
    apply hm.isTree _ (fileStep name)
    rw [← descend_sourceSteps h, ← heq, hfile]
    exact Option.some_ne_none _
  rw [hm.resolve_pathFor h, hm.walk_source h hpackage, heq]

/-- **Writing artifacts to an empty directory refines writing them to an empty memory**, and every write
succeeds. -/
theorem putAll_refines (hroot : v.IsEmptyRoot root place) (htree : v.IsTree)
    (hlimits : v.limits = .unbounded) {artifacts : List Artifact}
    (hnames : ∀ a ∈ artifacts, IsSourceName a.qualifiedName) :
    ((Directory.store root).putAll artifacts v).1 = artifacts.map (fun _ => .ok ()) ∧
      ((Directory.store root).putAll artifacts v).2.Refines root place
        (Memory.store.putAll artifacts Catalog.empty).2 := by
  obtain ⟨hoks, hm⟩ := (hroot.mirrors htree hlimits).putAll hnames
  exact ⟨hoks, hm.refines⟩

/-- Below the only directory of a volume there is nothing. -/
theorem isEmptyRoot_of_single (h : v.entries = [(Place.top.below name, .directory)])
    (hway : v.walkFrom root root.parts = .ok (Place.top.below name)) :
    v.IsEmptyRoot root (Place.top.below name) := by
  have hentry : ∀ q, v.entryAt? q = if q = .top then some .directory
      else if q = Place.top.below name then some .directory else none := by
    intro q
    unfold entryAt?
    rw [h, List.lookup_cons, List.lookup_nil]
    by_cases hq : q = Place.top.below name
    · simp [hq]
    · have hother : (q == Place.top.below name) = false := beq_eq_false_iff_ne.mpr hq
      simp [hother, hq]
  refine ⟨hway, ?_, fun q hq hne => ?_⟩
  · rw [hentry, if_neg (Place.below_ne_top _ _), if_pos rfl]
  · have htop : q ≠ .top := by
      rintro rfl
      exact Bool.false_ne_true hq
    rw [hentry, if_neg htop, if_neg hne]

/-- A volume without limits, with one empty directory. -/
def unlimited : Volume := { scratch "out" with limits := .unbounded }

/-- Two types of one name in packages of which one lies in the other, and the first of them once more, with
no contents. -/
def threeWrites : List Artifact := [⟨"a.B", "x"⟩, ⟨"a.b.B", "y"⟩, ⟨"a.B", ""⟩]

theorem putAll_refines_threeWrites :
    unlimited.IsEmptyRoot ⟨"/out"⟩ (Place.top.below "out") ∧ unlimited.IsTree ∧
      unlimited.limits = .unbounded ∧ (∀ a ∈ threeWrites, IsSourceName a.qualifiedName) ∧
      ((Directory.store ⟨"/out"⟩).putAll threeWrites unlimited).1 = threeWrites.map (fun _ => .ok ()) ∧
      ((Directory.store ⟨"/out"⟩).putAll threeWrites unlimited).2.Refines ⟨"/out"⟩
        (Place.top.below "out") (Memory.store.putAll threeWrites Catalog.empty).2 := by
  have hway : unlimited.walkFrom ⟨"/out"⟩ (Path.parts ⟨"/out"⟩) = .ok (Place.top.below "out") := by rfl
  have hroot := isEmptyRoot_of_single (v := unlimited) rfl hway
  have htree : unlimited.IsTree := isTree_of_single rfl
  have hnames : ∀ a ∈ threeWrites, IsSourceName a.qualifiedName := by decide
  exact ⟨hroot, htree, rfl, hnames, putAll_refines hroot htree rfl hnames⟩

end Volume

end EntityAudit
