import EntityAudit.Proofs.Volume.Tree

/-!
# `EntityAudit.Proofs.Volume.Ways` — walking down a tree, and creating the directories on the way

Walking looks at every directory on the way, and creating makes those that are missing.  Creating the same
directories once more changes nothing and ends as it ended before, in every volume that has grown from
the one in which they were created: what was created is found, and what was in the way still is.

## Contents

* `walk_append_of_ok`, `Extends.walk_eq_ok` — walking on, and walking after the volume has grown
* `walk_cons_cases` — what the first step of a walk does
* `refusal?_unbounded`, `walk_of_walkFrom` — where the path itself is refused
* `walk_of_directory`, `walk_file` — walking to a directory of a tree, and to a file in one
* `createDown_stay` to `createDown_new` — what one step of creating does
* `Furnished`, `Created`, `createDown_created` — what creating directories does
* `IsFresh`, `createDown_again` — creating them once more
* `createDown_of_walk` — creating directories below one that is there
* `IsClear`, `createDown_clear`, `walk_missing` — where no file is in the way
-/

namespace EntityAudit

/-- Whether a step is a name that is too long.  A step that stays in place is not looked up. -/
def Limits.refusesStep (limits : Limits) (step : String) : Bool :=
  step != "." && limits.refusesName step

namespace Volume

variable {v v' : Volume} {place q : Place} {step : String} {rest steps : List String}

/-! ## Walking -/

theorem walk_stay (h : v.entryAt? place = some .directory) :
    v.walk place ("." :: rest) = v.walk place rest := by
  rw [walk, h]
  exact if_pos rfl

theorem walk_up (h : v.entryAt? place = some .directory) :
    v.walk place (".." :: rest) = v.walk place.above rest := by
  rw [walk, h]
  exact (if_neg (by decide)).trans (if_pos rfl)

theorem walk_refused (h : v.entryAt? place = some .directory) (hdot : step ≠ ".") (hup : step ≠ "..")
    (hlong : v.limits.refusesName step = true) :
    v.walk place (step :: rest) = .error (.system .invalidFilename) := by
  rw [walk, h]
  exact (if_neg hdot).trans ((if_neg hup).trans (if_pos hlong))

theorem walk_down (h : v.entryAt? place = some .directory) (hdot : step ≠ ".") (hup : step ≠ "..")
    (hfits : ¬ v.limits.refusesName step = true) :
    v.walk place (step :: rest) = v.walk (place.below step) rest := by
  rw [walk, h]
  exact (if_neg hdot).trans ((if_neg hup).trans (if_neg hfits))

/-- Every step starts in a directory. -/
theorem directory_of_walk_cons (h : v.walk place (step :: rest) = .ok q) :
    v.entryAt? place = some .directory := by
  rw [walk] at h
  split at h
  · exact nomatch h
  · exact nomatch h
  · assumption

/-- A walk that ends in a directory starts in one. -/
theorem directory_of_walk (h : v.walk place steps = .ok q) (hq : v.entryAt? q = some .directory) :
    v.entryAt? place = some .directory := by
  cases steps with
  | nil =>
      rw [Except.ok.inj h]
      exact hq
  | cons step rest => exact directory_of_walk_cons h

/-- **A walk as its first step and the rest**: it stays in place, goes up or goes down. -/
theorem walk_cons_cases (h : v.walk place (step :: rest) = .ok q) :
    (step = "." ∧ v.walk place rest = .ok q) ∨ (step = ".." ∧ v.walk place.above rest = .ok q) ∨
      (step ≠ "." ∧ step ≠ ".." ∧ ¬ v.limits.refusesName step = true
        ∧ v.walk (place.below step) rest = .ok q) := by
  have hplace := directory_of_walk_cons h
  by_cases hdot : step = "."
  · rw [hdot, walk_stay hplace] at h
    exact Or.inl ⟨hdot, h⟩
  · by_cases hup : step = ".."
    · rw [hup, walk_up hplace] at h
      exact Or.inr (Or.inl ⟨hup, h⟩)
    · by_cases hlong : v.limits.refusesName step = true
      · rw [walk_refused hplace hdot hup hlong] at h
        exact nomatch h
      · rw [walk_down hplace hdot hup hlong] at h
        exact Or.inr (Or.inr ⟨hdot, hup, hlong, h⟩)

/-- **A walk goes on where its first part ends**, unless that fails. -/
theorem walk_append (v : Volume) (place : Place) (first second : List String) :
    v.walk place (first ++ second) = match v.walk place first with
      | .error e => .error e
      | .ok q => v.walk q second := by
  induction first generalizing place with
  | nil => rfl
  | cons step rest ih =>
      rw [List.cons_append, walk, walk]
      cases hplace : v.entryAt? place with
      | none => rfl
      | some entry =>
          cases entry with
          | file bytes => rfl
          | directory =>
              by_cases hdot : step = "."
              · simp only [if_pos hdot, ih]
              · by_cases hup : step = ".."
                · simp only [if_neg hdot, if_pos hup, ih]
                · by_cases hlong : v.limits.refusesName step = true
                  · simp only [if_neg hdot, if_neg hup, if_pos hlong]
                  · simp only [if_neg hdot, if_neg hup, if_neg hlong, ih]

theorem walk_append_of_ok {first second : List String} (h : v.walk place first = .ok q) :
    v.walk place (first ++ second) = v.walk q second := by
  rw [walk_append, h]

/-- A walk leads to the same place after the volume has grown. -/
theorem Extends.walk_eq_ok (hgrown : v.Extends v') (h : v.walk place steps = .ok q) :
    v'.walk place steps = .ok q := by
  induction steps generalizing place with
  | nil => exact h
  | cons step rest ih =>
      have hplace := hgrown.directory place (directory_of_walk_cons h)
      obtain ⟨rfl, hrest⟩ | ⟨rfl, hrest⟩ | ⟨hdot, hup, hfits, hrest⟩ := walk_cons_cases h
      · rw [walk_stay hplace, ih hrest]
      · rw [walk_up hplace, ih hrest]
      · rw [← hgrown.limits_eq] at hfits
        rw [walk_down hplace hdot hup hfits, ih hrest]

/-- Without limits nothing is refused but a NUL. -/
theorem refusal?_unbounded (h : ∀ step ∈ steps, '\x00' ∉ step.toList) (size : Nat) :
    refusal? .unbounded size steps = none := by
  have hnul : ¬ steps.any (fun step => step.toList.contains '\x00') = true := by
    intro hany
    obtain ⟨step, hstep, hcontains⟩ := List.any_eq_true.mp hany
    exact h step hstep (List.contains_iff_mem.mp hcontains)
  unfold refusal?
  rw [if_neg hnul]
  rfl

/-- Where a walk from the start of a path leads somewhere, the path has no NUL. -/
theorem walk_of_walkFrom {p : Path} (h : v.walkFrom p steps = .ok place) :
    (∀ part ∈ p.parts, '\x00' ∉ part.toList) ∧ v.walk (v.start p.isAbsolute) steps = .ok place := by
  unfold walkFrom refusal? at h
  by_cases hany : p.parts.any (fun step => step.toList.contains '\x00') = true
  · rw [if_pos hany] at h
    exact nomatch h
  · rw [if_neg hany] at h
    constructor
    · intro part hpart hnul
      exact hany (List.any_eq_true.mpr ⟨part, hpart, List.contains_iff_mem.mpr hnul⟩)
    · split at h
      · exact nomatch h
      · exact h

theorem Extends.walkFrom_eq_ok {p : Path} (hgrown : v.Extends v') (h : v.walkFrom p steps = .ok q) :
    v'.walkFrom p steps = .ok q := by
  unfold walkFrom at h ⊢
  rw [hgrown.limits_eq, hgrown.start_eq]
  cases hrefusal : refusal? v.limits p.text.utf8ByteSize p.parts with
  | some e =>
      rw [hrefusal] at h
      exact nomatch h
  | none =>
      rw [hrefusal] at h
      exact hgrown.walk_eq_ok h

/-- Steps that stay in place may be left out of a walk. -/
theorem walk_filter (h : v.walk place steps = .ok q) :
    v.walk place (steps.filter (· ≠ ".")) = .ok q := by
  induction steps generalizing place with
  | nil => exact h
  | cons step rest ih =>
      have hplace := directory_of_walk_cons h
      obtain ⟨rfl, hrest⟩ | ⟨rfl, hrest⟩ | ⟨hdot, hup, hfits, hrest⟩ := walk_cons_cases h
      · exact ih hrest
      · exact (walk_up hplace).trans (ih hrest)
      · have hkept : (step :: rest).filter (· ≠ ".") = step :: rest.filter (· ≠ ".") :=
          List.filter_cons_of_pos (decide_eq_true hdot)
        rw [hkept, walk_down hplace hdot hup hfits, ih hrest]

/-- **Walking down to a directory of a tree** succeeds unless a name is too long. -/
theorem walk_of_directory (htree : v.IsTree) (hup : ".." ∉ steps)
    (hend : v.entryAt? (place.descend steps) = some .directory) :
    v.walk place steps = if steps.any v.limits.refusesStep = true
      then .error (.system .invalidFilename) else .ok (place.descend steps) := by
  induction steps generalizing place with
  | nil => rfl
  | cons step rest ih =>
      have hplace := htree.directory_of_descend hend
      obtain ⟨hstep, hrest⟩ := List.ne_and_not_mem_of_not_mem_cons hup
      by_cases hdot : step = "."
      · have hlook : v.limits.refusesStep step = false := by
          rw [hdot]
          rfl
        rw [Place.descend, if_pos hdot] at hend ⊢
        rw [List.any_cons, hlook, Bool.false_or, hdot, walk_stay hplace, ih hrest hend]
      · rw [Place.descend, if_neg hdot] at hend ⊢
        have hlook : v.limits.refusesStep step = v.limits.refusesName step := by
          rw [Limits.refusesStep, bne_iff_ne.mpr hdot, Bool.true_and]
        rw [List.any_cons, hlook]
        by_cases hlong : v.limits.refusesName step = true
        · rw [walk_refused hplace hdot (Ne.symm hstep) hlong, hlong, Bool.true_or, if_pos rfl]
        · rw [walk_down hplace hdot (Ne.symm hstep) hlong, ih hrest hend,
            Bool.eq_false_iff.mpr hlong, Bool.false_or]

/-- **Walking down to a file in a directory of a tree**: the file itself is not looked at. -/
theorem walk_file {file : String} (htree : v.IsTree) (hup : ".." ∉ steps)
    (hend : v.entryAt? (place.descend steps) = some .directory) (hdot : file ≠ ".")
    (hdots : file ≠ "..") :
    v.walk place (steps ++ [file]) = if (steps ++ [file]).any v.limits.refusesStep = true
      then .error (.system .invalidFilename) else .ok ((place.descend steps).below file) := by
  have hway := walk_of_directory htree hup hend
  have hlook : v.limits.refusesStep file = v.limits.refusesName file := by
    rw [Limits.refusesStep, bne_iff_ne.mpr hdot, Bool.true_and]
  rw [List.any_append, List.any_cons, List.any_nil, Bool.or_false, hlook]
  by_cases hlong : steps.any v.limits.refusesStep = true
  · rw [if_pos hlong] at hway
    rw [walk_append, hway, hlong, Bool.true_or, if_pos rfl]
  · rw [if_neg hlong] at hway
    rw [walk_append_of_ok hway, Bool.eq_false_iff.mpr hlong, Bool.false_or]
    by_cases hfile : v.limits.refusesName file = true
    · rw [walk_refused hend hdot hdots hfile, if_pos hfile]
    · rw [walk_down hend hdot hdots hfile, if_neg hfile]
      rfl

/-! ## Creating directories, step by step -/

variable {isCreating : Bool}

theorem createDown_missing (h : v.entryAt? place ≠ some .directory) :
    v.createDown place isCreating (step :: rest) = (.error (.system .notFound), v) := by
  rw [createDown, hasDirectory_eq_false_iff.mpr h]
  rfl

theorem createDown_stay (h : v.entryAt? place = some .directory) :
    v.createDown place isCreating ("." :: rest) = v.createDown place isCreating rest := by
  rw [createDown, hasDirectory_iff.mpr h]
  exact (if_neg (by decide)).trans (if_pos rfl)

theorem createDown_up (h : v.entryAt? place = some .directory) :
    v.createDown place isCreating (".." :: rest) = v.createDown place.above isCreating rest := by
  rw [createDown, hasDirectory_iff.mpr h]
  exact (if_neg (by decide)).trans ((if_neg (by decide)).trans (if_pos rfl))

/-- The step is the name of something below a directory, and short enough. -/
structure Descends (v : Volume) (place : Place) (step : String) : Prop where
  start : v.entryAt? place = some .directory
  ne_dot : step ≠ "."
  ne_dots : step ≠ ".."
  fits : ¬ v.limits.refusesName step = true

theorem createDown_refused (h : v.entryAt? place = some .directory) (hdot : step ≠ ".")
    (hup : step ≠ "..") (hlong : v.limits.refusesName step = true) :
    v.createDown place isCreating (step :: rest) = (.error (.system .invalidFilename), v) := by
  rw [createDown, hasDirectory_iff.mpr h]
  exact (if_neg (by decide)).trans ((if_neg hdot).trans ((if_neg hup).trans (if_pos hlong)))

theorem createDown_name (h : v.Descends place step) :
    v.createDown place isCreating (step :: rest) = match v.entryAt? (place.below step) with
      | some .directory => v.createDown (place.below step) isCreating rest
      | some (.file _) => (.error (.system (inTheWay isCreating rest)), v)
      | none => (v.put (place.below step) .directory).createDown (place.below step) true rest := by
  rw [createDown, hasDirectory_iff.mpr h.start]
  exact (if_neg (by decide)).trans ((if_neg h.ne_dot).trans ((if_neg h.ne_dots).trans (if_neg h.fits)))

/-- A directory that is there is gone through. -/
theorem createDown_through (h : v.Descends place step)
    (hthere : v.entryAt? (place.below step) = some .directory) :
    v.createDown place isCreating (step :: rest)
      = v.createDown (place.below step) isCreating rest := by
  rw [createDown_name h, hthere]

/-- A file is in the way. -/
theorem createDown_blocked (h : v.Descends place step) {bytes : ByteArray}
    (hfile : v.entryAt? (place.below step) = some (.file bytes)) :
    v.createDown place isCreating (step :: rest)
      = (.error (.system (inTheWay isCreating rest)), v) := by
  rw [createDown_name h, hfile]

/-- A directory that is missing is made, and from then on directories are being created. -/
theorem createDown_new (h : v.Descends place step) (hnone : v.entryAt? (place.below step) = none) :
    v.createDown place isCreating (step :: rest)
      = (v.put (place.below step) .directory).createDown (place.below step) true rest := by
  rw [createDown_name h, hnone]

/-- **What the first step of creating directories does.** -/
theorem createDown_cons_cases (h : v.entryAt? place = some .directory) (step : String) :
    step = "." ∨ step = ".."
      ∨ (step ≠ "." ∧ step ≠ ".." ∧ v.limits.refusesName step = true) ∨ v.Descends place step := by
  by_cases hdot : step = "."
  · exact Or.inl hdot
  · by_cases hup : step = ".."
    · exact Or.inr (Or.inl hup)
    · by_cases hlong : v.limits.refusesName step = true
      · exact Or.inr (Or.inr (Or.inl ⟨hdot, hup, hlong⟩))
      · exact Or.inr (Or.inr (Or.inr ⟨h, hdot, hup, hlong⟩))

/-! ## What creating directories does -/

/-- The volume `v'` is `v` with some more directories, each named by one of the steps. -/
structure Furnished (v v' : Volume) (steps : List String) : Prop where
  current_eq : v'.current = v.current
  limits_eq : v'.limits = v.limits
  entry : ∀ q, v'.entryAt? q = v.entryAt? q ∨
    (v.entryAt? q = none ∧ v'.entryAt? q = some .directory ∧
      ∃ upper : Place, ∃ step ∈ steps, q = upper.below step)

theorem Furnished.refl (v : Volume) (steps : List String) : v.Furnished v steps :=
  ⟨rfl, rfl, fun _ => Or.inl rfl⟩

theorem Furnished.cons (h : v.Furnished v' rest) (step : String) : v.Furnished v' (step :: rest) := by
  refine ⟨h.current_eq, h.limits_eq, fun q => ?_⟩
  rcases h.entry q with hsame | ⟨hnone, hnew, upper, name, hname, heq⟩
  · exact Or.inl hsame
  · exact Or.inr ⟨hnone, hnew, upper, name, List.mem_cons_of_mem step hname, heq⟩

theorem Furnished.contains (h : v.Furnished v' steps) : v'.Contains v := by
  refine ⟨h.current_eq, h.limits_eq, fun q entry hq => ?_⟩
  rcases h.entry q with hsame | ⟨hnone, -, -⟩
  · rw [hsame, hq]
  · rw [hq] at hnone
    exact nomatch hnone

theorem Furnished.extends (h : v.Furnished v' steps) : v.Extends v' := h.contains.extends

/-- What is found after a directory has been made. -/
theorem entryAt?_put_below (v : Volume) (place : Place) (step : String) (entry : Entry) (q : Place) :
    (v.put (place.below step) entry).entryAt? q
      = if q = place.below step then some entry else v.entryAt? q :=
  entryAt?_put v _ q entry (Place.below_ne_top place step)

theorem entryAt?_put_self (v : Volume) (place : Place) (step : String) (entry : Entry) :
    (v.put (place.below step) entry).entryAt? (place.below step) = some entry := by
  rw [entryAt?_put_below, if_pos rfl]

/-- A directory that was missing can be made in a tree. -/
theorem IsTree.put_directory (h : v.IsTree) (hplace : v.entryAt? place = some .directory)
    (hnone : v.entryAt? (place.below step) = none) : (v.put (place.below step) .directory).IsTree := by
  refine h.of_change hplace ?_ (entryAt?_put_below v place step .directory)
  rw [hnone]
  exact (Option.some_ne_none _).symm

/-- A directory that was missing has been made, and then others. -/
theorem Furnished.new (hnone : v.entryAt? (place.below step) = none)
    (h : (v.put (place.below step) .directory).Furnished v' rest) : v.Furnished v' (step :: rest) := by
  refine ⟨h.current_eq, h.limits_eq, fun q => ?_⟩
  have hput := entryAt?_put_below v place step .directory q
  by_cases hq : q = place.below step
  · rw [if_pos hq] at hput
    refine Or.inr ⟨hq ▸ hnone, h.extends.directory q hput, place, step, List.mem_cons_self, hq⟩
  · rw [if_neg hq] at hput
    have hrest := (h.cons step).entry q
    rw [hput] at hrest
    exact hrest

/-- **The result of creating directories.** Some may have been made, the volume is still a tree, and
unless there was an error the last of them is there. -/
structure Created (v : Volume) (place : Place) (steps : List String)
    (r : Except IoError Unit × Volume) : Prop where
  furnished : v.Furnished r.2 steps
  isTree : v.IsTree → r.2.IsTree
  reached : r.1 = .ok () → ".." ∉ steps → v.entryAt? place = some .directory →
    r.2.entryAt? (place.descend steps) = some .directory

theorem Created.failed (v : Volume) (place : Place) (steps : List String) (e : IoError) :
    v.Created place steps (.error e, v) :=
  ⟨.refl v steps, fun h => h, fun h => nomatch h⟩

/-- **Creating directories** gives such a result. -/
theorem createDown_created (v : Volume) (place : Place) (isCreating : Bool) (steps : List String) :
    v.Created place steps (v.createDown place isCreating steps) := by
  induction steps generalizing v place isCreating with
  | nil => exact ⟨.refl v [], fun h => h, fun _ _ h => h⟩
  | cons step rest ih =>
      by_cases hplace : v.entryAt? place = some .directory
      · rcases createDown_cons_cases hplace step with rfl | rfl | ⟨hdot, hup, hlong⟩ | hdescends
        · rw [createDown_stay hplace]
          obtain ⟨hfurnished, htree, hreached⟩ := ih v place isCreating
          refine ⟨hfurnished.cons _, htree, fun hok hup hstart => ?_⟩
          exact hreached hok (fun hmem => hup (List.mem_cons_of_mem _ hmem)) hstart
        · rw [createDown_up hplace]
          obtain ⟨hfurnished, htree, -⟩ := ih v place.above isCreating
          exact ⟨hfurnished.cons _, htree, fun _ hup => absurd List.mem_cons_self hup⟩
        · rw [createDown_refused hplace hdot hup hlong]
          exact .failed v place _ _
        · -- The step names something below: a directory, a file, or nothing yet.
          have hnext : place.descend (step :: rest) = (place.below step).descend rest := by
            rw [Place.descend, if_neg hdescends.ne_dot]
          cases hbelow : v.entryAt? (place.below step) with
          | none =>
              rw [createDown_new hdescends hbelow]
              obtain ⟨hfurnished, htree, hreached⟩ :=
                ih (v.put (place.below step) .directory) (place.below step) true
              refine ⟨.new hbelow hfurnished, fun hv => htree (hv.put_directory hplace hbelow),
                fun hok hup _ => ?_⟩
              rw [hnext]
              exact hreached hok (fun hmem => hup (List.mem_cons_of_mem _ hmem))
                (entryAt?_put_self v place step .directory)
          | some entry =>
              cases entry with
              | directory =>
                  rw [createDown_through hdescends hbelow]
                  obtain ⟨hfurnished, htree, hreached⟩ := ih v (place.below step) isCreating
                  refine ⟨hfurnished.cons _, htree, fun hok hup _ => ?_⟩
                  rw [hnext]
                  exact hreached hok (fun hmem => hup (List.mem_cons_of_mem _ hmem)) hbelow
              | file bytes =>
                  rw [createDown_blocked hdescends hbelow]
                  exact .failed v place _ _
      · rw [createDown_missing hplace]
        exact .failed v place _ _

/-! ## Creating them once more -/

/-- Where directories are being created, nothing lies below the place. -/
def IsFresh (v : Volume) (place : Place) (isCreating : Bool) : Prop :=
  isCreating = true → ∀ name, v.entryAt? (place.below name) = none

theorem isFresh_false (v : Volume) (place : Place) : v.IsFresh place false :=
  fun hcreating => absurd hcreating Bool.false_ne_true

/-- Where something lies below the place, no directory is being created. -/
theorem IsFresh.eq_false (h : v.IsFresh place isCreating) {entry : Entry}
    (hbelow : v.entryAt? (place.below step) = some entry) : isCreating = false := by
  rw [Bool.eq_false_iff]
  intro hcreating
  have hnone := h hcreating step
  rw [hbelow] at hnone
  exact nomatch hnone

/-- Nothing lies below a directory that was made just now. -/
theorem IsTree.isFresh_put (h : v.IsTree) (hnone : v.entryAt? (place.below step) = none) :
    (v.put (place.below step) .directory).IsFresh (place.below step) true := by
  intro _ name
  rw [entryAt?_put_below, if_neg (Place.below_ne_self _ _)]
  exact h.none_below hnone name

/-- **Creating the same directories once more** ends as it ended and changes nothing, in every volume
`w` that has grown from the result. -/
theorem createDown_again {w : Volume} (htree : v.IsTree) (hplace : v.entryAt? place = some .directory)
    (hup : ".." ∉ steps) (hfresh : v.IsFresh place isCreating)
    (hgrown : (v.createDown place isCreating steps).2.Extends w) :
    w.createDown place false steps = ((v.createDown place isCreating steps).1, w) := by
  induction steps generalizing v place isCreating with
  | nil => rfl
  | cons step rest ih =>
      have hfrom : v.Extends w :=
        (createDown_created v place isCreating (step :: rest)).furnished.extends.trans hgrown
      have hplace' := hfrom.directory place hplace
      have hrest : ".." ∉ rest := fun hmem => hup (List.mem_cons_of_mem _ hmem)
      rcases createDown_cons_cases hplace step with rfl | rfl | ⟨hdot, hdots, hlong⟩ | hdescends
      · rw [createDown_stay hplace] at hgrown ⊢
        rw [createDown_stay hplace']
        exact ih htree hplace hrest hfresh hgrown
      · exact absurd List.mem_cons_self hup
      · rw [createDown_refused hplace hdot hdots hlong]
        rw [← hfrom.limits_eq] at hlong
        exact createDown_refused hplace' hdot hdots hlong
      · have hdescends' : w.Descends place step :=
          ⟨hplace', hdescends.ne_dot, hdescends.ne_dots, hfrom.limits_eq.symm ▸ hdescends.fits⟩
        cases hbelow : v.entryAt? (place.below step) with
        | none =>
            -- The directory was made and is found now; nothing was below it, and nothing is in the way.
            rw [createDown_new hdescends hbelow] at hgrown ⊢
            have hmade := entryAt?_put_self v place step .directory
            have hfound := ((createDown_created _ (place.below step) true rest).furnished.extends.trans
              hgrown).directory _ hmade
            rw [createDown_through hdescends' hfound]
            exact ih (htree.put_directory hplace hbelow) hmade hrest (htree.isFresh_put hbelow) hgrown
        | some entry =>
            have hnot := hfresh.eq_false hbelow
            cases entry with
            | directory =>
                rw [createDown_through hdescends hbelow] at hgrown ⊢
                rw [createDown_through hdescends' (hfrom.directory _ hbelow)]
                exact ih htree hbelow hrest (hnot ▸ isFresh_false v _) hgrown
            | file bytes =>
                obtain ⟨bytes', hfile⟩ := hfrom.file _ _ hbelow
                rw [createDown_blocked hdescends hbelow, createDown_blocked hdescends' hfile, hnot]

/-! ## Creating directories below one that is there -/

/-- Where a walk leads to a directory, the steps to it are gone through. -/
theorem createDown_of_walk (h : v.walk place (steps.filter (· ≠ ".")) = .ok q)
    (hq : v.entryAt? q = some .directory) :
    v.createDown place isCreating (steps ++ rest) = v.createDown q isCreating rest := by
  induction steps generalizing place with
  | nil =>
      rw [Except.ok.inj h]
      rfl
  | cons step others ih =>
      have hplace := directory_of_walk h hq
      rw [List.cons_append]
      by_cases hdot : step = "."
      · subst hdot
        rw [createDown_stay hplace]
        exact ih h
      · have hkept : (step :: others).filter (· ≠ ".") = step :: others.filter (· ≠ ".") :=
          List.filter_cons_of_pos (decide_eq_true hdot)
        rw [hkept] at h
        obtain ⟨hstay, -⟩ | ⟨rfl, hrest⟩ | ⟨-, hup, hfits, hrest⟩ := walk_cons_cases h
        · exact absurd hstay hdot
        · rw [createDown_up hplace]
          exact ih hrest
        · rw [createDown_through ⟨hplace, hdot, hup, hfits⟩ (directory_of_walk hrest hq)]
          exact ih hrest

/-- The steps go down by names that are short enough, and no file at or below the place has one of these
names. -/
structure IsClear (v : Volume) (place : Place) (steps : List String) : Prop where
  plain : ∀ step ∈ steps, step ≠ "." ∧ step ≠ ".." ∧ ¬ v.limits.refusesName step = true
  free : ∀ upper : Place, upper.isWithin place = true → ∀ step ∈ steps, ∀ bytes,
    v.entryAt? (upper.below step) ≠ some (.file bytes)

theorem IsClear.tail (h : v.IsClear place (step :: rest)) : v.IsClear (place.below step) rest := by
  refine ⟨fun name hname => h.plain name (List.mem_cons_of_mem step hname), ?_⟩
  intro upper hupper name hname
  exact h.free upper (Place.isWithin_trans hupper (Place.isWithin_below (Place.isWithin_refl _) _)) name
    (List.mem_cons_of_mem step hname)

theorem IsClear.descends (h : v.IsClear place (step :: rest))
    (hplace : v.entryAt? place = some .directory) : v.Descends place step := by
  obtain ⟨hdot, hup, hfits⟩ := h.plain step List.mem_cons_self
  exact ⟨hplace, hdot, hup, hfits⟩

/-- A new directory is no file. -/
theorem IsClear.put_directory (h : v.IsClear q rest) (place : Place) (step : String) :
    (v.put (place.below step) .directory).IsClear q rest := by
  refine ⟨h.plain, fun upper hupper name hname bytes => ?_⟩
  rw [entryAt?_put_below]
  split
  · exact fun hfile => nomatch hfile
  · exact h.free upper hupper name hname bytes

/-- **Directories that are missing below a directory can be created** if the way is clear. -/
theorem createDown_clear (hplace : v.entryAt? place = some .directory) (hclear : v.IsClear place steps) :
    (v.createDown place isCreating steps).1 = .ok () := by
  induction steps generalizing v place isCreating with
  | nil => rfl
  | cons step rest ih =>
      have hdescends := hclear.descends hplace
      cases hbelow : v.entryAt? (place.below step) with
      | none =>
          rw [createDown_new hdescends hbelow]
          exact ih (entryAt?_put_self v place step .directory) (hclear.tail.put_directory place step)
      | some entry =>
          cases entry with
          | directory =>
              rw [createDown_through hdescends hbelow]
              exact ih hbelow hclear.tail
          | file bytes =>
              exact absurd hbelow (hclear.free place (Place.isWithin_refl _) step List.mem_cons_self bytes)

/-- **A file in a directory that is missing** is not found if the way is clear. -/
theorem walk_missing {file : String} (hplace : v.entryAt? place = some .directory)
    (hclear : v.IsClear place steps) (hend : v.entryAt? (place.descend steps) ≠ some .directory) :
    v.walk place (steps ++ [file]) = .error (.system .notFound) := by
  induction steps generalizing place with
  | nil => exact absurd hplace hend
  | cons step rest ih =>
      obtain ⟨-, hdot, hup, hfits⟩ := hclear.descends hplace
      rw [Place.descend, if_neg hdot] at hend
      rw [List.cons_append, walk_down hplace hdot hup hfits]
      cases hbelow : v.entryAt? (place.below step) with
      | none =>
          cases rest with
          | nil => rw [List.nil_append, walk, hbelow]
          | cons next others => rw [List.cons_append, walk, hbelow]
      | some entry =>
          cases entry with
          | directory => exact ih hbelow hclear.tail hend
          | file bytes =>
              exact absurd hbelow (hclear.free place (Place.isWithin_refl _) step List.mem_cons_self bytes)

end Volume

end EntityAudit
